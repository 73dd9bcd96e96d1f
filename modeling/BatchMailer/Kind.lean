/-!
# BatchMailer.Kind

The two kinds of notice the mailer sends.  A kind has

* an `index`, which orders the batches and names diagnostic files;
* a `token`, the byte that stands for it on the wire;
* a `name`, which log lines and error texts use.

`ofToken?` reads a token back, and accepts no other byte
(`ofToken?_eq_some_iff`).
-/

namespace BatchMailer

/-- What a notice is about. -/
inductive Kind where
  | activation
  | passwordRecovery
  deriving DecidableEq, Repr

namespace Kind

/-- Both kinds, by index. -/
def all : List Kind := [activation, passwordRecovery]

/-- The place of a kind among the batches, from zero. -/
def index : Kind → Nat
  | activation => 0
  | passwordRecovery => 1

/-- The byte that announces a record of this kind: the digits `1` and `2`. -/
def token : Kind → UInt8
  | activation => 0x31
  | passwordRecovery => 0x32

/-- The name of a kind in logs and error texts. -/
def name : Kind → String
  | activation => "ACTIVATION"
  | passwordRecovery => "PASSWORD_RECOVERY"

/-- The kind a byte announces, if it announces one. -/
def ofToken? (byte : UInt8) : Option Kind :=
  all.find? (fun kind => kind.token == byte)

@[simp] theorem mem_all (kind : Kind) : kind ∈ all := by
  cases kind <;> simp [all]

theorem index_injective {k l : Kind} (h : k.index = l.index) : k = l := by
  cases k <;> cases l <;> simp_all [index]

theorem token_injective {k l : Kind} (h : k.token = l.token) : k = l := by
  cases k <;> cases l <;> simp_all [token]

@[simp] theorem ofToken?_token (kind : Kind) : ofToken? kind.token = some kind := by
  cases kind <;> decide

/-- Only a kind's own token is read as that kind. -/
theorem ofToken?_eq_some_iff {byte : UInt8} {kind : Kind} :
    ofToken? byte = some kind ↔ byte = kind.token := by
  constructor
  · intro h
    have := List.find?_some h
    simpa using (beq_iff_eq.1 this).symm
  · rintro rfl
    exact ofToken?_token kind

end Kind

end BatchMailer
