/-!
# BatchMailer.Text.Digits

Numerals of a fixed width.  `digits base width n` has exactly `width` digits,
the most significant first, and drops what does not fit; a number below
`base ^ width` is read back from it (`ofDigits_digits`).
-/

namespace BatchMailer.Text

/-- The digit of a value below sixteen; letters are lower case. -/
def digit (value : Nat) : Char :=
  if value < 10 then Char.ofNat (0x30 + value) else Char.ofNat (0x57 + value)

/-- The last `width` digits of a number, with leading zeros. -/
def digits (base : Nat) : (width : Nat) → (n : Nat) → List Char
  | 0, _ => []
  | width + 1, n => digits base width (n / base) ++ [digit (n % base)]

/-- The value of a digit up to `f`. -/
def digitValue (c : Char) : Nat :=
  if c.toNat < 0x3A then c.toNat - 0x30 else c.toNat - 0x57

/-- The number a list of digits stands for. -/
def ofDigits (base : Nat) (cs : List Char) : Nat :=
  cs.foldl (fun n c => n * base + digitValue c) 0

@[simp] theorem length_digits (base width n : Nat) : (digits base width n).length = width := by
  induction width generalizing n with
  | zero => rfl
  | succ w ih => simp [digits, ih]

theorem digitValue_digit : ∀ v : Fin 16, digitValue (digit v) = v.val := by decide

theorem toNat_digit_ge : ∀ v : Fin 16, 0x30 ≤ (digit v).toNat := by decide

/-- What a numeral is made of are digits of the base. -/
theorem exists_digit_of_mem_digits {base : Nat} (hbase : 0 < base) {width n : Nat} {c : Char}
    (h : c ∈ digits base width n) : ∃ v < base, c = digit v := by
  induction width generalizing n with
  | zero => simp [digits] at h
  | succ w ih =>
    simp only [digits, List.mem_append, List.mem_singleton] at h
    rcases h with h | rfl
    · exact ih h
    · exact ⟨n % base, Nat.mod_lt _ hbase, rfl⟩

/-- A number that fits is read back from its digits. -/
theorem ofDigits_digits {base : Nat} (hbase : 0 < base) (hle : base ≤ 16) {width n : Nat}
    (h : n < Nat.pow base width) : ofDigits base (digits base width n) = n := by
  induction width generalizing n with
  | zero => simp_all [digits, ofDigits]
  | succ w ih =>
    have hdiv : n / base < Nat.pow base w := (Nat.div_lt_iff_lt_mul hbase).2 h
    have hmod : n % base < 16 := Nat.lt_of_lt_of_le (Nat.mod_lt _ hbase) hle
    have hdigit := digitValue_digit ⟨n % base, hmod⟩
    have hfront := ih hdiv
    simp only [ofDigits] at hfront
    simp only [digits, ofDigits, List.foldl_append, List.foldl_cons, List.foldl_nil, hfront]
    rw [hdigit, Nat.mul_comm]
    exact Nat.div_add_mod n base

/-- Numbers that fit are told apart by their digits. -/
theorem digits_injective {base : Nat} (hbase : 0 < base) (hle : base ≤ 16) {width m n : Nat}
    (hm : m < Nat.pow base width) (hn : n < Nat.pow base width)
    (h : digits base width m = digits base width n) : m = n := by
  rw [← ofDigits_digits hbase hle hm, h, ofDigits_digits hbase hle hn]

end BatchMailer.Text
