import BatchMailer.Proofs.Run.Matched

/-!
# BatchMailer.Proofs.Run.Codes

The codes of activation records, which are read and used for nothing.

A mail of activation shows no code, so records that differ in it alone have the
same destination (`Destination.ofRecord_eq_of_sameUnder`), and a sender is asked
the same.  Two streams with other codes make runs that are the same in every
respect (`Run.same_send`), though they are of different lengths and are read in
different pieces.
-/

namespace BatchMailer

/-- The veil over the codes of activation records. -/
def Veil.codes : Veil := fun kind number => kind = .activation ∧ number = 4

namespace Wire

/-- Whether a token is the fourth field of an activation record. -/
def IsCode (input : List UInt8) (i : Nat) : Prop :=
  i % 5 = 4 ∧ (tokens input)[i - 4]? = some [Kind.activation.token]

/-- Two inputs with the same delimiters and the same tokens, but for the codes of
activation records, none of which is too long. -/
structure SameButCodes (input input' : List UInt8) : Prop where
  delimiters : input.filter isDelimiter = input'.filter isDelimiter
  tokens : ∀ i t t', (tokens input)[i]? = some t → (Wire.tokens input')[i]? = some t' →
    t = t' ∨ IsCode input i ∧ t.length ≤ Record.maxFieldLength ∧ t'.length ≤ Record.maxFieldLength

instance (input : List UInt8) (i : Nat) : Decidable (IsCode input i) :=
  inferInstanceAs (Decidable (_ ∧ _))

instance (input input' : List UInt8) : Decidable (SameButCodes input input') :=
  decidable_of_iff (input.filter isDelimiter = input'.filter isDelimiter ∧
      ∀ i < (tokens input).length, ∀ t ∈ (tokens input)[i]?, ∀ t' ∈ (tokens input')[i]?,
        t = t' ∨ IsCode input i ∧
          t.length ≤ Record.maxFieldLength ∧ t'.length ≤ Record.maxFieldLength) <| by
    constructor
    · intro hboth
      obtain ⟨hdelimiters, htokens⟩ := hboth
      exact ⟨hdelimiters, fun i t t' ht ht' =>
        htokens i (List.getElem?_eq_some_iff.1 ht).1 t ht t' ht'⟩
    · intro h
      exact ⟨h.delimiters, fun i _ t ht t' ht' => h.tokens i t t' ht ht'⟩

theorem SameButCodes.sameUnder {input input' : List UInt8} (h : SameButCodes input input') :
    SameUnder .codes input input' := by
  refine ⟨h.delimiters, fun i t t' ht ht' => (h.tokens i t t' ht ht').imp_right ?_⟩
  rintro ⟨⟨hplace, hkind⟩, hfits⟩
  refine ⟨⟨by omega, fun kind hgroup => ?_⟩, hfits⟩
  have hstart : 5 * (i / 5) = i - 4 := by omega
  rw [hstart, hkind, Option.some.injEq, List.singleton_inj] at hgroup
  exact ⟨(Kind.token_injective hgroup).symm, hplace⟩

end Wire

/-- A code that is not shown is not in the destination of a record. -/
theorem Destination.ofRecord_eq_of_sameUnder {r r' : Record} (h : r.SameUnder .codes r') :
    Destination.ofRecord r = .ofRecord r' := by
  obtain ⟨kind, toAddress, login, secret, code⟩ := r
  obtain ⟨kind', toAddress', login', secret', code'⟩ := r'
  obtain ⟨rfl, hfields⟩ := h
  have haddress := hfields.seen 0 (by simp [Veil.codes])
  have hlogin := hfields.seen 1 (by simp [Veil.codes])
  have hsecret := hfields.seen 2 (by simp [Veil.codes])
  simp only [Record.fields, List.getElem?_cons_zero, List.getElem?_cons_succ, Option.some.injEq]
    at haddress hlogin hsecret
  subst haddress hlogin hsecret
  cases kind with
  | activation => rfl
  | passwordRecovery =>
      have hcode := hfields.seen 3 (by simp [Veil.codes])
      simp only [Record.fields, List.getElem?_cons_zero, List.getElem?_cons_succ,
        Option.some.injEq] at hcode
      rw [hcode]

theorem Request.ofRecords_eq_of_sameUnder (kind : Kind) (records records' : List Record)
    (h : List.Forall₂ (Record.SameUnder .codes) records records') :
    Request.ofRecords kind records = .ofRecords kind records' := by
  have hdestinations : records.map Destination.ofRecord = records'.map Destination.ofRecord := by
    induction h with
    | nil => rfl
    | cons hr _ ih => rw [List.map_cons, List.map_cons, Destination.ofRecord_eq_of_sameUnder hr, ih]
  rw [ofRecords, ofRecords, hdestinations]

namespace Run

variable {σ τ : Type}

/-- Two runs that are the same, but for the reads they made. -/
structure Report.Same (r r' : Report σ) : Prop where
  ending : r.ending = r'.ending
  host : r.host = r'.host
  sender : r.sender = r'.sender
  client : r.client = r'.client

/-- Runs that were matched all along are the same. -/
theorem Report.Matched.same_of_eq {r r' : Report σ} (h : r.Matched Eq r') : r.Same r' := by
  cases h with
  | same h => exact h ▸ ⟨rfl, rfl, rfl, rfl⟩
  | ended result o o' ho sender sender' finish finish' client =>
      subst ho
      obtain ⟨hending, hhost⟩ := Prod.mk.inj (finish.trans finish'.symm)
      exact ⟨hending, hhost, sender.trans sender'.symm, client⟩

/-- A run with any sender is the same over streams that differ in codes alone. -/
theorem same_of_sameButCodes (build : Settings → BuiltSender σ) (settings : Except SettingsError Settings)
    {chunks chunks' : List (List UInt8)} (hchunks : ∀ chunk ∈ chunks, chunk ≠ [])
    (hchunks' : ∀ chunk ∈ chunks', chunk ≠ [])
    (hsame : Wire.SameButCodes chunks.flatten chunks'.flatten) (host : Host) :
    (send build settings (chunks.map .bytes) host).Same
      (send build settings (chunks'.map .bytes) host) := by
  have hstreams := Delivery.sameUnder_of_chunks hchunks hchunks' hsame.sameUnder
  refine (matched_send build settings (fun s _ => ?_) (fun _ _ _ => rfl) hstreams host).same_of_eq
  refine flushing_inStepUnder Request.ofRecords_eq_of_sameUnder ?_
  rintro q _ o _ rfl rfl
  exact ⟨rfl, rfl⟩

/-- **The codes of activation records are invisible.**  Over two streams that have
the same delimiters and tokens, but for the codes of activation records, and that
are each delivered in whatever pieces, a run with any sender is the same: it ends
in the same way with the same client, and leaves the same log, files and printed
text.  The sender comes to the same state; one that keeps its requests was given
the same requests, and one that talks to SES has made its calls with the same
parameters. -/
theorem same_send (build : Settings → BuiltSender σ) (service : Ses.Service τ) (start : τ)
    (settings : Except SettingsError Settings) (chunks chunks' : List (List UInt8))
    (hchunks : ∀ chunk ∈ chunks, chunk ≠ []) (hchunks' : ∀ chunk ∈ chunks', chunk ≠ [])
    (hsame : Wire.SameButCodes chunks.flatten chunks'.flatten) (host : Host) :
    (send build settings (chunks.map .bytes) host).Same
        (send build settings (chunks'.map .bytes) host) ∧
      (send (fun s => (build s).recording) settings (chunks.map .bytes) host).Same
        (send (fun s => (build s).recording) settings (chunks'.map .bytes) host) ∧
      (send (selected service start) settings (chunks.map .bytes) host).Same
        (send (selected service start) settings (chunks'.map .bytes) host) :=
  ⟨same_of_sameButCodes build settings hchunks hchunks' hsame host,
    same_of_sameButCodes (fun s => (build s).recording) settings hchunks hchunks' hsame host,
    same_of_sameButCodes (selected service start) settings hchunks hchunks' hsame host⟩

/-- A line feed within a record of either kind, codes of different lengths, and other
pieces: the sender is given the same requests. -/
theorem same_send_mixed_kinds :
    let host := Host.start ⟨⟨⟨2024, 2, 29⟩, 12, 30, 0, 0, 0⟩, []⟩ ⟨.nan, []⟩ .fresh
    let settings : Settings := ⟨false, "set", "source", "out", [], none, none, .nan, .nan⟩
    (send (fun s => (given scripted [] s).recording) (.ok settings)
      [.bytes [0x31, 0x2C, 0x61, 0x0A, 0x62, 0x2C, 0x63, 0x2C],
        .bytes [0x78, 0x79, 0x0A, 0x32, 0x2C, 0x64, 0x2C, 0x65, 0x0A, 0x66, 0x2C, 0x67, 0x0A]]
      host).Same
    (send (fun s => (given scripted [] s).recording) (.ok settings)
      [.bytes [0x31, 0x2C, 0x61, 0x0A, 0x62, 0x2C, 0x63, 0x2C, 0x7A, 0x7A, 0x7A, 0x7A],
        .bytes [0x7A, 0x0A, 0x32, 0x2C, 0x64, 0x2C, 0x65, 0x0A],
        .bytes [0x66, 0x2C, 0x67, 0x0A]] host) := by
  intro host settings
  exact (same_send (given scripted []) Ses.scriptedService [] (.ok settings)
    [[0x31, 0x2C, 0x61, 0x0A, 0x62, 0x2C, 0x63, 0x2C],
      [0x78, 0x79, 0x0A, 0x32, 0x2C, 0x64, 0x2C, 0x65, 0x0A, 0x66, 0x2C, 0x67, 0x0A]]
    [[0x31, 0x2C, 0x61, 0x0A, 0x62, 0x2C, 0x63, 0x2C, 0x7A, 0x7A, 0x7A, 0x7A],
      [0x7A, 0x0A, 0x32, 0x2C, 0x64, 0x2C, 0x65, 0x0A], [0x66, 0x2C, 0x67, 0x0A]]
    (by decide) (by decide) (by decide) host).2.1

end Run

end BatchMailer
