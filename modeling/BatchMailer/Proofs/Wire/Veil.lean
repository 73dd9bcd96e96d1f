import BatchMailer.Proofs.Store.Veil
import BatchMailer.Proofs.Wire.Tokens
import BatchMailer.Stream

/-!
# BatchMailer.Proofs.Wire.Veil

Inputs that look the same through a veil, and why nobody can tell them apart.

Two inputs look the same if they have the same delimiters and if their tokens
differ in hidden fields alone, in which none is too long (`Wire.SameUnder`).  The
decoder takes them token by token.  At every delimiter it stands in the same
place of a record in both (`Decoder.Level`), having refused both or neither
(`Closed`); so line by line the handlers of the two find stores that
look the same, and as long as they keep in step on such stores, so do the runs
(`feed_sameUnder`).
-/

namespace BatchMailer

namespace Wire

/-! ## inputs -/

/-- Whether a token is a hidden field: its group tells the kind, its place the
number of the field. -/
def Hidden (veil : Veil) (toks : List (List UInt8)) (i : Nat) : Prop :=
  i % 5 ≠ 0 ∧ ∀ kind : Kind, toks[5 * (i / 5)]? = some [kind.token] → veil kind (i % 5)

/-- Two tokens in one place that are the same, or hidden and none of them too
long. -/
def Alike (veil : Veil) (toks : List (List UInt8)) (i : Nat) (t t' : List UInt8) : Prop :=
  t = t' ∨ Hidden veil toks i ∧ t.length ≤ Record.maxFieldLength ∧ t'.length ≤ Record.maxFieldLength

/-- Two inputs that look the same. -/
structure SameUnder (veil : Veil) (input input' : List UInt8) : Prop where
  delimiters : input.filter isDelimiter = input'.filter isDelimiter
  tokens : ∀ i t t', (tokens input)[i]? = some t → (Wire.tokens input')[i]? = some t' →
    Alike veil (Wire.tokens input) i t t'

/-- The first token of an input and those behind its delimiter. -/
theorem tokens_append_cons {t : List UInt8} (ht : ∀ b ∈ t, isDelimiter b = false) {b : UInt8}
    (hb : isDelimiter b = true) (rest : List UInt8) :
    tokens (t ++ b :: rest) = t :: tokens rest := by
  induction t with
  | nil => exact segments_cons_sep hb rest
  | cons c more ih =>
      have hc : isDelimiter c = false := ht c List.mem_cons_self
      exact segments_cons_of_eq hc (ih fun d hd => ht d (List.mem_cons_of_mem c hd))

end Wire

/-! ## one token -/

namespace Decoder

/-- Takes a byte that closes nothing. -/
def take (d : Decoder) (b : UInt8) : Except WireError Decoder :=
  if d.index = 0 then
    match d.kind with
    | some _ => .error (.longKind b)
    | none => (Wire.readKind b).map fun kind => { d with kind := some kind }
  else if Record.maxFieldLength ≤ d.fieldLength then .error (.longField d.index)
  else .ok { d with field := d.field ++ [b] }

/-- Takes such bytes in turn. -/
def takeAll (d : Decoder) : List UInt8 → Except WireError Decoder
  | [] => .ok d
  | b :: rest =>
    match d.take b with
    | .error e => .error e
    | .ok d => d.takeAll rest

/-- Bytes of a field are taken while there is room. -/
theorem takeAll_field (kind : Kind) {index : Int} (hindex : index ≠ 0)
    (fields : List (List UInt8)) (t field : List UInt8)
    (hfield : field.length ≤ Record.maxFieldLength) :
    takeAll ⟨some kind, index, field, fields⟩ t =
      if (field ++ t).length ≤ Record.maxFieldLength then
        .ok ⟨some kind, index, field ++ t, fields⟩
      else .error (.longField index) := by
  induction t generalizing field with
  | nil => simp [takeAll, hfield]
  | cons b rest ih =>
      by_cases hfull : Record.maxFieldLength ≤ field.length
      · have hlong : ¬ (field ++ b :: rest).length ≤ Record.maxFieldLength := by
          simp only [List.length_append, List.length_cons]
          omega
        rw [if_neg hlong]
        simp [takeAll, take, hindex, fieldLength, hfull]
      · have hroom : (field ++ [b]).length ≤ Record.maxFieldLength := by
          simp only [List.length_append, List.length_singleton]
          omega
        simp only [takeAll, take, hindex, fieldLength, hfull, if_false]
        rw [ih (field ++ [b]) hroom, List.append_assoc, List.singleton_append]

end Decoder

section

variable {σ : Type} (onLine : LineHandler σ)

theorem Intake.consume_of_not_delimiter {b : UInt8} (hb : Wire.isDelimiter b = false) (d : Decoder)
    (store : Store) :
    Intake.consume ⟨d, store⟩ b =
      match d.take b with
      | .error e => (.error e, ⟨d, store⟩)
      | .ok e => (.ok .continues, ⟨e, store⟩) := by
  rw [consume, if_neg (by simp [hb]), Decoder.take]
  by_cases hindex : d.index = 0
  · simp only [hindex, if_true, takeKind]
    cases d.kind with
    | some kind => rfl
    | none =>
        cases Wire.readKind b <;> rfl
  · simp only [hindex, if_false, takeByte]
    split <;> rfl

/-- A token that is taken leads to what follows it. -/
theorem feed_of_takeAll_eq_ok {t : List UInt8} (ht : ∀ b ∈ t, Wire.isDelimiter b = false)
    {d e : Decoder} (h : d.takeAll t = .ok e) (more : List UInt8) (store : Store) (a : σ) :
    feed onLine (t ++ more) ⟨d, store⟩ a = feed onLine more ⟨e, store⟩ a := by
  induction t generalizing d with
  | nil =>
      rw [← Except.ok.inj h]
      rfl
  | cons b rest ih =>
      have hconsume := Intake.consume_of_not_delimiter (ht b List.mem_cons_self) d store
      rw [Decoder.takeAll] at h
      cases htake : d.take b with
      | error err =>
          rw [htake] at h
          contradiction
      | ok e' =>
          rw [htake] at h hconsume
          rw [List.cons_append, feed_of_continues hconsume]
          exact ih (fun c hc => ht c (List.mem_cons_of_mem b hc)) h

/-- A token that is refused is the end. -/
theorem feed_of_takeAll_eq_error {t : List UInt8} (ht : ∀ b ∈ t, Wire.isDelimiter b = false)
    {d : Decoder} {e : WireError} (h : d.takeAll t = .error e) (more : List UInt8) (store : Store)
    (a : σ) :
    (feed onLine (t ++ more) ⟨d, store⟩ a).result = .error (.wire e) ∧
      (feed onLine (t ++ more) ⟨d, store⟩ a).state = a := by
  induction t generalizing d with
  | nil => exact nomatch h
  | cons b rest ih =>
      have hconsume := Intake.consume_of_not_delimiter (ht b List.mem_cons_self) d store
      rw [Decoder.takeAll] at h
      cases htake : d.take b with
      | error err =>
          rw [htake] at h hconsume
          rw [List.cons_append, feed_of_error hconsume]
          exact ⟨congrArg (Except.error ∘ Fault.wire) (Except.error.inj h), rfl⟩
      | ok e' =>
          rw [htake] at h hconsume
          rw [List.cons_append, feed_of_continues hconsume]
          exact ih (fun c hc => ht c (List.mem_cons_of_mem b hc)) h

end

/-! ## two decoders -/

namespace Decoder

/-- Two decoders at the token with a given number, neither of which has read any
of it: both await a kind, or both a field of a record of the kind that its group
tells, and the fields before it look the same. -/
inductive Level (veil : Veil) (toks : List (List UInt8)) (i : Nat) : Decoder → Decoder → Prop where
  | kind (hi : i % 5 = 0) : Level veil toks i .fresh .fresh
  | field (kind : Kind) (htok : toks[5 * (i / 5)]? = some [kind.token])
      {fields fields' : List (List UInt8)} (hi : i % 5 = fields.length + 1)
      (hsame : FieldsSameUnder veil kind fields fields') :
      Level veil toks i ⟨some kind, fields.length + 1, [], fields⟩
        ⟨some kind, fields.length + 1, [], fields'⟩

/-- The token of a kind is refused, or has one byte, which tells the kind. -/
theorem takeAll_fresh (t : List UInt8) :
    (∃ e, takeAll .fresh t = .error e) ∨ t = [] ∧ takeAll .fresh t = .ok .fresh ∨
      ∃ kind : Kind, t = [kind.token] ∧ takeAll .fresh t = .ok ⟨some kind, 0, [], []⟩ := by
  match t with
  | [] => exact .inr (.inl ⟨rfl, rfl⟩)
  | b :: rest =>
      have htake : take .fresh b = (Wire.readKind b).map fun kind => ⟨some kind, 0, [], []⟩ := rfl
      rw [takeAll, htake, Wire.readKind]
      cases hb : Kind.ofToken? b with
      | none => exact .inl ⟨_, rfl⟩
      | some kind =>
          have htoken : b = kind.token := Kind.ofToken?_eq_some_iff.1 hb
          cases rest with
          | nil => exact .inr (.inr ⟨kind, by rw [htoken], rfl⟩)
          | cons c more => exact .inl ⟨.longKind c, rfl⟩

end Decoder

/-- What becomes of two intakes at a delimiter: both are refused for the same
reason, or both stand at the next token with stores that look the same. -/
def Closed (veil : Veil) (toks : List (List UInt8)) (i : Nat) (s s' : Intake) : Prop :=
  (∃ e t t', s.closeField = (.error e, t) ∧ s'.closeField = (.error e, t')) ∨
    ∃ d d' store store', s.closeField = (.ok (), ⟨d, store⟩) ∧
      s'.closeField = (.ok (), ⟨d', store'⟩) ∧ d.Level veil toks (i + 1) d' ∧
      store.SameUnder veil store'

namespace Decoder

section

variable {veil : Veil} {toks : List (List UInt8)} {i : Nat} {store store' : Store}

/-- A kind that was read is closed by any delimiter. -/
theorem closed_kind (hi : i % 5 = 0) (kind : Kind) (htok : toks[i]? = some [kind.token])
    (hstore : store.SameUnder veil store') :
    Closed veil toks i ⟨⟨some kind, 0, [], []⟩, store⟩ ⟨⟨some kind, 0, [], []⟩, store'⟩ := by
  have hgroup : 5 * ((i + 1) / 5) = i := by omega
  have hnext : (i + 1) % 5 = 0 + 1 := by omega
  refine .inr ⟨_, _, _, _, rfl, rfl, ?_, hstore⟩
  exact .field kind (by rw [hgroup, htok]) hnext .nil

/-- Two records that look the same are both put into a batch or both refused. -/
theorem finishRecord_cases (kind : Kind) (index : Int) {fields fields' : List (List UInt8)}
    (hsame : FieldsSameUnder veil kind fields fields') (hlength : fields.length = Record.fieldCount)
    (hstore : store.SameUnder veil store') :
    (∃ e t t', Intake.finishRecord ⟨⟨some kind, index, [], fields⟩, store⟩ = (.error e, t) ∧
      Intake.finishRecord ⟨⟨some kind, index, [], fields'⟩, store'⟩ = (.error e, t')) ∨
      ∃ u u', Intake.finishRecord ⟨⟨some kind, index, [], fields⟩, store⟩ = (.ok (), ⟨.fresh, u⟩) ∧
        Intake.finishRecord ⟨⟨some kind, index, [], fields'⟩, store'⟩ = (.ok (), ⟨.fresh, u'⟩) ∧
        u.SameUnder veil u' := by
  obtain ⟨r, hr, hkind, hfields⟩ := Record.exists_ofFields?_eq kind hlength
  obtain ⟨r', hr', hkind', hfields'⟩ :=
    Record.exists_ofFields?_eq kind (hsame.length.symm.trans hlength)
  have hrecord : r.SameUnder veil r' := by
    refine ⟨hkind.trans hkind'.symm, ?_⟩
    rw [hkind, hfields, hfields']
    exact hsame
  simp only [Intake.finishRecord, hr, hr']
  obtain ⟨e, he, he'⟩ | ⟨u, u', hu, hu', husame⟩ := hstore.add hrecord
  · rw [he, he']
    exact .inl ⟨e, _, _, rfl, rfl⟩
  · rw [hu, hu']
    exact .inr ⟨u, u', rfl, rfl, husame⟩

/-- A field that was read is closed, and its record with the last one. -/
theorem closed_field (kind : Kind) (htok : toks[5 * (i / 5)]? = some [kind.token])
    {fields fields' : List (List UInt8)} (hi : i % 5 = fields.length + 1)
    (hsame : FieldsSameUnder veil kind fields fields') {field field' : List UInt8}
    (hfield : ¬ veil kind (fields.length + 1) → field = field')
    (hstore : store.SameUnder veil store') :
    Closed veil toks i ⟨⟨some kind, fields.length + 1, field, fields⟩, store⟩
      ⟨⟨some kind, fields.length + 1, field', fields'⟩, store'⟩ := by
  have hall := hsame.append hfield
  have hindex : ¬ ((fields.length : Int) + 1 = 0) := by omega
  rw [Closed]
  simp only [Intake.closeField, hindex, false_and, if_false, Record.fieldCount]
  by_cases hlast : fields.length = 3
  · have hfull : ((4 : Nat) : Int) < (fields.length : Int) + 1 + 1 := by omega
    have hlength : (fields ++ [field]).length = Record.fieldCount := by
      rw [List.length_append, hlast]
      rfl
    rw [if_pos hfull, if_pos hfull]
    obtain hrefused | ⟨u, u', hu, hu', husame⟩ :=
      finishRecord_cases kind (fields.length + 1 + 1) hall hlength hstore
    · exact .inl hrefused
    · exact .inr ⟨.fresh, .fresh, u, u', hu, hu', .kind (by omega), husame⟩
  · have hmore : ¬ ((4 : Nat) : Int) < (fields.length : Int) + 1 + 1 := by omega
    have hgroup : 5 * ((i + 1) / 5) = 5 * (i / 5) := by omega
    have hnext : (i + 1) % 5 = (fields ++ [field]).length + 1 := by
      rw [List.length_append, List.length_singleton]
      omega
    rw [if_neg hmore, if_neg hmore]
    refine .inr ⟨_, _, _, _, rfl, rfl, ?_, hstore⟩
    have hlevel := Level.field kind (by rw [hgroup]; exact htok) hnext hall
    rw [List.length_append, List.length_singleton, Int.natCast_add] at hlevel
    exact hlevel

/-- Two tokens that look the same are both refused, or both taken and then closed
by a delimiter. -/
theorem Level.takeAll_cases {d d' : Decoder} (h : d.Level veil toks i d') {t t' : List UInt8}
    (htok : toks[i]? = some t) (ht : Wire.Alike veil toks i t t')
    (hstore : store.SameUnder veil store') :
    (∃ e, d.takeAll t = .error e ∧ d'.takeAll t' = .error e) ∨
      ∃ u u', d.takeAll t = .ok u ∧ d'.takeAll t' = .ok u' ∧
        Closed veil toks i ⟨u, store⟩ ⟨u', store'⟩ := by
  cases h with
  | kind hi =>
      obtain rfl : t = t' := ht.resolve_right fun hidden => hidden.1.1 hi
      obtain ⟨e, he⟩ | ⟨-, htake⟩ | ⟨kind, rfl, htake⟩ := takeAll_fresh t
      · exact .inl ⟨e, he, he⟩
      · exact .inr ⟨_, _, htake, htake, .inl ⟨.missingKind, _, _, rfl, rfl⟩⟩
      · exact .inr ⟨_, _, htake, htake, closed_kind hi kind htok hstore⟩
  | @field kind hgroup fields fields' hi hsame =>
      have hindex : (fields.length : Int) + 1 ≠ 0 := by omega
      have hclosed : Closed veil toks i ⟨⟨some kind, fields.length + 1, t, fields⟩, store⟩
          ⟨⟨some kind, fields.length + 1, t', fields'⟩, store'⟩ := by
        refine closed_field kind hgroup hi hsame (fun hseen => ?_) hstore
        refine ht.resolve_right fun hidden => hseen ?_
        rw [← hi]
        exact hidden.1.2 kind hgroup
      have hshort : ([] : List UInt8).length ≤ Record.maxFieldLength := Nat.zero_le _
      rw [takeAll_field kind hindex fields t [] hshort,
        takeAll_field kind hindex fields' t' [] hshort, List.nil_append, List.nil_append]
      obtain rfl | ⟨-, hfits, hfits'⟩ := ht
      · by_cases hfits : t.length ≤ Record.maxFieldLength
        · rw [if_pos hfits, if_pos hfits]
          exact .inr ⟨_, _, rfl, rfl, hclosed⟩
        · rw [if_neg hfits, if_neg hfits]
          exact .inl ⟨_, rfl, rfl⟩
      · rw [if_pos hfits, if_pos hfits']
        exact .inr ⟨_, _, rfl, rfl, hclosed⟩

end

end Decoder

/-! ## two runs -/

variable {σ τ : Type}

/-- Two handlers that keep in step on stores that look the same. -/
def LineHandler.InStepUnder (veil : Veil) (R : σ → τ → Prop) (onLine : LineHandler σ)
    (onLine' : LineHandler τ) : Prop :=
  ∀ d d' store store' a b, store.SameUnder veil store' → R a b →
    ∃ result left left' a' b', onLine d store a = (result, left, a') ∧
      onLine' d' store' b = (result, left', b') ∧ R a' b' ∧
      (result = .ok () → left.SameUnder veil left')

/-- Two intakes that came to the same end. -/
structure Progress.EndAlike (R : σ → τ → Prop) (p : Progress σ) (q : Progress τ) : Prop where
  result : p.result = q.result
  state : R p.state q.state

section

variable {veil : Veil} {R : σ → τ → Prop} {onLine : LineHandler σ} {onLine' : LineHandler τ}

/-- Behind a delimiter the inputs go on alike, if they do so from stores that look
the same. -/
theorem Closed.feed_endAlike (hline : onLine.InStepUnder veil R onLine')
    {toks : List (List UInt8)} {i : Nat} {s s' : Intake} (hclosed : Closed veil toks i s s')
    {b : UInt8} (hb : Wire.isDelimiter b = true) {a : σ} {a' : τ} (ha : R a a')
    {rest rest' : List UInt8}
    (hrest : ∀ d d' store store' a a', d.Level veil toks (i + 1) d' → store.SameUnder veil store' →
      R a a' →
      (feed onLine rest ⟨d, store⟩ a).EndAlike R (feed onLine' rest' ⟨d', store'⟩ a')) :
    (feed onLine (b :: rest) s a).EndAlike R (feed onLine' (b :: rest') s' a') := by
  have hconsume : ∀ u : Intake, u.consume b =
      Intake.report (if b = Wire.lineFeed then .complete else .continues) u.closeField := by
    intro u
    rw [Intake.consume, if_pos hb]
  obtain ⟨e, t, t', ht, ht'⟩ | ⟨d, d', store, store', hd, hd', hlevel, hstore⟩ := hclosed
  · have h := hconsume s
    have h' := hconsume s'
    rw [ht] at h
    rw [ht'] at h'
    rw [feed_of_error h, feed_of_error h']
    exact ⟨rfl, ha⟩
  · have h := hconsume s
    have h' := hconsume s'
    rw [hd] at h
    rw [hd'] at h'
    by_cases hfeed : b = Wire.lineFeed
    · rw [if_pos hfeed] at h h'
      obtain ⟨result, left, left', c, c', hleft, hleft', hc, hsame⟩ :=
        hline d d' store store' a a' hstore ha
      cases result with
      | error f =>
          rw [feed_of_complete_of_error h hleft, feed_of_complete_of_error h' hleft']
          exact ⟨rfl, hc⟩
      | ok _ =>
          rw [feed_of_complete_of_ok h hleft, feed_of_complete_of_ok h' hleft']
          exact hrest d d' left left' c c' hlevel (hsame rfl) hc
    · rw [if_neg hfeed] at h h'
      rw [feed_of_continues h, feed_of_continues h']
      exact hrest d d' store store' a a' hlevel hstore ha

/-- From two decoders at the same token on, inputs that look the same are taken in
alike. -/
theorem feed_endAlike (hline : onLine.InStepUnder veil R onLine') {toks : List (List UInt8)}
    {i : Nat} {input input' : List UInt8}
    (hdelimiters : input.filter Wire.isDelimiter = input'.filter Wire.isDelimiter)
    (htoks : toks.drop i = Wire.tokens input)
    (halike : ∀ j t t', (Wire.tokens input)[j]? = some t → (Wire.tokens input')[j]? = some t' →
      Wire.Alike veil toks (i + j) t t')
    {d d' : Decoder} (hlevel : d.Level veil toks i d') {store store' : Store}
    (hstore : store.SameUnder veil store') {a : σ} {a' : τ} (ha : R a a') :
    (feed onLine input ⟨d, store⟩ a).EndAlike R (feed onLine' input' ⟨d', store'⟩ a') := by
  generalize hleft : input.filter Wire.isDelimiter = delimiters at hdelimiters
  induction delimiters generalizing i input input' d d' store store' a a' with
  | nil =>
      -- only one token is left, and nothing closes it
      have ht : ∀ b ∈ input, Wire.isDelimiter b = false := by simpa using hleft
      have ht' : ∀ b ∈ input', Wire.isDelimiter b = false := by simpa using hdelimiters.symm
      have hone : Wire.tokens input = [input] := segments_of_forall_not_sep ht
      have hone' : Wire.tokens input' = [input'] := segments_of_forall_not_sep ht'
      have htok : toks[i]? = some input := by
        have hdrop := congrArg (·[0]?) (htoks.trans hone)
        simpa using hdrop
      have hhead := halike 0 input input' (by rw [hone]; rfl) (by rw [hone']; rfl)
      rw [← List.append_nil input, ← List.append_nil input']
      obtain ⟨e, he, he'⟩ | ⟨u, u', hu, hu', -⟩ := hlevel.takeAll_cases htok hhead hstore
      · obtain ⟨hresult, hstate⟩ := feed_of_takeAll_eq_error onLine ht he [] store a
        obtain ⟨hresult', hstate'⟩ := feed_of_takeAll_eq_error onLine' ht' he' [] store' a'
        exact ⟨hresult.trans hresult'.symm, by rw [hstate, hstate']; exact ha⟩
      · rw [feed_of_takeAll_eq_ok onLine ht hu, feed_of_takeAll_eq_ok onLine' ht' hu']
        exact ⟨rfl, ha⟩
  | cons b more ih =>
      obtain ⟨t, rest, rfl, ht, hb, hrest⟩ := List.filter_eq_cons_iff.1 hleft
      obtain ⟨t', rest', rfl, ht', -, hrest'⟩ := List.filter_eq_cons_iff.1 hdelimiters.symm
      have hfree : ∀ c ∈ t, Wire.isDelimiter c = false := by simpa using ht
      have hfree' : ∀ c ∈ t', Wire.isDelimiter c = false := by simpa using ht'
      rw [Wire.tokens_append_cons hfree hb] at htoks halike
      rw [Wire.tokens_append_cons hfree' hb] at halike
      have htok : toks[i]? = some t := by
        have hdrop := congrArg (·[0]?) htoks
        simpa using hdrop
      have hnext : toks.drop (i + 1) = Wire.tokens rest := by
        rw [← List.drop_drop, htoks]
        rfl
      have hhead := halike 0 t t' rfl rfl
      obtain ⟨e, he, he'⟩ | ⟨u, u', hu, hu', hclosed⟩ := hlevel.takeAll_cases htok hhead hstore
      · obtain ⟨hresult, hstate⟩ := feed_of_takeAll_eq_error onLine hfree he (b :: rest) store a
        obtain ⟨hresult', hstate'⟩ :=
          feed_of_takeAll_eq_error onLine' hfree' he' (b :: rest') store' a'
        exact ⟨hresult.trans hresult'.symm, by rw [hstate, hstate']; exact ha⟩
      · rw [feed_of_takeAll_eq_ok onLine hfree hu, feed_of_takeAll_eq_ok onLine' hfree' hu']
        refine hclosed.feed_endAlike hline hb ha ?_
        intro d d' store store' a a' hlevel hstore ha
        refine ih hnext (fun j t t' hj hj' => ?_) hlevel hstore ha hrest hrest'.symm
        have hplace : i + 1 + j = i + (j + 1) := by omega
        rw [hplace]
        exact halike (j + 1) t t' hj hj'

/-- **Inputs that look the same are taken in alike**, by handlers that keep in step
on stores that look the same. -/
theorem feed_sameUnder (hline : onLine.InStepUnder veil R onLine') {input input' : List UInt8}
    (hsame : Wire.SameUnder veil input input') {a : σ} {a' : τ} (ha : R a a') (capacity : Int) :
    (feed onLine input (.new capacity) a).EndAlike R (feed onLine' input' (.new capacity) a') := by
  have halike : ∀ j t t', (Wire.tokens input)[j]? = some t → (Wire.tokens input')[j]? = some t' →
      Wire.Alike veil (Wire.tokens input) (0 + j) t t' := by
    simpa using hsame.tokens
  exact feed_endAlike hline hsame.delimiters rfl halike (.kind rfl) (.refl _) ha

end

end BatchMailer
