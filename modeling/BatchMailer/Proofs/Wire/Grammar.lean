import BatchMailer.Proofs.Store.Holding
import BatchMailer.Proofs.Wire.Tokens

/-!
# BatchMailer.Proofs.Wire.Grammar

Which inputs fit the wire grammar, and what the decoder does with them.

`Fits` judges an input by its tokens alone, and `decoderAfter` is where a decoder
must be once it has taken such an input.  One byte is then all there is to prove
of the decoder:

* `consume_of_refusal` — a byte that cannot follow the input is refused and
  changes nothing;
* `consume_of_fits` — any other byte takes the decoder from where the input left
  it to where the longer input leaves it, and the record it completes, if any,
  goes to the store.

Everything else that is said of the decoder follows from these two.
-/

namespace BatchMailer

namespace Wire

/-! ## inputs that fit -/

/-- Each token in the place of a kind is that of a kind; the open one may have
nothing in it yet. -/
def KindsFit (input : List UInt8) : Prop :=
  (∀ i t, (closedTokens input)[i]? = some t → i % 5 = 0 → ∃ kind : Kind, t = [kind.token]) ∧
    (phase input = 0 → openToken input = [] ∨ ∃ kind : Kind, openToken input = [kind.token])

/-- No token in the place of a field is too long. -/
def FieldsFit (input : List UInt8) : Prop :=
  ∀ i t, (tokens input)[i]? = some t → i % 5 ≠ 0 → t.length ≤ Record.maxFieldLength

instance (input : List UInt8) : Decidable (FieldsFit input) :=
  decidable_of_iff (∀ i < (tokens input).length, ∀ t ∈ (tokens input)[i]?, i % 5 ≠ 0 →
      t.length ≤ Record.maxFieldLength) <| by
    constructor
    · intro h i t ht
      exact h i (List.getElem?_eq_some_iff.1 ht).1 t ht
    · intro h i _ t ht
      exact h i t ht

/-- An input that fits the grammar as far as it goes. -/
structure Fits (input : List UInt8) : Prop where
  kinds : KindsFit input
  fields : FieldsFit input

/-- What holds of all elements of a list and of one more behind them. -/
theorem forall_getElem?_append_singleton {α : Type} {P : Nat → α → Prop} (l : List α) (a : α) :
    (∀ i x, (l ++ [a])[i]? = some x → P i x) ↔ (∀ i x, l[i]? = some x → P i x) ∧ P l.length a := by
  constructor
  · intro h
    refine ⟨fun i x hx => h i x ?_, h l.length a (by simp)⟩
    rw [List.getElem?_append_left (List.getElem?_eq_some_iff.1 hx).1]
    exact hx
  · intro hboth i x hx
    obtain ⟨hl, ha⟩ := hboth
    by_cases hi : i < l.length
    · rw [List.getElem?_append_left hi] at hx
      exact hl i x hx
    · have hlt := (List.getElem?_eq_some_iff.1 hx).1
      rw [List.length_append, List.length_singleton] at hlt
      have heq : i = l.length := by omega
      subst heq
      rw [List.getElem?_concat_length] at hx
      cases hx
      exact ha

theorem fieldsFit_iff (input : List UInt8) :
    FieldsFit input ↔
      (∀ i t, (closedTokens input)[i]? = some t → i % 5 ≠ 0 → t.length ≤ Record.maxFieldLength) ∧
        (phase input ≠ 0 → (openToken input).length ≤ Record.maxFieldLength) := by
  rw [FieldsFit, tokens_eq]
  exact forall_getElem?_append_singleton _ _

theorem kindsFit_nil : KindsFit [] := by
  simp [KindsFit]

theorem fits_nil : Fits [] := ⟨kindsFit_nil, by simp [fieldsFit_iff, phase]⟩

section

variable {b : UInt8} (input : List UInt8)

/-- A delimiter may not stand in the place of a kind. -/
theorem kindsFit_append_delimiter (hb : isDelimiter b = true) :
    KindsFit (input ++ [b]) ↔ KindsFit input ∧ (phase input = 0 → openToken input ≠ []) := by
  rw [KindsFit, closedTokens_append_delimiter input hb, openToken_append_delimiter input hb,
    forall_getElem?_append_singleton]
  constructor
  · intro hboth
    obtain ⟨⟨hclosed, hopen⟩, -⟩ := hboth
    refine ⟨⟨hclosed, fun hphase => .inr (hopen hphase)⟩, fun hphase hnil => ?_⟩
    obtain ⟨kind, hkind⟩ := hopen hphase
    rw [hnil] at hkind
    contradiction
  · intro hboth
    obtain ⟨⟨hclosed, hopen⟩, hne⟩ := hboth
    exact ⟨⟨hclosed, fun hphase => (hopen hphase).resolve_left (hne hphase)⟩, fun _ => .inl rfl⟩

/-- Any other byte in the place of a kind must be that of a kind, and nothing may
stand there before it. -/
theorem kindsFit_append_byte (hb : isDelimiter b = false) :
    KindsFit (input ++ [b]) ↔
      KindsFit input ∧ (phase input = 0 → openToken input = [] ∧ ∃ kind : Kind, b = kind.token) := by
  rw [KindsFit, closedTokens_append_byte input hb, openToken_append_byte input hb,
    phase_append_byte input hb]
  constructor
  · intro hboth
    obtain ⟨hclosed, hopen⟩ := hboth
    have hplace : phase input = 0 → openToken input = [] ∧ ∃ kind : Kind, b = kind.token := by
      intro hphase
      obtain hnil | ⟨kind, hkind⟩ := hopen hphase
      · simp at hnil
      · rw [List.append_eq_singleton_iff] at hkind
        obtain ⟨hnil, hone⟩ | ⟨-, hnone⟩ := hkind
        · exact ⟨hnil, kind, List.singleton_inj.1 hone⟩
        · simp at hnone
    exact ⟨⟨hclosed, fun hphase => .inl (hplace hphase).1⟩, hplace⟩
  · intro hboth
    obtain ⟨⟨hclosed, -⟩, hplace⟩ := hboth
    refine ⟨hclosed, fun hphase => .inr ?_⟩
    obtain ⟨hnil, kind, hkind⟩ := hplace hphase
    exact ⟨kind, by rw [hnil, hkind]; rfl⟩

theorem fieldsFit_append_delimiter (hb : isDelimiter b = true) :
    FieldsFit (input ++ [b]) ↔ FieldsFit input := by
  rw [fieldsFit_iff, closedTokens_append_delimiter input hb, openToken_append_delimiter input hb,
    forall_getElem?_append_singleton, fieldsFit_iff]
  constructor
  · exact fun h => h.1
  · exact fun h => ⟨h, fun _ => Nat.zero_le _⟩

/-- Any other byte in a field needs room there. -/
theorem fieldsFit_append_byte (hb : isDelimiter b = false) :
    FieldsFit (input ++ [b]) ↔
      FieldsFit input ∧ (phase input ≠ 0 → (openToken input).length < Record.maxFieldLength) := by
  rw [fieldsFit_iff, closedTokens_append_byte input hb, openToken_append_byte input hb,
    phase_append_byte input hb, fieldsFit_iff, List.length_append, List.length_singleton]
  constructor
  · intro hboth
    obtain ⟨hclosed, hopen⟩ := hboth
    exact ⟨⟨hclosed, fun hphase => Nat.le_of_succ_le (hopen hphase)⟩, hopen⟩
  · intro hboth
    obtain ⟨⟨hclosed, -⟩, hopen⟩ := hboth
    exact ⟨hclosed, hopen⟩

theorem fits_of_append_singleton {input : List UInt8} (h : Fits (input ++ [b])) : Fits input := by
  by_cases hb : isDelimiter b = true
  · exact ⟨((kindsFit_append_delimiter input hb).1 h.kinds).1,
      (fieldsFit_append_delimiter input hb).1 h.fields⟩
  · have hb' : isDelimiter b = false := by simpa using hb
    exact ⟨((kindsFit_append_byte input hb').1 h.kinds).1,
      ((fieldsFit_append_byte input hb').1 h.fields).1⟩

end

/-! ## bytes that cannot follow -/

/-- Why a byte is refused in the place of a kind. -/
def kindRefusal (input : List UInt8) (b : UInt8) : WireError :=
  if isDelimiter b then .missingKind
  else if openToken input = [] then .unknownKind b
  else .longKind b

/-- Why a byte is refused in the place of a field: the field is full. -/
def fieldRefusal (input : List UInt8) : WireError := .longField (phase input)

/-- Why a byte cannot follow an input, if it cannot. -/
def refusal? (input : List UInt8) (b : UInt8) : Option WireError :=
  if phase input = 0 then
    if isDelimiter b then if openToken input = [] then some (kindRefusal input b) else none
    else if openToken input = [] ∧ (Kind.ofToken? b).isSome then none
    else some (kindRefusal input b)
  else if isDelimiter b = false ∧ Record.maxFieldLength ≤ (openToken input).length then
    some (fieldRefusal input)
  else none

/-- A byte is a kind's exactly if it announces one. -/
theorem isSome_ofToken?_iff {b : UInt8} :
    (Kind.ofToken? b).isSome ↔ ∃ kind : Kind, b = kind.token := by
  rw [Option.isSome_iff_exists]
  exact exists_congr fun kind => Kind.ofToken?_eq_some_iff

/-- An input can be followed by the bytes that keep it fitting. -/
theorem fits_append_iff {input : List UInt8} (h : Fits input) (b : UInt8) :
    Fits (input ++ [b]) ↔ refusal? input b = none := by
  have hsplit : Fits (input ++ [b]) ↔ KindsFit (input ++ [b]) ∧ FieldsFit (input ++ [b]) :=
    ⟨fun h => ⟨h.kinds, h.fields⟩, fun h => ⟨h.1, h.2⟩⟩
  rw [hsplit, refusal?]
  by_cases hb : isDelimiter b = true
  · rw [kindsFit_append_delimiter input hb, fieldsFit_append_delimiter input hb]
    simp only [h.kinds, h.fields, hb]
    by_cases hphase : phase input = 0 <;> by_cases hnil : openToken input = [] <;>
      simp [hphase, hnil]
  · have hb' : isDelimiter b = false := by simpa using hb
    rw [kindsFit_append_byte input hb', fieldsFit_append_byte input hb', ← isSome_ofToken?_iff]
    simp only [h.kinds, h.fields, hb']
    by_cases hphase : phase input = 0
    · simp [hphase, Option.isSome_iff_ne_none]
    · simp [hphase]

/-- What one byte less cannot spoil, a front part has too. -/
theorem of_append {P : List UInt8 → Prop} (hP : ∀ {input b}, P (input ++ [b]) → P input)
    {input rest : List UInt8} (h : P (input ++ rest)) : P input := by
  induction rest generalizing input with
  | nil => rwa [List.append_nil] at h
  | cons b rest ih =>
      rw [List.append_cons] at h
      exact hP (ih h)

/-- Whether bytes can follow an input, one after the other. -/
def fitsBehind (input : List UInt8) : List UInt8 → Bool
  | [] => true
  | b :: rest => (refusal? input b).isNone && fitsBehind (input ++ [b]) rest

theorem fitsBehind_iff {input : List UInt8} (h : Fits input) (rest : List UInt8) :
    fitsBehind input rest = true ↔ Fits (input ++ rest) := by
  induction rest generalizing input with
  | nil => simp [fitsBehind, h]
  | cons b rest ih =>
      rw [fitsBehind, Bool.and_eq_true, Option.isNone_iff_eq_none,
        List.append_cons input b rest, ← fits_append_iff h]
      constructor
      · intro hboth
        obtain ⟨hb, hrest⟩ := hboth
        exact (ih hb).1 hrest
      · intro hall
        have hb : Fits (input ++ [b]) := of_append fits_of_append_singleton hall
        exact ⟨hb, (ih hb).2 hall⟩

instance (input : List UInt8) : Decidable (Fits input) :=
  decidable_of_iff (fitsBehind [] input = true) (fitsBehind_iff fits_nil input)

/-- A refused byte breaks the rule that its refusal names. -/
theorem rule_of_refusal {input : List UInt8} {b : UInt8} {e : WireError}
    (h : refusal? input b = some e) :
    (¬ KindsFit (input ++ [b]) ∧ e = kindRefusal input b) ∨
      (¬ FieldsFit (input ++ [b]) ∧ e = fieldRefusal input) := by
  rw [refusal?] at h
  by_cases hphase : phase input = 0
  · rw [if_pos hphase] at h
    left
    by_cases hb : isDelimiter b = true
    · rw [if_pos hb] at h
      rw [kindsFit_append_delimiter input hb]
      by_cases hnil : openToken input = []
      · rw [if_pos hnil, Option.some.injEq] at h
        exact ⟨fun hfit => hfit.2 hphase hnil, h.symm⟩
      · rw [if_neg hnil] at h
        contradiction
    · rw [if_neg hb] at h
      rw [kindsFit_append_byte input (by simpa using hb), ← isSome_ofToken?_iff]
      by_cases hkind : openToken input = [] ∧ (Kind.ofToken? b).isSome
      · rw [if_pos hkind] at h
        contradiction
      · rw [if_neg hkind, Option.some.injEq] at h
        exact ⟨fun hfit => hkind (hfit.2 hphase), h.symm⟩
  · rw [if_neg hphase] at h
    right
    split at h
    · next hfull =>
        rw [fieldsFit_append_byte input hfull.1]
        refine ⟨fun hfit => ?_, (Option.some.inj h).symm⟩
        have hroom := hfit.2 hphase
        omega
    · contradiction

theorem not_fits_of_refusal {input : List UInt8} (h : Fits input) {b : UInt8} {e : WireError}
    (hrefusal : refusal? input b = some e) : ¬ Fits (input ++ [b]) := by
  rw [fits_append_iff h b, hrefusal]
  exact Option.some_ne_none e

theorem cause_of_refusal {input : List UInt8} {b : UInt8} {e : WireError}
    (h : refusal? input b = some e) : e.cause = .malformedInput := by
  obtain ⟨-, rfl⟩ | ⟨-, rfl⟩ := rule_of_refusal h
  · rw [kindRefusal]
    split
    · rfl
    · split <;> rfl
  · rfl

/-! ## where an input leaves the decoder -/

/-- The decoder that has read some tokens of a group and part of the next. -/
def decoderOf (token : List UInt8) : List (List UInt8) → Decoder
  | [] => { kind := kindOf? token, index := 0, field := [], fields := [] }
  | first :: fields =>
    { kind := kindOf? first, index := fields.length + 1, field := token, fields }

/-- Where an input leaves the decoder. -/
def decoderAfter (input : List UInt8) : Decoder := decoderOf (openToken input) (openGroup input)

/-- What a byte does to the line. -/
def eventOf (b : UInt8) : LineEvent := if b = lineFeed then .complete else .continues

@[simp] theorem decoderAfter_nil : decoderAfter [] = .fresh := rfl

theorem index_decoderAfter (input : List UInt8) : (decoderAfter input).index = phase input := by
  rw [← length_openGroup, decoderAfter]
  cases openGroup input <;> simp [decoderOf]

/-- The decoder knows the kind that the first token of the open group spells. -/
theorem kind_decoderAfter (input : List UInt8) :
    (decoderAfter input).kind = kindOf? ((tokens input).getD (5 * groupCount input) []) := by
  have htokens : (tokens input).getD (5 * groupCount input) [] =
      (openGroup input ++ [openToken input]).headD [] := by
    have hle : 5 * groupCount input ≤ (closedTokens input).length := by rw [groupCount]; omega
    rw [tokens_eq, openGroup, ← List.drop_append_of_le_length hle, List.headD_eq_head?_getD,
      List.head?_drop, List.getD_eq_getElem?_getD]
  rw [htokens, decoderAfter]
  cases openGroup input <;> rfl

theorem fieldLength_decoderAfter (input : List UInt8) :
    (decoderAfter input).fieldLength = if phase input = 0 then 0 else (openToken input).length := by
  rw [← length_openGroup, decoderAfter]
  cases openGroup input <;> simp [decoderOf, Decoder.fieldLength]

/-! ## taking one more byte -/

section

variable {input : List UInt8} {b : UInt8}

/-- The open group of an input that fits starts with the token of a kind. -/
theorem exists_kind_of_openGroup (h : KindsFit input) {first : List UInt8}
    {fields : List (List UInt8)} (hgroup : openGroup input = first :: fields) :
    ∃ kind : Kind, first = [kind.token] := by
  apply h.1 (5 * groupCount input) first
  · rw [← List.head?_drop, ← openGroup, hgroup, List.head?_cons]
  · omega

/-- A byte that cannot follow an input is refused, and changes nothing. -/
theorem consume_of_refusal (h : Fits input) {e : WireError} (hrefusal : refusal? input b = some e)
    (store : Store) :
    (Intake.mk (decoderAfter input) store).consume b =
      (.error e, ⟨decoderAfter input, store⟩) := by
  have hlen : (openGroup input).length = phase input := length_openGroup input
  rw [decoderAfter]
  cases hgroup : openGroup input with
  | nil =>
      have hphase : phase input = 0 := by rw [← hlen, hgroup]; rfl
      rw [refusal?, if_pos hphase, kindRefusal] at hrefusal
      obtain hopen | ⟨kind, hopen⟩ := h.kinds.2 hphase
      · by_cases hb : isDelimiter b = true
        · simp only [hb, hopen, if_true, Option.some.injEq] at hrefusal
          subst hrefusal
          simp [Intake.consume, Intake.closeField, Intake.report, decoderOf, hb, hopen,
            Except.map]
        · cases hkind : Kind.ofToken? b with
          | none =>
              simp [hb, hopen, hkind] at hrefusal
              subst hrefusal
              simp [Intake.consume, Intake.takeKind, Intake.report, readKind, decoderOf, hb,
                hopen, hkind, Except.map]
          | some kind => simp [hb, hopen, hkind] at hrefusal
      · by_cases hb : isDelimiter b = true
        · simp [hb, hopen] at hrefusal
        · simp [hb, hopen] at hrefusal
          subst hrefusal
          simp [Intake.consume, Intake.takeKind, Intake.report, decoderOf, hb, hopen,
            Except.map]
  | cons first fields =>
      have hphase : phase input = fields.length + 1 := by rw [← hlen, hgroup]; rfl
      rw [refusal?, if_neg (by omega)] at hrefusal
      split at hrefusal
      · next hfull =>
          obtain ⟨hb, hroom⟩ := hfull
          have hindex : (fields.length : Int) + 1 ≠ 0 := by omega
          cases hrefusal
          simp [Intake.consume, Intake.takeByte, Intake.report, Decoder.fieldLength, decoderOf,
            fieldRefusal, hb, hroom, hindex, hphase, Except.map]
      · contradiction

/-- A byte that can follow an input takes the decoder on, and the record it
completes goes to the store; if the store refuses that, the record is gone. -/
theorem consume_of_fits (h : Fits input) (hfits : Fits (input ++ [b])) (store : Store) :
    (Intake.mk (decoderAfter input) store).consume b =
      match store.receive (completed? input b) with
      | .error e => (.error e, ⟨.fresh, store⟩)
      | .ok store => (.ok (eventOf b), ⟨decoderAfter (input ++ [b]), store⟩) := by
  have hlen : (openGroup input).length = phase input := length_openGroup input
  by_cases hb : isDelimiter b = true
  · have hkinds := (kindsFit_append_delimiter input hb).1 hfits.kinds
    rw [decoderAfter, decoderAfter, openToken_append_delimiter input hb,
      openGroup_append_delimiter input hb, completed?]
    cases hgroup : openGroup input with
    | nil =>
        have hphase : phase input = 0 := by rw [← hlen, hgroup]; rfl
        obtain ⟨kind, hopen⟩ := (h.kinds.2 hphase).resolve_left (hkinds.2 hphase)
        simp [Intake.consume, Intake.closeField, Intake.report, decoderOf, hb, hopen, hphase,
          Store.receive, Record.fieldCount, Except.map, eventOf]
    | cons first fields =>
        obtain ⟨kind, rfl⟩ := exists_kind_of_openGroup h.kinds hgroup
        have hphase : phase input = fields.length + 1 := by rw [← hlen, hgroup]; rfl
        by_cases hlast : phase input = 4
        · obtain ⟨x, y, z, rfl⟩ := List.length_eq_three.1 (show fields.length = 3 by omega)
          have hrecord : recordOf? ([[kind.token], x, y, z] ++ [openToken input]) =
              some ⟨kind, x, y, z, openToken input⟩ := recordOf?_eq_some_iff.2 rfl
          rw [if_pos ⟨hb, hlast⟩, if_pos hlast, hrecord]
          cases hadd : store.add ⟨kind, x, y, z, openToken input⟩ <;>
            simp [Intake.consume, Intake.closeField, Intake.finishRecord, Intake.reset, Intake.report,
              Decoder.fresh, decoderOf, hb, hadd, Store.receive, Record.fieldCount,
              Record.ofFields?, Except.map, eventOf]
        · have hindex : (fields.length : Int) + 1 ≠ 0 := by omega
          have hmore : ¬ (Record.fieldCount : Int) < fields.length + 1 + 1 := by
            have hlt := phase_lt input
            rw [Record.fieldCount]
            omega
          rw [if_neg fun hboth => hlast hboth.2, if_neg hlast]
          simp [Intake.consume, Intake.closeField, Intake.report, decoderOf, hb, hindex,
            hmore, Store.receive, Except.map, eventOf]
  · have hb' : isDelimiter b = false := by simpa using hb
    have hkinds := (kindsFit_append_byte input hb').1 hfits.kinds
    have hfields := (fieldsFit_append_byte input hb').1 hfits.fields
    have hevent : eventOf b = .continues := by
      rw [eventOf, if_neg]
      intro heq
      subst heq
      exact hb rfl
    rw [decoderAfter, decoderAfter, openToken_append_byte input hb', openGroup_append_byte input hb',
      completed?, if_neg fun hboth => hb hboth.1, hevent]
    cases hgroup : openGroup input with
    | nil =>
        have hphase : phase input = 0 := by rw [← hlen, hgroup]; rfl
        obtain ⟨hopen, kind, rfl⟩ := hkinds.2 hphase
        simp [Intake.consume, Intake.takeKind, Intake.report, readKind, decoderOf, hb', hopen,
          Store.receive, Except.map]
    | cons first fields =>
        have hphase : phase input ≠ 0 := by
          rw [← hlen, hgroup]
          exact Nat.succ_ne_zero _
        have hroom : ¬ Record.maxFieldLength ≤ (openToken input).length :=
          Nat.not_le.2 (hfields.2 hphase)
        have hindex : (fields.length : Int) + 1 ≠ 0 := by omega
        simp [Intake.consume, Intake.takeByte, Intake.report, Decoder.fieldLength, decoderOf, hb',
          hroom, hindex, Store.receive, Except.map]

/-- What becomes of a byte while batches hold some records: the decoder refuses
it, or the batch for the record it completes has no room, or it is taken. -/
theorem consume_holding_cases {capacity : Nat} (h : Fits input) (b : UInt8) {held : List Record}
    (hheld : ∀ kind : Kind, (kind.among held).length ≤ capacity) :
    (∃ e, refusal? input b = some e ∧
      (Intake.mk (decoderAfter input) (.holding capacity held)).consume b =
        (.error e, ⟨decoderAfter input, .holding capacity held⟩)) ∨
    (Fits (input ++ [b]) ∧ ∃ kind : Kind,
      capacity < (kind.among (held ++ (completed? input b).toList)).length ∧
      (Intake.mk (decoderAfter input) (.holding capacity held)).consume b =
        (.error (.batchFull kind capacity), ⟨.fresh, .holding capacity held⟩)) ∨
    (Fits (input ++ [b]) ∧
      (∀ kind : Kind, (kind.among (held ++ (completed? input b).toList)).length ≤ capacity) ∧
      (Intake.mk (decoderAfter input) (.holding capacity held)).consume b =
        (.ok (eventOf b), ⟨decoderAfter (input ++ [b]),
          .holding capacity (held ++ (completed? input b).toList)⟩)) := by
  cases hrefusal : refusal? input b with
  | some e => exact .inl ⟨e, rfl, consume_of_refusal h hrefusal _⟩
  | none =>
      have hfits : Fits (input ++ [b]) := (fits_append_iff h b).2 hrefusal
      rw [consume_of_fits h hfits]
      by_cases hroom : ∀ kind : Kind,
          (kind.among (held ++ (completed? input b).toList)).length ≤ capacity
      · rw [Store.receive_holding_of_le _ _ _ fun kind => Int.ofNat_le.2 (hroom kind)]
        exact .inr (.inr ⟨hfits, hroom, rfl⟩)
      · obtain ⟨kind, hkind⟩ := Classical.not_forall.1 hroom
        have hlt := Nat.not_le.1 hkind
        rw [Store.receive_holding_of_lt _ _ _ (Int.ofNat_le.2 (hheld kind)) (Int.ofNat_lt.2 hlt)]
        exact .inr (.inl ⟨hfits, kind, hlt, rfl⟩)

end

end Wire

end BatchMailer
