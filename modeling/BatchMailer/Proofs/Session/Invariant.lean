import BatchMailer.Proofs.Session.Reachable
import BatchMailer.Proofs.Wire.Grammar

/-!
# BatchMailer.Proofs.Session.Invariant

What holds of a decoder and its store at all times.

`Intake.WellFormed` says it field by field.  The decoder's half is no invariant
that one could carry from byte to byte by itself: what makes it one is that the
decoder always stands where some input that fits the grammar leaves it
(`Intake.Tracked`), whatever was done before, since each failure and each reset
leads back to such a place.  Of the store, `Store.WellFormed` is kept by every
operation.

The errors that no input should be able to bring about are out of reach from
there (`WireError.Internal`).
-/

namespace BatchMailer

/-- A decoder whose parts agree with each other. -/
structure Decoder.WellFormed (d : Decoder) : Prop where
  index_nonneg : 0 ≤ d.index
  index_le : d.index ≤ Record.fieldCount
  kind_isSome : 1 ≤ d.index → d.kind.isSome
  length_fields : (d.fields.length : Int) = max 0 (d.index - 1)
  empty : d.index = 0 → d.field = [] ∧ d.fields = []
  field : Wire.FieldFits d.field
  fields : ∀ field ∈ d.fields, Wire.FieldFits field

/-- A batch that holds what it may hold. -/
structure Batch.WellFormed (capacity : Int) (kind : Kind) (b : Batch) : Prop where
  kind_eq : b.kind = kind
  capacity_eq : b.capacity = capacity
  length_le : (b.records.length : Int) ≤ max 0 capacity
  records : ∀ r ∈ b.records, r.kind = kind ∧ r.Fits

/-- A store of two such batches. -/
def Store.WellFormed (capacity : Int) (s : Store) : Prop :=
  ∀ kind, (s.batch kind).WellFormed capacity kind

/-- A decoder and a store of this form. -/
structure Intake.WellFormed (capacity : Int) (s : Intake) : Prop where
  decoder : s.decoder.WellFormed
  store : s.store.WellFormed capacity

/-- The errors that no input can bring about. -/
def WireError.Internal : WireError → Prop
  | .closedWithoutKind | .fieldCount _ | .wrongBatch _ _ => True
  | _ => False

/-- The error of a batch that has no room. -/
def WireError.OfBatch : WireError → Prop
  | .batchFull _ _ => True
  | _ => False

/-! ## stores -/

theorem Batch.wellFormed_of_records_nil {capacity : Int} {kind : Kind} {b : Batch}
    (hkind : b.kind = kind) (hcapacity : b.capacity = capacity) (hrecords : b.records = []) :
    b.WellFormed capacity kind := by
  refine ⟨hkind, hcapacity, ?_, ?_⟩
  · rw [hrecords]
    exact Int.le_max_left 0 capacity
  · rw [hrecords]
    exact fun r hr => absurd hr List.not_mem_nil

namespace Store

variable {capacity : Int} {s t : Store}

theorem wellFormed_new (capacity : Int) : (new capacity).WellFormed capacity := by
  intro kind
  cases kind <;> exact Batch.wellFormed_of_records_nil rfl rfl rfl

theorem WellFormed.withBatch (h : s.WellFormed capacity) {kind : Kind} {b : Batch}
    (hb : b.WellFormed capacity kind) : (s.withBatch kind b).WellFormed capacity := by
  intro other
  rw [batch_withBatch]
  split
  · next heq => exact heq ▸ hb
  · exact h other

theorem WellFormed.clear (h : s.WellFormed capacity) (kind : Kind) :
    (s.clear kind).WellFormed capacity :=
  h.withBatch (Batch.wellFormed_of_records_nil (h kind).kind_eq (h kind).capacity_eq rfl)

theorem WellFormed.clearAll (h : s.WellFormed capacity) : s.clearAll.WellFormed capacity :=
  (h.clear .activation).clear .passwordRecovery

theorem WellFormed.append (h : s.WellFormed capacity) {kind : Kind} {r : Record} (hr : r.Fits)
    (happend : s.append kind r = .ok t) : t.WellFormed capacity := by
  rw [Store.append] at happend
  cases hb : (s.batch kind).append r with
  | error e => rw [hb] at happend; cases happend
  | ok b =>
      rw [hb] at happend
      cases happend
      obtain ⟨hkind, hroom, rfl⟩ := Batch.append_eq_ok_iff.1 hb
      have hold := h kind
      have hlt : ((s.batch kind).records.length : Int) < capacity := by
        rw [Batch.isFull, decide_eq_false_iff_not, hold.capacity_eq] at hroom
        exact Int.not_le.1 hroom
      refine h.withBatch ⟨hold.kind_eq, hold.capacity_eq, ?_, fun other hother => ?_⟩
      · rw [List.length_append, List.length_singleton]
        omega
      · obtain hother | hother := List.mem_append.1 hother
        · exact hold.records other hother
        · rw [List.mem_singleton.1 hother]
          exact ⟨hkind.trans hold.kind_eq, hr⟩

theorem WellFormed.add (h : s.WellFormed capacity) {r : Record} (hr : r.Fits)
    (hadd : s.add r = .ok t) : t.WellFormed capacity :=
  h.append hr hadd

theorem WellFormed.flushKinds {σ : Type} (send : Sender σ) (outputDir : RawText) (kinds : List Kind)
    (h : s.WellFormed capacity) (sendState : SendState σ) :
    (Flush.flushKinds send outputDir kinds s sendState).2.1.WellFormed capacity := by
  induction kinds generalizing s sendState with
  | nil => exact h
  | cons kind rest ih =>
      have hclear : (s.drain kind).2.WellFormed capacity := h.clear kind
      rw [Flush.flushKinds_cons]
      split
      · next hdrain =>
          rw [hdrain] at hclear
          exact ih hclear sendState
      · next hdrain =>
          rw [hdrain] at hclear
          split
          · exact hclear
          · exact ih hclear _

/-- Whatever is done to a store keeps its form. -/
theorem WellFormed.worked (h : s.WellFormed capacity) (hwork : s.Worked t) :
    t.WellFormed capacity := by
  induction hwork with
  | nothing => exact h
  | add _ hr hadd ih => exact ih.add hr hadd
  | append _ hr happend ih => exact ih.append hr happend
  | drain _ kind ih => exact ih.clear kind
  | clear _ kind ih => exact ih.clear kind
  | flush _ send outputDir sendState ih => exact ih.flushKinds send outputDir Kind.all sendState
  | report _ ih => exact ih.clearAll

/-- A batch refuses a record of another kind, or it is full. -/
theorem WellFormed.append_eq_error_iff (h : s.WellFormed capacity) {kind : Kind} {r : Record}
    {e : WireError} : s.append kind r = .error e ↔
      r.kind ≠ kind ∧ e = .wrongBatch r.kind kind ∨
        r.kind = kind ∧ (s.batch kind).isFull = true ∧ e = .batchFull kind capacity := by
  have hbatch := (h kind).kind_eq
  have hcapacity := (h kind).capacity_eq
  rw [Store.append, Batch.append, hbatch, hcapacity]
  by_cases hkind : r.kind = kind
  · cases hfull : (s.batch kind).isFull <;> simp [hkind, Except.map, eq_comm (b := e)]
  · simp [hkind, Except.map, eq_comm (b := e)]

/-- A store refuses a record only for want of room, if it is meant for the batch
of its own kind. -/
theorem WellFormed.internal_iff_of_append (h : s.WellFormed capacity) {kind : Kind} {r : Record}
    {e : WireError} (happend : s.append kind r = .error e) : e.Internal ↔ r.kind ≠ kind := by
  obtain ⟨hkind, rfl⟩ | ⟨hkind, -, rfl⟩ := h.append_eq_error_iff.1 happend
  · simp [WireError.Internal, hkind]
  · simp [WireError.Internal, hkind]

theorem WellFormed.ofBatch_of_add (h : s.WellFormed capacity) {r : Record} {e : WireError}
    (hadd : s.add r = .error e) : e.OfBatch := by
  obtain ⟨hkind, -⟩ | ⟨-, -, rfl⟩ := h.append_eq_error_iff.1 hadd
  · exact absurd rfl hkind
  · trivial

end Store

/-! ## decoders -/

namespace Wire

variable {input : List UInt8}

/-- The tokens behind the first of the open group are fields that fit. -/
theorem fieldFits_of_mem_tail (h : FieldsFit input) {t : List UInt8}
    (ht : t ∈ (openGroup input ++ [openToken input]).tail) : FieldFits t := by
  have htokens : (tokens input).drop (5 * groupCount input) =
      openGroup input ++ [openToken input] := by
    rw [tokens_eq, openGroup, List.drop_append_of_le_length]
    rw [groupCount]
    omega
  rw [← htokens, List.tail_drop] at ht
  refine ⟨?_, fun b hb => not_delimiter_of_mem_tokens (List.mem_of_mem_drop ht) hb⟩
  obtain ⟨i, hi⟩ := List.getElem?_of_mem ht
  rw [List.getElem?_drop] at hi
  have hlt := (List.getElem?_eq_some_iff.1 hi).1
  rw [tokens_eq, List.length_append, List.length_singleton] at hlt
  have hcount : groupCount input = (closedTokens input).length / 5 := rfl
  exact h _ t hi (by omega)

/-- An input that fits leaves a decoder whose parts agree. -/
theorem wellFormed_decoderAfter (h : Fits input) : (decoderAfter input).WellFormed := by
  have hlen : (openGroup input).length = phase input := length_openGroup input
  have hlt : phase input < 5 := phase_lt input
  have hfields := fun t => fieldFits_of_mem_tail (t := t) h.fields
  rw [decoderAfter]
  cases hgroup : openGroup input with
  | nil =>
      have hnil : FieldFits [] := ⟨Nat.zero_le _, fun b hb => absurd hb List.not_mem_nil⟩
      refine ⟨Int.le_refl 0, Int.natCast_nonneg _, fun hindex => ?_, rfl, fun _ => ⟨rfl, rfl⟩, hnil, ?_⟩
      · simp [decoderOf] at hindex
      · exact fun field hfield => absurd hfield List.not_mem_nil
  | cons first fields =>
      obtain ⟨kind, rfl⟩ := exists_kind_of_openGroup h.kinds hgroup
      rw [hgroup, List.length_cons] at hlen
      rw [hgroup, List.cons_append, List.tail_cons] at hfields
      refine ⟨?_, ?_, ?_, ?_, ?_, ?_, ?_⟩
      · simp only [decoderOf]
        omega
      · simp only [decoderOf, Record.fieldCount]
        omega
      · intro _
        simp [decoderOf]
      · simp only [decoderOf]
        omega
      · intro hindex
        simp only [decoderOf] at hindex
        omega
      · exact hfields _ (by simp [decoderOf])
      · intro field hfield
        exact hfields field (List.mem_append_left _ hfield)

/-- A record that a byte completes has fields that fit. -/
theorem fits_of_completed (h : FieldsFit input) {b : UInt8} {r : Record}
    (hr : completed? input b = some r) : r.Fits := by
  rw [completed?] at hr
  split at hr
  · intro field hfield
    apply fieldFits_of_mem_tail h
    rw [recordOf?_eq_some_iff.1 hr]
    exact hfield
  · contradiction

/-- What refuses a byte is no internal error, and no batch has to do with it. -/
theorem not_internal_of_refusal {b : UInt8} {e : WireError} (h : refusal? input b = some e) :
    ¬ e.Internal ∧ ¬ e.OfBatch := by
  obtain ⟨-, rfl⟩ | ⟨-, rfl⟩ := rule_of_refusal h
  · rw [kindRefusal]
    split
    · exact ⟨id, id⟩
    · split <;> exact ⟨id, id⟩
  · exact ⟨id, id⟩

end Wire

/-! ## decoders with their stores -/

namespace Intake

variable {capacity : Int} {s : Intake}

/-- A decoder that stands where some input leaves it, and a store in good form. -/
structure Tracked (capacity : Int) (s : Intake) : Prop where
  decoder : ∃ input, Wire.Fits input ∧ s.decoder = Wire.decoderAfter input
  store : s.store.WellFormed capacity

theorem Tracked.wellFormed (h : s.Tracked capacity) : s.WellFormed capacity := by
  obtain ⟨input, hfits, hdecoder⟩ := h.decoder
  exact ⟨hdecoder ▸ Wire.wellFormed_decoderAfter hfits, h.store⟩

/-- A decoder that waits for a record stands where no input leaves it. -/
theorem tracked_of_fresh {store : Store} (h : store.WellFormed capacity) :
    Tracked capacity ⟨.fresh, store⟩ :=
  ⟨⟨[], Wire.fits_nil, Wire.decoderAfter_nil.symm⟩, h⟩

/-- What a byte does: it is refused by the decoder, or by a batch, or taken. -/
theorem Tracked.consume_cases (h : s.Tracked capacity) (b : UInt8) :
    (∃ e, s.consume b = (.error e, s) ∧ ¬ e.Internal ∧ ¬ e.OfBatch) ∨
      (∃ e, s.consume b = (.error e, ⟨.fresh, s.store⟩) ∧ ¬ e.Internal ∧ e.OfBatch) ∨
      ∃ event t, s.consume b = (.ok event, t) ∧ t.Tracked capacity := by
  obtain ⟨d, store⟩ := s
  obtain ⟨⟨input, hfits, hdecoder⟩, hstore⟩ := h
  cases hdecoder
  cases hrefusal : Wire.refusal? input b with
  | some e =>
      exact .inl ⟨e, Wire.consume_of_refusal hfits hrefusal store,
        Wire.not_internal_of_refusal hrefusal⟩
  | none =>
      have hnext : Wire.Fits (input ++ [b]) := (Wire.fits_append_iff hfits b).2 hrefusal
      have hconsume := Wire.consume_of_fits hfits hnext store
      cases hrecord : Wire.completed? input b with
      | none =>
          rw [hrecord, Store.receive] at hconsume
          exact .inr (.inr ⟨_, _, hconsume, ⟨_, hnext, rfl⟩, hstore⟩)
      | some r =>
          rw [hrecord, Store.receive] at hconsume
          cases hadd : store.add r with
          | error e =>
              rw [hadd] at hconsume
              have hinternal := hstore.internal_iff_of_append hadd
              exact .inr (.inl ⟨e, hconsume, fun he => hinternal.1 he rfl,
                hstore.ofBatch_of_add hadd⟩)
          | ok t =>
              rw [hadd] at hconsume
              have hr : r.Fits := Wire.fits_of_completed hfits.fields hrecord
              exact .inr (.inr ⟨_, _, hconsume, ⟨_, hnext, rfl⟩, hstore.add hr hadd⟩)

theorem Tracked.consume (h : s.Tracked capacity) (b : UInt8) :
    (s.consume b).2.Tracked capacity := by
  obtain ⟨e, hb, -⟩ | ⟨e, hb, -⟩ | ⟨event, t, hb, ht⟩ := h.consume_cases b
  · rwa [hb]
  · rw [hb]
    exact tracked_of_fresh h.store
  · rwa [hb]

theorem Tracked.work (h : s.Tracked capacity) {t : Store} (hwork : s.store.Worked t) :
    Tracked capacity { s with store := t } :=
  ⟨h.decoder, h.store.worked hwork⟩

theorem Tracked.feed {σ : Type} {onLine : LineHandler σ} (hline : onLine.Works)
    (chunk : List UInt8) (h : s.Tracked capacity) (a : σ) :
    (BatchMailer.feed onLine chunk s a).intake.Tracked capacity := by
  induction chunk generalizing s a with
  | nil => exact h
  | cons b rest ih =>
      have hb := h.consume b
      rw [BatchMailer.feed]
      split
      · next hconsume => rwa [hconsume] at hb
      · next hconsume =>
          rw [hconsume] at hb
          exact ih hb a
      · next t hconsume =>
          rw [hconsume] at hb
          have hwork := hb.work (hline t.decoder t.store a)
          split
          · next hhandled => rwa [hhandled] at hwork
          · next hhandled =>
              rw [hhandled] at hwork
              exact ih hwork _

theorem Reached.tracked (h : s.Reached capacity) : s.Tracked capacity := by
  induction h with
  | new => exact tracked_of_fresh (Store.wellFormed_new capacity)
  | consume _ b ih => exact ih.consume b
  | feed _ hline chunk a ih => exact ih.feed hline chunk a
  | reset _ ih => exact tracked_of_fresh ih.store
  | work _ hwork ih => exact ih.work hwork

theorem Tracked.not_internal_of_consume (h : s.Tracked capacity) {b : UInt8} {e : WireError}
    (he : (s.consume b).1 = .error e) : ¬ e.Internal := by
  obtain ⟨other, hb, hother, -⟩ | ⟨other, hb, hother, -⟩ | ⟨event, t, hb, -⟩ := h.consume_cases b
  · rw [hb] at he
    cases he
    exact hother
  · rw [hb] at he
    cases he
    exact hother
  · rw [hb] at he
    cases he

/-- An internal error can only come from what is done at the end of a line. -/
theorem Tracked.not_internal_of_feed {σ : Type} {onLine : LineHandler σ} (hline : onLine.Works)
    (hraise : ∀ d store a e, (onLine d store a).1 = .error (.wire e) → ¬ e.Internal)
    (chunk : List UInt8) (h : s.Tracked capacity) (a : σ) {e : WireError}
    (he : (BatchMailer.feed onLine chunk s a).result = .error (.wire e)) : ¬ e.Internal := by
  induction chunk generalizing s a with
  | nil => cases he
  | cons b rest ih =>
      have hb := h.consume b
      rw [BatchMailer.feed] at he
      split at he
      · next hconsume =>
          cases he
          exact h.not_internal_of_consume (b := b) (by rw [hconsume])
      · next hconsume =>
          rw [hconsume] at hb
          exact ih hb a he
      · next t hconsume =>
          rw [hconsume] at hb
          have hwork := hb.work (hline t.decoder t.store a)
          split at he
          · next hhandled =>
              cases he
              exact hraise t.decoder t.store a e (by rw [hhandled])
          · next hhandled =>
              rw [hhandled] at hwork
              exact ih hwork _ he

end Intake

/-- **What holds at all times.**  However a decoder and its store were worked,
their parts agree and stay within bounds.  So a byte, or a record that is added,
is never refused with an internal error, and neither is a piece of input, unless
what is done at the end of a line raises one; a record that is appended is so
refused exactly if it is of another kind than the batch. -/
theorem wellFormed_of_reached {capacity : Int} {s : Intake} (h : s.Reached capacity) :
    s.WellFormed capacity ∧
      (∀ b e, (s.consume b).1 = .error e → ¬ e.Internal) ∧
      (∀ r e, s.store.add r = .error e → ¬ e.Internal) ∧
      (∀ kind r e, s.store.append kind r = .error e → (e.Internal ↔ r.kind ≠ kind)) ∧
      ∀ (σ : Type) (onLine : LineHandler σ), onLine.Works →
        (∀ d store a e, (onLine d store a).1 = .error (.wire e) → ¬ e.Internal) →
        ∀ chunk a e, (feed onLine chunk s a).result = .error (.wire e) → ¬ e.Internal := by
  have htracked := h.tracked
  refine ⟨htracked.wellFormed, ?_, ?_, ?_, ?_⟩
  · exact fun b e he => htracked.not_internal_of_consume he
  · exact fun r e he hinternal => (htracked.store.internal_iff_of_append he).1 hinternal rfl
  · exact fun kind r e he => htracked.store.internal_iff_of_append he
  · exact fun σ onLine hline hraise chunk a e he =>
      htracked.not_internal_of_feed hline hraise chunk a he

/-- A record that found no room, and the beginning of another one. -/
theorem wellFormed_behind_refused :
    (Session.consumeAll [0x31, 0x2C, 0x61, 0x2C, 0x62, 0x2C, 0x63, 0x2C, 0x64, 0x0A]
        (.new 0)).2.1 = some (.wire (.batchFull .activation 0)) ∧
      let s := (Session.consumeAll [0x32, 0x2C] (Session.consumeAll
        [0x31, 0x2C, 0x61, 0x2C, 0x62, 0x2C, 0x63, 0x2C, 0x64, 0x0A] (.new 0)).2.2).2.2
      s.decoder = ⟨some .passwordRecovery, 1, [], []⟩ ∧ s.WellFormed 0 ∧
        ∀ b e, (s.consume b).1 = .error e → ¬ e.Internal := by
  have hnew : (Intake.new 0).Reached 0 := .new
  have h := wellFormed_of_reached (Session.reached_consumeAll (Session.reached_consumeAll
    hnew [0x31, 0x2C, 0x61, 0x2C, 0x62, 0x2C, 0x63, 0x2C, 0x64, 0x0A]) [0x32, 0x2C])
  exact ⟨by decide, by decide, h.1, h.2.1⟩

end BatchMailer
