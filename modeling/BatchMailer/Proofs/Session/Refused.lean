import BatchMailer.Proofs.Session.Invariant
import BatchMailer.Proofs.Stream.Delivery

/-!
# BatchMailer.Proofs.Session.Refused

What a refusal leaves behind.

A byte that does not fit is refused before it is taken: decoder and store stay as
they were.  Only a record that finds no room in its batch is gone when the byte
that closed it is refused, and then the decoder waits for the next record
(`Intake.Refused`).  Callers that go on after a refusal rely on nothing else.

A piece of input ends at the byte that is refused, or at the line whose handler
fails (`Progress.Stops`); the bytes behind it are never looked at
(`feed_of_stops`).
-/

namespace BatchMailer

/-- The errors of a kind token. -/
def WireError.OfKind : WireError → Prop
  | .unknownKind _ | .longKind _ | .missingKind | .closedWithoutKind => True
  | _ => False

/-- The error of a field that grows too long. -/
def WireError.OfField : WireError → Prop
  | .longField _ => True
  | _ => False

/-- What is left of a decoder and its store when a byte is refused. -/
structure Intake.Refused (s : Intake) (e : WireError) (t : Intake) : Prop where
  rule : e.OfKind ∨ e.OfField ∨ e.OfBatch
  unchanged : e.OfKind ∨ e.OfField → t = s
  waiting : e.OfBatch → t = ⟨.fresh, s.store⟩

/-- A handler that does nothing at the end of a line. -/
def LineHandler.idle : LineHandler Unit := fun _ store a => (.ok (), store, a)

variable {σ : Type}

/-- How a byte stops a piece of input: it is refused, or it ends a line whose
handler fails. -/
inductive Progress.Stops (onLine : LineHandler σ) (p : Progress σ) (b : UInt8) : Progress σ → Prop where
  | refused {e : WireError} {t : Intake} (h : p.intake.consume b = (.error e, t)) :
      Stops onLine p b ⟨.error (.wire e), t, p.state⟩
  | line {t : Intake} {f : Fault} {store : Store} {a : σ}
      (h : p.intake.consume b = (.ok .complete, t))
      (hline : onLine t.decoder t.store p.state = (.error f, store, a)) :
      Stops onLine p b ⟨.error f, { t with store }, a⟩

/-! ## one byte -/

theorem WireError.ofKind_or_ofField {e : WireError} (hinternal : ¬ e.Internal)
    (hbatch : ¬ e.OfBatch) : e.OfKind ∨ e.OfField := by
  cases e with
  | unknownKind _ => exact .inl trivial
  | longKind _ => exact .inl trivial
  | missingKind => exact .inl trivial
  | closedWithoutKind => exact .inl trivial
  | longField _ => exact .inr trivial
  | batchFull _ _ => exact absurd trivial hbatch
  | fieldCount _ => exact absurd trivial hinternal
  | wrongBatch _ _ => exact absurd trivial hinternal

theorem WireError.not_ofBatch {e : WireError} (h : e.OfKind ∨ e.OfField) : ¬ e.OfBatch := by
  intro hbatch
  cases e with
  | batchFull _ _ => exact h.elim id id
  | unknownKind _ => exact hbatch
  | longKind _ => exact hbatch
  | missingKind => exact hbatch
  | closedWithoutKind => exact hbatch
  | longField _ => exact hbatch
  | fieldCount _ => exact hbatch
  | wrongBatch _ _ => exact hbatch

theorem Intake.Tracked.refused {capacity : Int} {s t : Intake} (h : s.Tracked capacity) {b : UInt8}
    {e : WireError} (hb : s.consume b = (.error e, t)) : s.Refused e t := by
  obtain ⟨other, hother, hinternal, hbatch⟩ | ⟨other, hother, -, hbatch⟩ | ⟨event, u, hok, -⟩ :=
    h.consume_cases b
  · cases hb.symm.trans hother
    have hrule := WireError.ofKind_or_ofField hinternal hbatch
    exact ⟨hrule.imp_right .inl, fun _ => rfl, fun hroom => absurd hroom hbatch⟩
  · cases hb.symm.trans hother
    exact ⟨.inr (.inr hbatch), fun hrule => absurd hbatch (WireError.not_ofBatch hrule), fun _ => rfl⟩
  · cases hb.symm.trans hok

/-! ## a piece of input -/

section

variable {onLine : LineHandler σ}

/-- What stops behind the first bytes of a piece stops it, whatever follows. -/
theorem feed_of_stops {front : List UInt8} {s : Intake} {a : σ} {b : UInt8} {q : Progress σ}
    (hfront : (feed onLine front s a).result = .ok ())
    (hstop : (feed onLine front s a).Stops onLine b q) (back : List UInt8) :
    feed onLine (front ++ b :: back) s a = q := by
  rw [feed_append]
  generalize feed onLine front s a = p at hfront hstop
  obtain ⟨result, t, c⟩ := p
  cases hfront
  cases hstop with
  | refused h => exact feed_of_error h back
  | line h hline => exact feed_of_complete_of_error h hline back

/-- A piece that brings a fault has a byte that stops it. -/
theorem exists_stops_of_feed (chunk : List UInt8) (s : Intake) (a : σ) {f : Fault}
    (h : (feed onLine chunk s a).result = .error f) :
    ∃ front b back, chunk = front ++ b :: back ∧ (feed onLine front s a).result = .ok () ∧
      (feed onLine front s a).Stops onLine b (feed onLine chunk s a) := by
  induction chunk generalizing s a with
  | nil => cases h
  | cons b rest ih =>
      -- bytes that go through belong in front of the one that stops the rest
      have hstep : ∀ {t : Intake} {c : σ},
          (∀ rest, feed onLine (b :: rest) s a = feed onLine rest t c) →
          ∃ front b' back, b :: rest = front ++ b' :: back ∧
            (feed onLine front s a).result = .ok () ∧
            (feed onLine front s a).Stops onLine b' (feed onLine (b :: rest) s a) := by
        intro t c hfeed
        rw [hfeed] at h
        obtain ⟨front, b', back, hrest, hfront, hstop⟩ := ih t c h
        refine ⟨b :: front, b', back, ?_, ?_, ?_⟩
        · rw [hrest, List.cons_append]
        · rwa [hfeed]
        · rwa [hfeed, hfeed]
      cases hconsume : s.consume b with
      | mk result t =>
          cases result with
          | error e =>
              rw [feed_of_error hconsume]
              exact ⟨[], b, rest, rfl, rfl, .refused hconsume⟩
          | ok event =>
              cases event with
              | continues => exact hstep (feed_of_continues hconsume)
              | complete =>
                  cases hline : onLine t.decoder t.store a with
                  | mk answer rest' =>
                      obtain ⟨store, c⟩ := rest'
                      cases answer with
                      | error g =>
                          rw [feed_of_complete_of_error hconsume hline]
                          exact ⟨[], b, rest, rfl, rfl, .line hconsume hline⟩
                      | ok _ => exact hstep (feed_of_complete_of_ok hconsume hline)

/-- Bytes that are fed to a handler that does nothing are consumed one by one. -/
theorem feed_idle (bytes : List UInt8) (s : Intake) :
    feed .idle bytes s () =
      ⟨raised (Session.consumeAll bytes s).2.1, (Session.consumeAll bytes s).2.2, ()⟩ := by
  induction bytes generalizing s with
  | nil => rfl
  | cons b rest ih =>
      rw [Session.consumeAll]
      cases hconsume : s.consume b with
      | mk result t =>
          cases result with
          | error e => exact feed_of_error hconsume rest
          | ok event =>
              cases event with
              | continues => exact (feed_of_continues hconsume rest).trans (ih t)
              | complete => exact (feed_of_complete_of_ok hconsume rfl rest).trans (ih t)

end

/-! ## records from outside -/

/-- A step on the store that fails changes nothing. -/
theorem withStore_of_error {state : Session.State} {result : Except WireError Store} {f : Fault}
    (h : (Session.withStore state result).1 = .error f) :
    ∃ e, result = .error e ∧ f = .wire e ∧ Session.withStore state result = (.error f, state) := by
  cases result with
  | error e =>
      cases h
      exact ⟨e, rfl, rfl, rfl⟩
  | ok store => cases h

/-! ## refusals -/

/-- **What a refusal leaves behind.**  However a decoder and its store were
worked: a byte that is refused for its kind token or its field changes nothing,
and one that closes a record without room drops that record alone.  A piece of
input stops at its first such byte, in the state that the bytes before it led to
and with what the byte itself does to it, or where the handler of a line fails;
what stands behind is never looked at.  A record that a store or a batch refuses
for its kind or for want of room leaves everything as it is. -/
theorem refused_of_reached {capacity : Int} {s : Intake} (h : s.Reached capacity) :
    (∀ b e t, s.consume b = (.error e, t) → s.Refused e t) ∧
      (∀ (σ : Type) (onLine : LineHandler σ), onLine.Works → ∀ chunk a f,
        (feed onLine chunk s a).result = .error f →
          ∃ front b back, chunk = front ++ b :: back ∧
            (feed onLine front s a).result = .ok () ∧
            (feed onLine front s a).Stops onLine b (feed onLine chunk s a) ∧
            (∀ e t, (feed onLine front s a).intake.consume b = (.error e, t) →
              (feed onLine front s a).intake.Refused e t) ∧
            ∀ other, feed onLine (front ++ b :: other) s a = feed onLine chunk s a) ∧
      (∀ chunk, feed .idle chunk s () =
        ⟨raised (Session.consumeAll chunk s).2.1, (Session.consumeAll chunk s).2.2, ()⟩) ∧
      ∀ host : Host, let state : Session.State := ⟨s, host⟩
        (∀ r f, (Session.step state (.add r)).1 = .error f →
          Session.step state (.add r) = (.error f, state) ∧
            (s.store.batch r.kind).isFull = true ∧ f = .wire (.batchFull r.kind capacity)) ∧
        ∀ kind r f, (Session.step state (.append kind r)).1 = .error f →
          Session.step state (.append kind r) = (.error f, state) ∧
            (r.kind ≠ kind ∧ f = .wire (.wrongBatch r.kind kind) ∨
              r.kind = kind ∧ (s.store.batch kind).isFull = true ∧
                f = .wire (.batchFull kind capacity)) := by
  have hstore := h.tracked.store
  refine ⟨fun b e t hb => h.tracked.refused hb, ?_, fun chunk => feed_idle chunk s,
    fun host => ⟨?_, ?_⟩⟩
  · intro σ onLine hline chunk a f hfault
    obtain ⟨front, b, back, hchunk, hfront, hstop⟩ := exists_stops_of_feed chunk s a hfault
    have htracked := h.tracked.feed hline front a
    exact ⟨front, b, back, hchunk, hfront, hstop, fun e t hb => htracked.refused hb,
      fun other => feed_of_stops hfront hstop other⟩
  · intro r f hfault
    rw [Session.step] at hfault ⊢
    obtain ⟨e, hadd, rfl, hstep⟩ := withStore_of_error hfault
    obtain ⟨hkind, -⟩ | ⟨-, hfull, rfl⟩ := hstore.append_eq_error_iff.1 hadd
    · exact absurd rfl hkind
    · exact ⟨hstep, hfull, rfl⟩
  · intro kind r f hfault
    rw [Session.step] at hfault ⊢
    obtain ⟨e, happend, rfl, hstep⟩ := withStore_of_error hfault
    refine ⟨hstep, ?_⟩
    obtain ⟨hkind, rfl⟩ | ⟨hkind, hfull, rfl⟩ := hstore.append_eq_error_iff.1 happend
    · exact .inl ⟨hkind, rfl⟩
    · exact .inr ⟨hkind, hfull, rfl⟩

/-- A second record that finds no room in a batch of one. -/
theorem refused_of_reached_full :
    let full := (Session.consumeAll [0x31, 0x2C, 0x61, 0x2C, 0x62, 0x2C, 0x63, 0x2C, 0x64, 0x2C,
      0x31, 0x2C, 0x65, 0x2C, 0x66, 0x2C, 0x67, 0x2C, 0x68] (.new 1)).2.2
    full.Reached 1 ∧ full.Refused (.batchFull .activation 1) ⟨.fresh, full.store⟩ := by
  have hreached := Session.reached_consumeAll (.new : (Intake.new 1).Reached 1)
    [0x31, 0x2C, 0x61, 0x2C, 0x62, 0x2C, 0x63, 0x2C, 0x64, 0x2C,
      0x31, 0x2C, 0x65, 0x2C, 0x66, 0x2C, 0x67, 0x2C, 0x68]
  exact ⟨hreached, (refused_of_reached hreached).1 0x0A _ _ (by decide)⟩

end BatchMailer
