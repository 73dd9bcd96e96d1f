import BatchMailer.Proofs.Wire.Grammar
import BatchMailer.Session

/-!
# BatchMailer.Proofs.Wire.Reading

What becomes of an input that is consumed from the beginning, with no flush in
between.

An input is accepted if it fits the grammar and no batch is asked to hold more
than it can.  Accepted inputs are consumed to their end, and what is left behind
is `stateAfter`, which the tokens of the input determine.  Any other input is
consumed up to the first byte that takes the part before it out of the accepted
ones; the error names the rule that this byte breaks.
-/

namespace BatchMailer.Wire

/-- An input that a decoder takes to its end when batches hold so many records. -/
structure Accepted (capacity : Nat) (input : List UInt8) : Prop where
  fits : Fits input
  room : ∀ kind : Kind, (kind.among (records input)).length ≤ capacity

/-- The error for a byte behind an accepted input, by the rule it breaks. -/
inductive BrokenRule (capacity : Nat) (input : List UInt8) (b : UInt8) : WireError → Prop where
  | kind (h : ¬ KindsFit (input ++ [b])) : BrokenRule capacity input b (kindRefusal input b)
  | field (h : ¬ FieldsFit (input ++ [b])) : BrokenRule capacity input b (fieldRefusal input)
  | room (kind : Kind) (h : capacity < (kind.among (records (input ++ [b]))).length) :
      BrokenRule capacity input b (.batchFull kind capacity)

/-- Where an accepted input leaves decoder and store. -/
def stateAfter (capacity : Nat) (input : List UInt8) : Intake where
  decoder := decoderAfter input
  store := .holding capacity (records input)

theorem stateAfter_nil (capacity : Nat) : stateAfter capacity [] = .new capacity := rfl

section

variable {capacity : Nat} {input : List UInt8} {b : UInt8}

theorem accepted_nil : Accepted capacity [] := ⟨fits_nil, fun _ => Nat.zero_le _⟩

theorem accepted_of_append_singleton (h : Accepted capacity (input ++ [b])) :
    Accepted capacity input := by
  refine ⟨fits_of_append_singleton h.fits, fun kind => ?_⟩
  have hroom := h.room kind
  rw [records_append, Kind.among_append, List.length_append] at hroom
  omega

/-- What comes before accepted bytes is accepted. -/
theorem accepted_of_append {rest : List UInt8} (h : Accepted capacity (input ++ rest)) :
    Accepted capacity input :=
  of_append accepted_of_append_singleton h

/-! ## one byte -/

/-- A byte may follow an accepted input, and is taken, or it is refused by the
decoder or by a batch, and no batch changes. -/
theorem consume_of_accepted_cases (h : Accepted capacity input) (b : UInt8) :
    (Accepted capacity (input ++ [b]) ∧ (stateAfter capacity input).consume b =
      (.ok (eventOf b), stateAfter capacity (input ++ [b]))) ∨
    (¬ Accepted capacity (input ++ [b]) ∧ ∃ e d, (stateAfter capacity input).consume b =
      (.error e, ⟨d, .holding capacity (records input)⟩) ∧ BrokenRule capacity input b e) := by
  obtain ⟨e, hrefusal, hconsume⟩ | ⟨hfits, kind, hlt, hconsume⟩ | ⟨hfits, hroom, hconsume⟩ :=
    consume_holding_cases h.fits b h.room
  · have hrefused : ¬ Fits (input ++ [b]) := not_fits_of_refusal h.fits hrefusal
    refine .inr ⟨fun hnext => hrefused hnext.fits, e, _, hconsume, ?_⟩
    obtain ⟨hbroken, rfl⟩ | ⟨hbroken, rfl⟩ := rule_of_refusal hrefusal
    · exact .kind hbroken
    · exact .field hbroken
  · rw [← records_append] at hlt
    exact .inr ⟨fun hnext => Nat.not_le.2 hlt (hnext.room kind), _, _, hconsume, .room kind hlt⟩
  · rw [← records_append] at hroom hconsume
    exact .inl ⟨⟨hfits, hroom⟩, hconsume⟩

theorem consume_of_accepted (h : Accepted capacity (input ++ [b])) :
    (stateAfter capacity input).consume b = (.ok (eventOf b), stateAfter capacity (input ++ [b])) := by
  obtain ⟨-, hconsume⟩ | ⟨hnot, -⟩ := consume_of_accepted_cases (accepted_of_append_singleton h) b
  · exact hconsume
  · exact absurd h hnot

end

/-! ## a whole input -/

section

variable (capacity : Nat)

/-- Accepted bytes behind accepted bytes are consumed. -/
theorem consumeAll_of_accepted (front rest : List UInt8) (h : Accepted capacity (front ++ rest)) :
    Session.consumeAll rest (stateAfter capacity front) =
      (rest.map eventOf, none, stateAfter capacity (front ++ rest)) := by
  induction rest generalizing front with
  | nil => rw [List.append_nil]; rfl
  | cons b rest ih =>
      rw [List.append_cons] at h ⊢
      rw [Session.consumeAll, consume_of_accepted (accepted_of_append h)]
      simp only [ih (front ++ [b]) h]
      rfl

/-- Bytes that are not all accepted have a first one that is not. -/
theorem exists_first_not_accepted (front rest : List UInt8) (h : Accepted capacity front)
    (hrest : ¬ Accepted capacity (front ++ rest)) :
    ∃ taken b back, rest = taken ++ b :: back ∧ Accepted capacity (front ++ taken) ∧
      ¬ Accepted capacity (front ++ taken ++ [b]) := by
  induction rest generalizing front with
  | nil => exact absurd h (by rwa [List.append_nil] at hrest)
  | cons b rest ih =>
      by_cases hb : Accepted capacity (front ++ [b])
      · rw [List.append_cons] at hrest
        obtain ⟨taken, c, back, rfl, htaken, hc⟩ := ih (front ++ [b]) hb hrest
        rw [← List.append_cons] at htaken hc
        exact ⟨b :: taken, c, back, rfl, htaken, hc⟩
      · exact ⟨[], b, rest, rfl, by rwa [List.append_nil], by rwa [List.append_nil]⟩

/-- What is consumed without an error goes before what follows. -/
theorem consumeAll_append {front : List UInt8} {s t : Intake} {events : List LineEvent}
    (h : Session.consumeAll front s = (events, none, t)) (back : List UInt8) :
    Session.consumeAll (front ++ back) s =
      (events ++ (Session.consumeAll back t).1, (Session.consumeAll back t).2) := by
  induction front generalizing s events with
  | nil =>
      cases h
      rfl
  | cons b rest ih =>
      rw [Session.consumeAll] at h
      rw [List.cons_append, Session.consumeAll]
      cases hb : s.consume b with
      | mk result u =>
          cases result with
          | error e => rw [hb] at h; cases h
          | ok event =>
              rw [hb] at h
              simp only [Prod.mk.injEq] at h ⊢
              obtain ⟨rfl, hnone, rfl⟩ := h
              have hrest : Session.consumeAll rest u =
                  ((Session.consumeAll rest u).1, none, (Session.consumeAll rest u).2.2) := by
                rw [← hnone]
              rw [ih hrest]
              simp

/-- **Reading an input from the beginning.**  It is consumed without an error
exactly if it is accepted.  Then a line has ended at each line feed and nowhere
else, each batch holds the records of its kind, and the decoder stands where the
last group left it.  Otherwise the bytes in front of the first one that is not
accepted are consumed, their records wait in the batches, and the error is that
of a rule which this byte breaks. -/
theorem consumeAll_new (input : List UInt8) :
    ∃ events fault s, Session.consumeAll input (.new capacity) = (events, fault, s) ∧
      (fault = none ↔ Accepted capacity input) ∧
      (Accepted capacity input →
        events = input.map eventOf ∧
        (∀ kind, s.store.pending kind = kind.among (records input)) ∧
        s.decoder.index = phase input ∧
        s.decoder.kind = kindOf? ((tokens input).getD (5 * groupCount input) []) ∧
        s.decoder.fieldLength = if phase input = 0 then 0 else (openToken input).length) ∧
      (¬ Accepted capacity input →
        ∃ front b back e, input = front ++ b :: back ∧
          (∀ p, p <+: front → Accepted capacity p) ∧
          ¬ Accepted capacity (front ++ [b]) ∧
          events = front.map eventOf ∧
          fault = some (.wire e) ∧
          BrokenRule capacity front b e ∧
          ∀ kind, s.store.pending kind = kind.among (records front)) := by
  rw [← stateAfter_nil]
  by_cases haccepted : Accepted capacity input
  · refine ⟨_, _, _, consumeAll_of_accepted capacity [] input haccepted, ?_, fun _ => ?_, ?_⟩
    · simp [haccepted]
    · refine ⟨rfl, fun kind => ?_, ?_, ?_, ?_⟩
      · exact Store.pending_holding _ _ kind
      · exact index_decoderAfter input
      · exact kind_decoderAfter input
      · exact fieldLength_decoderAfter input
    · exact fun h => absurd haccepted h
  · obtain ⟨front, b, back, rfl, hfront, hb⟩ :=
      exists_first_not_accepted capacity [] input accepted_nil haccepted
    rw [List.nil_append] at hfront hb
    obtain ⟨haccepted', -⟩ | ⟨-, e, d, hconsume, hbroken⟩ := consume_of_accepted_cases hfront b
    · exact absurd haccepted' hb
    have hread := consumeAll_append (consumeAll_of_accepted capacity [] front hfront) (b :: back)
    rw [List.nil_append, Session.consumeAll, hconsume, List.append_nil] at hread
    refine ⟨_, _, _, hread, ?_, fun h => absurd h haccepted, fun _ => ?_⟩
    · simp [haccepted]
    · refine ⟨front, b, back, e, rfl, ?_, hb, rfl, rfl, hbroken, fun kind => ?_⟩
      · intro p hp
        obtain ⟨rest, rfl⟩ := hp
        exact accepted_of_append hfront
      · exact Store.pending_holding _ _ kind

end

end BatchMailer.Wire
