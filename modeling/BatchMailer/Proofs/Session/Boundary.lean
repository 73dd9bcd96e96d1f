import BatchMailer.Proofs.Session.Invariant
import BatchMailer.Proofs.Wire.Reading

/-!
# BatchMailer.Proofs.Session.Boundary

Between two records a decoder remembers nothing.

A decoder is like new (`Intake.LikeNew`) if no session can tell it from one that
was just made for the same store.  Wherever a decoder can get to, it is so exactly
while it waits for the byte of a kind, and a single delimiter is enough to find out
(`Intake.Tracked.likeNew_iff_consume`).  It comes to wait there by a reset, by a byte
that closes a record, and when a batch has no room for the record that was closed.

Of an input, this is the place behind a complete group with nothing open
(`Wire.EndsRecord`).  What follows there is read as if nothing had gone before, and
what follows elsewhere is not (`endsRecord_iff_consumeAll`).
-/

namespace BatchMailer

/-- A decoder that cannot be told from one that was just made for its store.
Whatever steps follow, on whatever host, both give the same results, log the same
entries, and leave the same decoder, the same batches and the same host behind. -/
def Intake.LikeNew (s : Intake) : Prop :=
  ∀ (host : Host) (steps : List Session.Step),
    Session.run ⟨s, host⟩ steps = Session.run ⟨⟨.fresh, s.store⟩, host⟩ steps

/-- A byte that closes the last field of a record. -/
def Intake.Closes (s : Intake) (b : UInt8) : Prop :=
  Wire.isDelimiter b = true ∧ s.decoder.index = Record.fieldCount

/-! ## inputs that end at a boundary -/

namespace Wire

/-- An input of complete groups, with nothing behind the last of them. -/
def EndsRecord (input : List UInt8) : Prop := phase input = 0 ∧ openToken input = []

instance (input : List UInt8) : Decidable (EndsRecord input) :=
  inferInstanceAs (Decidable (_ ∧ _))

section

variable {input : List UInt8} {b : UInt8}

/-- A record ends with the delimiter behind its last field, and nowhere else. -/
theorem endsRecord_append_iff :
    EndsRecord (input ++ [b]) ↔ isDelimiter b = true ∧ phase input = 4 := by
  by_cases hb : isDelimiter b = true
  · have hlt : phase input < 5 := phase_lt input
    have hnext : phase (input ++ [b]) = (phase input + 1) % 5 := by
      rw [phase, closedTokens_append_delimiter input hb, List.length_append, List.length_singleton,
        phase]
      omega
    rw [EndsRecord, openToken_append_delimiter input hb, hnext]
    simp only [hb, and_true, true_and]
    omega
  · rw [EndsRecord, openToken_append_byte input (by simpa using hb)]
    simp [hb]

/-- The decoder is where it was in the beginning only behind a complete group. -/
theorem decoderAfter_eq_fresh_iff (h : KindsFit input) :
    decoderAfter input = .fresh ↔ EndsRecord input := by
  have hlen : (openGroup input).length = phase input := length_openGroup input
  rw [decoderAfter, EndsRecord]
  cases hgroup : openGroup input with
  | nil =>
      have hphase : phase input = 0 := by rw [← hlen, hgroup]; rfl
      obtain hopen | ⟨kind, hopen⟩ := h.2 hphase
      · simp [hphase, hopen, decoderOf, Decoder.fresh]
      · simp [hopen, decoderOf, Decoder.fresh]
  | cons first fields =>
      have hphase : phase input ≠ 0 := by
        rw [← hlen, hgroup]
        exact Nat.succ_ne_zero _
      refine iff_of_false (fun heq => ?_) fun hboth => hphase hboth.1
      have hindex : (fields.length : Int) + 1 = 0 := congrArg Decoder.index heq
      omega

/-- The delimiter behind the last field of a group that fits completes a record. -/
theorem exists_completed (h : KindsFit input) (hb : isDelimiter b = true)
    (hphase : phase input = 4) : ∃ r, completed? input b = some r := by
  have hlen : (openGroup input).length = 4 := (length_openGroup input).trans hphase
  rw [completed?, if_pos ⟨hb, hphase⟩]
  cases hgroup : openGroup input with
  | nil =>
      rw [hgroup] at hlen
      contradiction
  | cons first fields =>
      obtain ⟨kind, rfl⟩ := exists_kind_of_openGroup h hgroup
      have hfields : fields.length = 3 := by
        rw [hgroup] at hlen
        exact Nat.succ.inj hlen
      obtain ⟨x, y, z, rfl⟩ := List.length_eq_three.1 hfields
      exact ⟨⟨kind, x, y, z, openToken input⟩, recordOf?_eq_some_iff.2 rfl⟩

/-- A delimiter is refused for want of a kind exactly behind a complete group. -/
theorem consume_eq_missingKind_iff (h : Fits input) (hb : isDelimiter b = true) {capacity : Int}
    {store : Store} (hstore : store.WellFormed capacity) :
    ((Intake.mk (decoderAfter input) store).consume b).1 = .error .missingKind ↔
      EndsRecord input := by
  by_cases hends : EndsRecord input
  · have hrefusal : refusal? input b = some .missingKind := by
      rw [refusal?, if_pos hends.1, if_pos hb, if_pos hends.2, kindRefusal, if_pos hb]
    rw [consume_of_refusal h hrefusal]
    exact iff_of_true rfl hends
  · have hrefusal : refusal? input b = none := by
      rw [refusal?]
      by_cases hphase : phase input = 0
      · rw [if_pos hphase, if_pos hb, if_neg fun hopen => hends ⟨hphase, hopen⟩]
      · simp [hphase, hb]
    rw [consume_of_fits h ((fits_append_iff h b).2 hrefusal)]
    refine iff_of_false ?_ hends
    cases hrecord : completed? input b with
    | none => simp [Store.receive]
    | some r =>
        rw [Store.receive]
        cases hadd : store.add r with
        | ok t => simp
        | error e =>
            have hroom : e.OfBatch := hstore.ofBatch_of_add hadd
            intro heq
            obtain rfl : e = .missingKind := Except.error.inj heq
            exact hroom

end

/-- Bytes that are all taken fit behind what was taken before. -/
theorem fits_of_consumeAll {front rest : List UInt8} {store : Store} {events : List LineEvent}
    {t : Intake} (hfront : Fits front)
    (h : Session.consumeAll rest ⟨decoderAfter front, store⟩ = (events, none, t)) :
    Fits (front ++ rest) ∧ t.decoder = decoderAfter (front ++ rest) := by
  induction rest generalizing front store events with
  | nil =>
      cases h
      rw [List.append_nil]
      exact ⟨hfront, rfl⟩
  | cons b rest ih =>
      rw [Session.consumeAll] at h
      cases hrefusal : refusal? front b with
      | some e =>
          rw [consume_of_refusal hfront hrefusal] at h
          cases h
      | none =>
          have hb : Fits (front ++ [b]) := (fits_append_iff hfront b).2 hrefusal
          rw [consume_of_fits hfront hb] at h
          cases hreceive : store.receive (completed? front b) with
          | error e =>
              rw [hreceive] at h
              cases h
          | ok u =>
              rw [hreceive] at h
              simp only [Prod.mk.injEq] at h
              obtain ⟨-, hnone, rfl⟩ := h
              rw [List.append_cons]
              exact ih hb (Prod.ext rfl (Prod.ext hnone rfl))

end Wire

/-! ## decoders at a boundary -/

namespace Intake

variable {capacity : Int} {s t : Intake} {b : UInt8}

theorem likeNew_iff_decoder : s.LikeNew ↔ s.decoder = .fresh := by
  constructor
  · intro h
    have hrun := h (.start ⟨⟨⟨2024, 2, 29⟩, 12, 30, 0, 0, 0⟩, []⟩ ⟨.nan, []⟩ .fresh) [.isEmpty]
    simp only [Session.run, Session.step, List.cons.injEq, Prod.mk.injEq, Session.State.mk.injEq] at hrun
    exact congrArg Intake.decoder hrun.1.2.1.1
  · intro h host steps
    obtain ⟨d, store⟩ := s
    obtain rfl : d = .fresh := h
    rfl

/-- What callers see of a decoder decides whether it is like new. -/
theorem Tracked.likeNew_iff_waits (h : s.Tracked capacity) :
    s.LikeNew ↔ s.decoder.kind = none ∧ s.decoder.index = 0 := by
  rw [likeNew_iff_decoder]
  constructor
  · intro hfresh
    rw [hfresh]
    exact ⟨rfl, rfl⟩
  · intro hboth
    obtain ⟨hkind, hindex⟩ := hboth
    obtain ⟨hfield, hfields⟩ := h.wellFormed.decoder.empty hindex
    obtain ⟨⟨kind, index, field, fields⟩, store⟩ := s
    simp only at hkind hindex hfield hfields
    rw [hkind, hindex, hfield, hfields, Decoder.fresh]

/-- A delimiter tells a decoder that is like new from any other. -/
theorem Tracked.likeNew_iff_consume (h : s.Tracked capacity) (hb : Wire.isDelimiter b = true) :
    s.LikeNew ↔ (s.consume b).1 = .error .missingKind := by
  obtain ⟨d, store⟩ := s
  obtain ⟨⟨input, hfits, rfl⟩, hstore⟩ := h
  rw [likeNew_iff_decoder, Wire.decoderAfter_eq_fresh_iff hfits.kinds,
    Wire.consume_eq_missingKind_iff hfits hb hstore]

/-- A byte that is taken leads to a boundary if it closes a record, which then has
joined its batch, and else it does not. -/
theorem Tracked.likeNew_iff_closes (h : s.Tracked capacity) {event : LineEvent}
    (hb : s.consume b = (.ok event, t)) :
    (t.LikeNew ↔ s.Closes b) ∧ (s.Closes b → ∃ r, s.store.add r = .ok t.store) := by
  obtain ⟨d, store⟩ := s
  obtain ⟨⟨input, hfits, rfl⟩, hstore⟩ := h
  have hcloses : (Intake.mk (Wire.decoderAfter input) store).Closes b ↔
      Wire.isDelimiter b = true ∧ Wire.phase input = 4 := by
    rw [Closes, Wire.index_decoderAfter, Record.fieldCount]
    exact and_congr_right fun _ => Int.ofNat_inj
  cases hrefusal : Wire.refusal? input b with
  | some e =>
      rw [Wire.consume_of_refusal hfits hrefusal] at hb
      cases hb
  | none =>
      have hnext : Wire.Fits (input ++ [b]) := (Wire.fits_append_iff hfits b).2 hrefusal
      rw [Wire.consume_of_fits hfits hnext] at hb
      cases hreceive : store.receive (Wire.completed? input b) with
      | error e =>
          rw [hreceive] at hb
          cases hb
      | ok u =>
          rw [hreceive] at hb
          cases hb
          rw [likeNew_iff_decoder, Wire.decoderAfter_eq_fresh_iff hnext.kinds,
            Wire.endsRecord_append_iff, hcloses]
          refine ⟨Iff.rfl, fun hlast => ?_⟩
          obtain ⟨r, hrecord⟩ := Wire.exists_completed hfits.kinds hlast.1 hlast.2
          rw [hrecord, Store.receive] at hreceive
          exact ⟨r, hreceive⟩

/-- A record that finds no room is forgotten. -/
theorem Tracked.likeNew_of_batchFull (h : s.Tracked capacity) {kind : Kind} {n : Int}
    (hb : s.consume b = (.error (.batchFull kind n), t)) : t.LikeNew ∧ t.store = s.store := by
  obtain ⟨e, hother, -, hbatch⟩ | ⟨e, hother, -, -⟩ | ⟨event, u, hok, -⟩ := h.consume_cases b
  · cases hb.symm.trans hother
    exact absurd trivial hbatch
  · cases hb.symm.trans hother
    exact ⟨likeNew_iff_decoder.2 rfl, rfl⟩
  · cases hb.symm.trans hok

end Intake

/-! ## inputs in two parts -/

/-- Behind an input that was taken, a decoder reads as a new one would if and only if
the input ends at a boundary. -/
theorem endsRecord_iff_consumeAll {store : Store} {front : List UInt8} {events : List LineEvent}
    {t : Intake} (hfront : Session.consumeAll front ⟨.fresh, store⟩ = (events, none, t)) :
    Wire.EndsRecord front ↔ ∀ back, Session.consumeAll (front ++ back) ⟨.fresh, store⟩ =
      (events ++ (Session.consumeAll back ⟨.fresh, t.store⟩).1,
        (Session.consumeAll back ⟨.fresh, t.store⟩).2) := by
  obtain ⟨hfits, hdecoder⟩ := Wire.fits_of_consumeAll Wire.fits_nil hfront
  rw [List.nil_append] at hfits hdecoder
  rw [← Wire.decoderAfter_eq_fresh_iff hfits.kinds, ← hdecoder]
  constructor
  · intro hfresh back
    obtain ⟨d, u⟩ := t
    obtain rfl : d = .fresh := hfresh
    exact Wire.consumeAll_append hfront back
  · intro hall
    have hnil := hall []
    rw [List.append_nil, hfront] at hnil
    exact congrArg (fun read => read.2.2.decoder) hnil

/-- **A record boundary forgets everything.**  However a decoder and its store were
worked: the decoder is like new exactly if no part of it is left from before, which is
while callers see no kind and no field, and it shows when a comma is refused for want
of a kind.  So it is after a reset, which leaves the batches alone; after a byte that
is taken, if and only if this byte closes a record, which then has joined its batch;
and after a byte that closes a record without room, which leaves the batches alone
too.  Of two inputs that are read one after the other, the second is read as by a new
decoder, with the events of the first in front, if and only if the first ends at a
boundary. -/
theorem likeNew_of_reached {capacity : Int} {s : Intake} (h : s.Reached capacity) :
    (s.LikeNew ↔ s.decoder = .fresh) ∧
      (s.LikeNew ↔ s.decoder.kind = none ∧ s.decoder.index = 0) ∧
      (s.LikeNew ↔ (s.consume Wire.comma).1 = .error .missingKind) ∧
      (s.reset.LikeNew ∧ s.reset.store = s.store) ∧
      (∀ b event t, s.consume b = (.ok event, t) →
        (t.LikeNew ↔ s.Closes b) ∧ (s.Closes b → ∃ r, s.store.add r = .ok t.store)) ∧
      (∀ b kind n t, s.consume b = (.error (.batchFull kind n), t) →
        t.LikeNew ∧ t.store = s.store) ∧
      ∀ store front events t,
        Session.consumeAll front ⟨.fresh, store⟩ = (events, none, t) →
          (Wire.EndsRecord front ↔ ∀ back, Session.consumeAll (front ++ back) ⟨.fresh, store⟩ =
            (events ++ (Session.consumeAll back ⟨.fresh, t.store⟩).1,
              (Session.consumeAll back ⟨.fresh, t.store⟩).2)) := by
  have htracked := h.tracked
  refine ⟨Intake.likeNew_iff_decoder, htracked.likeNew_iff_waits,
    htracked.likeNew_iff_consume rfl, ⟨Intake.likeNew_iff_decoder.2 rfl, rfl⟩, ?_, ?_, ?_⟩
  · exact fun b event t hb => htracked.likeNew_iff_closes hb
  · exact fun b kind n t hb => htracked.likeNew_of_batchFull hb
  · exact fun store front events t hfront => endsRecord_iff_consumeAll hfront

/-- A record that joins a batch of one, and a second one that finds no room; then a
byte that is no kind's, with both of them before it and without. -/
theorem likeNew_of_reached_full :
    let line : List UInt8 := [0x31, 0x2C, 0x61, 0x2C, 0x62, 0x2C, 0x63, 0x2C, 0x64]
    let first := (Session.consumeAll line (.new 1)).2.2
    let second := (Session.consumeAll (0x0A :: line) first).2.2
    (first.consume 0x0A).2.LikeNew ∧ ¬ second.LikeNew ∧ second.reset.LikeNew ∧
      (second.consume 0x0A).1 = .error (.batchFull .activation 1) ∧
      (second.consume 0x0A).2.LikeNew ∧
      Session.consumeAll (line ++ [0x0A] ++ [0x33]) (.new 1) =
        ((line ++ [0x0A]).map Wire.eventOf, some (.wire (.unknownKind 0x33)),
          ⟨.fresh, (first.consume 0x0A).2.store⟩) := by
  intro line first second
  have hfirst : first.Reached 1 := Session.reached_consumeAll .new line
  have hsecond : second.Reached 1 := Session.reached_consumeAll hfirst (0x0A :: line)
  obtain ⟨-, -, -, -, htaken, -, hparts⟩ := likeNew_of_reached hfirst
  obtain ⟨-, hwaits, -, ⟨hreset, -⟩, -, hroom, -⟩ := likeNew_of_reached hsecond
  refine ⟨(htaken 0x0A .complete _ (by decide)).1.2 ⟨by decide, by decide⟩, ?_, hreset, by decide,
    (hroom 0x0A .activation 1 _ (by decide)).1, ?_⟩
  · rw [hwaits]
    decide
  · have hline : Session.consumeAll (line ++ [0x0A]) (.new 1) =
        ((line ++ [0x0A]).map Wire.eventOf, none, (first.consume 0x0A).2) := by decide
    exact ((hparts (.new 1) (line ++ [0x0A]) _ _ hline).1 (by decide) [0x33]).trans (by decide)

end BatchMailer
