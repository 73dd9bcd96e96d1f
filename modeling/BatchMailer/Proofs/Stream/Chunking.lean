import BatchMailer.Proofs.Stream.Trace

/-!
# BatchMailer.Proofs.Stream.Chunking

How a stream is cut into pieces makes no difference.

`Due` says which call of a handler belongs to which line feed of a stream: the
one that shows what has come of the bytes up to this line feed, with the calls
for earlier ones made and nothing later looked at.  These are the calls that are
made (`getElem?_calls_iff`), so they depend on no piece, and neither does the
outcome.  The main theorem adds what is known of the reads (`pump_of_flatten_eq`).
-/

namespace BatchMailer

variable {σ : Type}

/-! ## the calls of a stream -/

/-- The call that is due at the line feed with `k` others in front of it. -/
def Due (onLine : LineHandler σ) (input : List UInt8) (s : Intake) (a : σ) (k : Nat)
    (call : Call) : Prop :=
  ∃ front back t b, input = front ++ Wire.lineFeed :: back ∧ front.count Wire.lineFeed = k ∧
    feed onLine front s a = ⟨.ok (), t, b⟩ ∧
    t.consume Wire.lineFeed = (.ok .complete, ⟨call.1, call.2⟩)

namespace Due

variable {onLine : LineHandler σ} {input rest : List UInt8} {s t : Intake} {a b : σ} {byte : UInt8}
  {k : Nat} {call : Call}

theorem not_nil : ¬ Due onLine [] s a k call := by
  intro hdue
  obtain ⟨front, back, t, b, hinput, -⟩ := hdue
  cases front <;> cases hinput

/-- At the first byte, or behind it. -/
theorem cons_iff : Due onLine (byte :: rest) s a k call ↔
    (byte = Wire.lineFeed ∧ k = 0 ∧ s.consume byte = (.ok .complete, ⟨call.1, call.2⟩)) ∨
      ∃ front back t b, rest = front ++ Wire.lineFeed :: back ∧
        (byte :: front).count Wire.lineFeed = k ∧
        feed onLine (byte :: front) s a = ⟨.ok (), t, b⟩ ∧
        t.consume Wire.lineFeed = (.ok .complete, ⟨call.1, call.2⟩) := by
  constructor
  · intro hdue
    obtain ⟨front, back, t, b, hinput, hk, hfeed, hconsume⟩ := hdue
    cases front with
    | nil =>
        obtain ⟨rfl, rfl⟩ := List.cons.inj hinput
        cases hfeed
        exact .inl ⟨rfl, hk.symm, hconsume⟩
    | cons first front =>
        obtain ⟨rfl, rfl⟩ := List.cons.inj hinput
        exact .inr ⟨front, back, t, b, rfl, hk, hfeed, hconsume⟩
  · intro hdue
    obtain ⟨rfl, rfl, hconsume⟩ | ⟨front, back, t, b, rfl, hk, hfeed, hconsume⟩ := hdue
    · exact ⟨[], rest, s, a, rfl, rfl, rfl, hconsume⟩
    · exact ⟨byte :: front, back, t, b, rfl, hk, hfeed, hconsume⟩

theorem not_of_error {e : WireError} (h : s.consume byte = (.error e, t)) :
    ¬ Due onLine (byte :: rest) s a k call := by
  rw [cons_iff]
  intro hdue
  obtain ⟨-, -, hconsume⟩ | ⟨front, back, u, c, -, -, hfeed, -⟩ := hdue
  · rw [h] at hconsume
    cases hconsume
  · rw [feed_of_error h] at hfeed
    cases hfeed

theorem of_continues_iff (h : s.consume byte = (.ok .continues, t)) :
    Due onLine (byte :: rest) s a k call ↔ Due onLine rest t a k call := by
  have hbyte : byte ≠ Wire.lineFeed := fun hbyte =>
    nomatch (Intake.eq_lineFeed_iff_of_consume h).1 hbyte
  simp only [cons_iff, hbyte, false_and, false_or, feed_of_continues h, List.count_cons_of_ne hbyte]
  rfl

theorem zero_iff_of_complete (h : s.consume byte = (.ok .complete, t)) :
    Due onLine (byte :: rest) s a 0 call ↔ (t.decoder, t.store) = call := by
  have hbyte : byte = Wire.lineFeed := (Intake.eq_lineFeed_iff_of_consume h).2 rfl
  rw [cons_iff, h]
  constructor
  · intro hdue
    obtain ⟨-, -, hconsume⟩ | ⟨front, back, u, c, -, hk, -⟩ := hdue
    · cases hconsume
      rfl
    · rw [hbyte, List.count_cons_self] at hk
      omega
  · intro heq
    subst heq
    exact .inl ⟨hbyte, rfl, rfl⟩

theorem not_succ_of_complete_of_error (h : s.consume byte = (.ok .complete, t)) {e : Fault}
    {u : Store} (hline : onLine t.decoder t.store a = (.error e, u, b)) :
    ¬ Due onLine (byte :: rest) s a (k + 1) call := by
  rw [cons_iff]
  intro hdue
  obtain ⟨-, hk, -⟩ | ⟨front, back, v, c, -, -, hfeed, -⟩ := hdue
  · omega
  · rw [feed_of_complete_of_error h hline] at hfeed
    cases hfeed

theorem succ_iff_of_complete_of_ok (h : s.consume byte = (.ok .complete, t)) {u : Store}
    (hline : onLine t.decoder t.store a = (.ok (), u, b)) :
    Due onLine (byte :: rest) s a (k + 1) call ↔ Due onLine rest { t with store := u } b k call := by
  obtain rfl : byte = Wire.lineFeed := (Intake.eq_lineFeed_iff_of_consume h).2 rfl
  simp only [cons_iff, feed_of_complete_of_ok h hline, List.count_cons_self,
    Nat.add_right_cancel_iff, Nat.succ_ne_zero, false_and, and_false, false_or]
  rfl

end Due

section

variable (onLine : LineHandler σ)

/-- The calls that are made are those that are due. -/
theorem getElem?_calls_iff (input : List UInt8) (s : Intake) (a : σ) (k : Nat) (call : Call) :
    (feed onLine.calling input s ([], a)).state.1[k]? = some call ↔
      Due onLine input s a k call := by
  induction input generalizing s a k with
  | nil => exact iff_of_false (by simp [feed]) Due.not_nil
  | cons byte rest ih =>
      cases hconsume : s.consume byte with
      | mk taken t =>
          cases taken with
          | error e =>
              rw [feed_of_error hconsume]
              exact iff_of_false (by simp) (Due.not_of_error hconsume)
          | ok event =>
              cases event with
              | continues =>
                  rw [feed_of_continues hconsume, ih, Due.of_continues_iff hconsume]
              | complete =>
                  cases hline : onLine t.decoder t.store a with
                  | mk result after =>
                      obtain ⟨u, b⟩ := after
                      have hcalling : onLine.calling t.decoder t.store ([], a) =
                          (result, u, ([(t.decoder, t.store)], b)) := by
                        simp only [LineHandler.calling, LineHandler.noting, hline, List.nil_append]
                      cases result with
                      | error e =>
                          rw [feed_of_complete_of_error hconsume hcalling]
                          cases k with
                          | zero => simp [Due.zero_iff_of_complete hconsume]
                          | succ k =>
                              simp [Due.not_succ_of_complete_of_error hconsume hline]
                      | ok _ =>
                          rw [feed_of_complete_of_ok hconsume hcalling, feed_calling_append]
                          cases k with
                          | zero =>
                              simp [Due.zero_iff_of_complete hconsume, Progress.map]
                          | succ k =>
                              rw [Due.succ_iff_of_complete_of_ok hconsume hline, ← ih]
                              rfl

/-- Without a fault, there is a call for each line feed. -/
theorem length_calls_of_ok {input : List UInt8} {s t : Intake} {a b : σ} {kept calls : List Call}
    (h : feed onLine.calling input s (kept, a) = ⟨.ok (), t, (calls, b)⟩) :
    calls.length = kept.length + input.count Wire.lineFeed := by
  induction input generalizing s a kept with
  | nil =>
      cases h
      rfl
  | cons byte rest ih =>
      cases hconsume : s.consume byte with
      | mk taken u =>
          cases taken with
          | error e =>
              rw [feed_of_error hconsume] at h
              cases h
          | ok event =>
              have hbyte := Intake.eq_lineFeed_iff_of_consume hconsume
              cases event with
              | continues =>
                  rw [feed_of_continues hconsume] at h
                  rw [ih h, List.count_cons_of_ne fun heq => nomatch hbyte.1 heq]
              | complete =>
                  cases hline : onLine.calling u.decoder u.store (kept, a) with
                  | mk result after =>
                      obtain ⟨v, noted, c⟩ := after
                      have hnoted : noted = kept ++ [(u.decoder, u.store)] :=
                        (congrArg (fun called => called.2.2.1) hline).symm
                      cases result with
                      | error e =>
                          rw [feed_of_complete_of_error hconsume hline] at h
                          cases h
                      | ok _ =>
                          rw [feed_of_complete_of_ok hconsume hline] at h
                          rw [ih h, hnoted, hbyte.2 rfl, List.count_cons_self, List.length_append,
                            List.length_singleton]
                          omega

end

/-! ## whole streams -/

/-- **Cutting does not matter, and lines are handled before anything else.**
However a stream is delivered, in pieces that are not empty and with reads of
any positive size, its end is the same and so are the calls of the handler: one
is made for each line feed, when the bytes up to it have been taken in and
nothing behind it.  When a read is made, all that earlier reads got has been
taken in without a fault, with a call for each of its line feeds.  The reads get
one piece after the other and, if there is no fault, at last nothing. -/
theorem pump_of_flatten_eq (onLine : LineHandler σ) (input : List UInt8) (s : Intake) (a : σ) :
    ∃ result t b calls,
      (∀ k call, calls[k]? = some call ↔ Due onLine input s a k call) ∧
      ∀ (chunks : List (List UInt8)) (size : Int), (∀ chunk ∈ chunks, chunk ≠ []) →
        chunks.flatten = input → 0 < size →
        ∃ trace,
          watch onLine (reads size (chunks.map .bytes)) s a = ⟨result, t, (trace, b)⟩ ∧
          pump onLine size (chunks.map .bytes) s a = (Trace.readCount trace, ⟨result, t, b⟩) ∧
          Trace.calls trace = calls ∧
          (∀ before got after, trace = before ++ .read got :: after →
            ∃ u c, feed onLine (Trace.bytes before) s a = ⟨.ok (), u, c⟩ ∧
              (Trace.calls before).length = (Trace.bytes before).count Wire.lineFeed) ∧
          Trace.reads trace <+: (reads size (chunks.map .bytes)).map some ++ [none] ∧
          (result = .ok () →
            Trace.reads trace = (reads size (chunks.map .bytes)).map some ++ [none]) := by
  cases hfeed : feed onLine.calling input s ([], a) with
  | mk result t noted =>
      obtain ⟨calls, b⟩ := noted
      refine ⟨result, t, b, calls, fun k call => ?_, fun chunks size hchunks hinput hsize => ?_⟩
      · rw [← getElem?_calls_iff, hfeed]
      · have hreads := reads_bytes hsize hchunks
        have hcalls := watch_map_calls onLine s a (chunks.flatMap (stretches (size.toNat - 1)))
        rw [flatten_flatMap_stretches, hinput, hfeed, ← hreads] at hcalls
        have hpump := pump_eq_watch onLine s a size (chunks.map .bytes)
        obtain ⟨hfront, hall⟩ := reads_watch onLine s a
          (chunks.flatMap (stretches (size.toNat - 1)))
        rw [← List.map_map, ← hreads] at hfront hall
        cases hwatch : watch onLine (reads size (chunks.map .bytes)) s a with
        | mk result' t' noted' =>
            obtain ⟨trace, b'⟩ := noted'
            rw [hwatch] at hcalls hpump hfront hall
            cases hcalls
            refine ⟨trace, rfl, hpump, rfl, fun before got after htrace => ?_, hfront, hall⟩
            obtain ⟨u, c, hbefore⟩ := feed_of_watch_eq
              ((congrArg (fun p => p.state.1) hwatch).trans htrace)
            refine ⟨u, c, ?_, ?_⟩
            · rw [feed_of_calling onLine s a _ [], hbefore]
              rfl
            · rw [length_calls_of_ok onLine hbefore, List.length_nil, Nat.zero_add]

/-- A stream of three lines, byte by byte and in two pieces, with a handler that
empties the batches and gives up at the second line. -/
theorem pump_byte_by_byte :
    let onLine : LineHandler Nat := fun _ store count =>
      if count = 1 then (.error .dateOutOfRange, store, count) else (.ok (), store.clearAll, count + 1)
    (pump onLine 1 [.bytes [0x31, 0x2C, 0x61, 0x0A, 0x62, 0x2C, 0x0A, 0x0A]] (.new 10) 0).2 =
      (pump onLine 8192 [.bytes [0x31, 0x2C, 0x61], .bytes [0x0A, 0x62, 0x2C, 0x0A, 0x0A]]
        (.new 10) 0).2 := by
  intro onLine
  obtain ⟨result, t, b, calls, -, hdelivered⟩ := pump_of_flatten_eq onLine
    [0x31, 0x2C, 0x61, 0x0A, 0x62, 0x2C, 0x0A, 0x0A] (.new 10) 0
  obtain ⟨_, _, hone, _⟩ := hdelivered [[0x31, 0x2C, 0x61, 0x0A, 0x62, 0x2C, 0x0A, 0x0A]] 1
    (by decide) (by decide) (by decide)
  obtain ⟨_, _, htwo, _⟩ := hdelivered [[0x31, 0x2C, 0x61], [0x0A, 0x62, 0x2C, 0x0A, 0x0A]] 8192
    (by decide) (by decide) (by decide)
  exact (congrArg Prod.snd hone).trans (congrArg Prod.snd htwo).symm

end BatchMailer
