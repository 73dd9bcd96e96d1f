import BatchMailer.Proofs.Stream.Notes

/-!
# BatchMailer.Proofs.Stream.Trace

In which order a stream is read and its lines are handled.

`watch` takes a stream in and writes down each read and each call of the handler,
with what the handler is shown.  Two facts about one more piece carry everything
here (`watch_bytes_of_ok`, `watch_bytes_of_error`): what a piece adds to a trace
is its read, the calls for its lines, and, if there was no fault, the trace of
the rest.

What the calls are is said of the stream alone (`getElem?_calls_iff`), so it is
the same for each way of cutting the stream (`watch_map_calls`).
-/

namespace BatchMailer

variable {σ : Type}

/-- What a handler is shown. -/
abbrev Call : Type := Decoder × Store

/-- What happens while a stream is taken in. -/
inductive Event where
  | read (got : Option Piece)
  | line (call : Call)
  deriving DecidableEq

namespace Event

/-- The bytes that a read got. -/
def bytes : Event → List UInt8
  | read (some (.bytes content)) => content
  | _ => []

/-- What a read got. -/
def read? : Event → Option (Option Piece)
  | read got => some got
  | line _ => none

/-- What a call was shown. -/
def call? : Event → Option Call
  | read _ => none
  | line call => some call

end Event

namespace Trace

/-- The bytes that the reads of a trace got. -/
def bytes (trace : List Event) : List UInt8 := trace.flatMap Event.bytes

/-- What the reads of a trace got, one by one. -/
def reads (trace : List Event) : List (Option Piece) := trace.filterMap Event.read?

/-- How many reads a trace has. -/
def readCount (trace : List Event) : Nat := (reads trace).length

/-- The calls of a trace. -/
def calls (trace : List Event) : List Call := trace.filterMap Event.call?

end Trace

/-- Writes down the calls of a handler. -/
def LineHandler.calling (onLine : LineHandler σ) : LineHandler (List Call × σ) :=
  onLine.noting fun d store calls => calls ++ [(d, store)]

/-- Writes down the calls of a handler among other events. -/
def LineHandler.watched (onLine : LineHandler σ) : LineHandler (List Event × σ) :=
  onLine.noting fun d store events => events ++ [.line (d, store)]

/-- Writes down a read. -/
def noteRead (got : Option Piece) (noted : List Event × σ) : List Event × σ :=
  (noted.1 ++ [.read got], noted.2)

/-- Takes in what reads get, and writes down all that happens. -/
def watch (onLine : LineHandler σ) (pieces : List Piece) (s : Intake) (a : σ) :
    Progress (List Event × σ) :=
  pumpReads noteRead onLine.watched pieces s ([], a)

/-! ## notes of calls -/

section

variable (onLine : LineHandler σ) (s : Intake) (a : σ)

/-- Calls written down behind others. -/
theorem feed_calling_append (chunk : List UInt8) (calls : List Call) :
    feed onLine.calling chunk s (calls, a) =
      (feed onLine.calling chunk s ([], a)).map (Prod.map (calls ++ ·) id) := by
  have halike : onLine.calling.Alike (Prod.map (calls ++ ·) id) onLine.calling :=
    onLine.alike_noting fun d store kept => List.append_assoc calls kept [(d, store)]
  rw [← feed_map halike, Prod.map, List.append_nil]
  rfl

/-- Calls written down among other events. -/
theorem feed_watched (chunk : List UInt8) (events : List Event) :
    feed onLine.watched chunk s (events, a) =
      (feed onLine.calling chunk s ([], a)).map
        (Prod.map (fun calls => events ++ calls.map .line) id) := by
  have halike : onLine.calling.Alike (Prod.map (fun calls => events ++ calls.map .line) id)
      onLine.watched :=
    onLine.alike_noting fun d store kept => by
      rw [List.map_append, List.map_singleton, List.append_assoc]
  rw [← feed_map halike, Prod.map, List.map_nil, List.append_nil]
  rfl

/-- Without the notes, nothing has changed. -/
theorem feed_of_calling (chunk : List UInt8) (calls : List Call) :
    feed onLine chunk s a = (feed onLine.calling chunk s (calls, a)).map Prod.snd :=
  feed_map (onLine.alike_of_noting _) chunk s (calls, a)

/-- Events written down behind others. -/
theorem pumpReads_watched (pieces : List Piece) (events : List Event) :
    pumpReads noteRead onLine.watched pieces s (events, a) =
      (watch onLine pieces s a).map (Prod.map (events ++ ·) id) := by
  have halike : onLine.watched.Alike (Prod.map (events ++ ·) id) onLine.watched :=
    onLine.alike_noting fun d store kept => List.append_assoc events kept [.line (d, store)]
  have hread : ∀ got (x : List Event × σ), noteRead got (Prod.map (events ++ ·) id x) =
      Prod.map (events ++ ·) id (noteRead got x) :=
    fun got x => Prod.ext (List.append_assoc events x.1 [.read got]) rfl
  rw [watch, ← pumpReads_map halike hread, Prod.map, List.append_nil]
  rfl

end

/-! ## one more piece -/

section

variable {onLine : LineHandler σ} {s t : Intake} {a b : σ} {chunk : List UInt8} {calls : List Call}

theorem watch_bytes_of_ok (rest : List Piece)
    (h : feed onLine.calling chunk s ([], a) = ⟨.ok (), t, (calls, b)⟩) :
    watch onLine (.bytes chunk :: rest) s a = (watch onLine rest t b).map
      (Prod.map (.read (some (.bytes chunk)) :: calls.map .line ++ ·) id) := by
  rw [watch, pumpReads, noteRead, feed_watched, h]
  exact pumpReads_watched onLine t b rest _

theorem watch_bytes_of_error (rest : List Piece) {e : Fault}
    (h : feed onLine.calling chunk s ([], a) = ⟨.error e, t, (calls, b)⟩) :
    watch onLine (.bytes chunk :: rest) s a =
      ⟨.error e, t, (.read (some (.bytes chunk)) :: calls.map .line, b)⟩ := by
  rw [watch, pumpReads, noteRead, feed_watched, h]
  rfl

/-- The calls for one piece and for what comes behind it. -/
theorem feed_calling_of_ok (back : List UInt8)
    (h : feed onLine.calling chunk s ([], a) = ⟨.ok (), t, (calls, b)⟩) :
    feed onLine.calling (chunk ++ back) s ([], a) =
      (feed onLine.calling back t ([], b)).map (Prod.map (calls ++ ·) id) := by
  rw [feed_append, h, ← feed_calling_append]
  rfl

end

/-! ## traces -/

namespace Trace

variable (calls : List Call) (trace back : List Event)

theorem calls_append : Trace.calls (trace ++ back) = Trace.calls trace ++ Trace.calls back :=
  List.filterMap_append

theorem reads_append : Trace.reads (trace ++ back) = Trace.reads trace ++ Trace.reads back :=
  List.filterMap_append

theorem bytes_append : Trace.bytes (trace ++ back) = Trace.bytes trace ++ Trace.bytes back :=
  List.flatMap_append

theorem calls_lines : Trace.calls (calls.map .line) = calls := by
  rw [Trace.calls, List.filterMap_map]
  exact List.filterMap_some

theorem reads_lines : Trace.reads (calls.map .line) = [] := by
  rw [Trace.reads, List.filterMap_map]
  exact List.filterMap_eq_nil_iff.2 fun _ _ => rfl

theorem bytes_lines : Trace.bytes (calls.map .line) = [] := by
  rw [Trace.bytes, List.flatMap_map]
  exact List.flatMap_eq_nil_iff.2 fun _ _ => rfl

/-- What the piece in front of a trace adds to it. -/
theorem reads_piece (chunk : List UInt8) :
    Trace.reads (.read (some (.bytes chunk)) :: calls.map .line ++ trace) =
      some (.bytes chunk) :: Trace.reads trace := by
  have hchunk : Trace.reads (.read (some (.bytes chunk)) :: calls.map .line) =
      some (.bytes chunk) :: Trace.reads (calls.map .line) := rfl
  rw [reads_append, hchunk, reads_lines]
  rfl

theorem calls_piece (chunk : List UInt8) :
    Trace.calls (.read (some (.bytes chunk)) :: calls.map .line ++ trace) =
      calls ++ Trace.calls trace := by
  rw [calls_append]
  exact congrArg (· ++ Trace.calls trace) (calls_lines calls)

theorem bytes_piece (chunk : List UInt8) :
    Trace.bytes (.read (some (.bytes chunk)) :: calls.map .line ++ trace) =
      chunk ++ Trace.bytes trace := by
  have hchunk : Trace.bytes (.read (some (.bytes chunk)) :: calls.map .line) =
      chunk ++ Trace.bytes (calls.map .line) := List.flatMap_cons
  rw [bytes_append, hchunk, bytes_lines, List.append_nil]

variable {trace}

/-- What stands behind some calls in a trace, if it begins with a read. -/
theorem exists_of_lines_append {before after : List Event} {got : Option Piece}
    (h : calls.map .line ++ trace = before ++ .read got :: after) :
    ∃ behind, before = calls.map .line ++ behind ∧ trace = behind ++ .read got :: after := by
  obtain ⟨behind, hbefore, htrace⟩ | ⟨behind, hlines, hread⟩ := List.append_eq_append_iff.1 h
  · exact ⟨behind, hbefore, htrace⟩
  · cases behind with
    | nil =>
        rw [List.append_nil] at hlines
        exact ⟨[], by rw [hlines, List.append_nil], hread.symm⟩
    | cons event more =>
        have hevent : event ∈ calls.map Event.line := by
          rw [hlines]
          exact List.mem_append_right before List.mem_cons_self
        obtain ⟨call, -, hcall⟩ := List.mem_map.1 hevent
        rw [← hcall] at hread
        cases hread

end Trace

/-! ## what a trace says -/

section

variable (onLine : LineHandler σ) (s : Intake) (a : σ)

/-- The number of reads and the outcome are as they would be unwatched. -/
theorem pump_eq_watch (size : Int) (pieces : List Piece) :
    pump onLine size pieces s a =
      let p := watch onLine (reads size pieces) s a
      (Trace.readCount p.state.1, ⟨p.result, p.intake, p.state.2⟩) := by
  have halike : onLine.watched.Alike (Prod.map Trace.readCount id)
      (onLine.noting fun _ _ count => count) :=
    onLine.alike_noting fun d store kept => by
      rw [Trace.readCount, Trace.readCount, Trace.reads_append]
      exact (congrArg List.length (List.append_nil _)).symm
  have hread : ∀ got (x : List Event × σ), (Trace.readCount x.1 + 1, x.2) =
      Prod.map Trace.readCount id (noteRead got x) := by
    intro got x
    rw [noteRead, Prod.map, Trace.readCount, Trace.readCount, Trace.reads_append, List.length_append]
    rfl
  exact congrArg (fun p : Progress (Nat × σ) => (p.state.1, Progress.mk p.result p.intake p.state.2))
    (pumpReads_map halike hread (reads size pieces) s ([], a))

/-- The calls and the outcome are those of the bytes, taken in at once. -/
theorem watch_map_calls (chunks : List (List UInt8)) :
    (watch onLine (chunks.map .bytes) s a).map (Prod.map Trace.calls id) =
      feed onLine.calling chunks.flatten s ([], a) := by
  have halike : onLine.watched.Alike (Prod.map Trace.calls id) onLine.calling :=
    onLine.alike_noting fun d store kept => (Trace.calls_append kept [.line (d, store)]).symm
  rw [← pumpReads_bytes, watch]
  refine (pumpReads_map halike (fun got x => ?_) (chunks.map .bytes) s ([], a)).symm
  rw [noteRead, Prod.map, Prod.map, Trace.calls_append]
  exact Prod.ext (List.append_nil _).symm rfl

variable {onLine s a}

/-- When a read is made, all that was read before has been taken in without a
fault, and the calls for its lines have been made. -/
theorem feed_of_watch_eq {pieces : List Piece} {before after : List Event} {got : Option Piece}
    (h : (watch onLine pieces s a).state.1 = before ++ .read got :: after) :
    ∃ t b, feed onLine.calling (Trace.bytes before) s ([], a) =
      ⟨.ok (), t, (Trace.calls before, b)⟩ := by
  induction pieces generalizing s a before with
  | nil =>
      cases before with
      | nil => exact ⟨s, a, rfl⟩
      | cons event more => cases more <;> cases h
  | cons piece rest ih =>
      cases before with
      | nil => exact ⟨s, a, rfl⟩
      | cons event before =>
          cases piece with
          | failure e => cases before <;> cases h
          | bytes chunk =>
              cases hfeed : feed onLine.calling chunk s ([], a) with
              | mk result t noted =>
                  obtain ⟨calls, b⟩ := noted
                  cases result with
                  | error e =>
                      rw [watch_bytes_of_error rest hfeed, List.cons_append] at h
                      obtain ⟨-, hlines⟩ := List.cons.inj h
                      rw [← List.append_nil (calls.map _)] at hlines
                      obtain ⟨behind, -, hnil⟩ := Trace.exists_of_lines_append calls hlines
                      exact absurd hnil.symm (List.append_ne_nil_of_right_ne_nil _ (List.cons_ne_nil _ _))
                  | ok _ =>
                      rw [watch_bytes_of_ok rest hfeed] at h
                      obtain ⟨rfl, hlines⟩ := List.cons.inj h
                      obtain ⟨behind, rfl, hrest⟩ := Trace.exists_of_lines_append calls hlines
                      obtain ⟨u, c, hbehind⟩ := ih hrest
                      refine ⟨u, c, ?_⟩
                      rw [← List.cons_append, Trace.bytes_piece, Trace.calls_piece,
                        feed_calling_of_ok _ hfeed, hbehind]
                      rfl

/-- Each read gets the next piece; if there was no fault before, the last read of
all gets nothing. -/
theorem reads_watch (onLine : LineHandler σ) (s : Intake) (a : σ) (chunks : List (List UInt8)) :
    Trace.reads (watch onLine (chunks.map .bytes) s a).state.1 <+:
        chunks.map (some ∘ .bytes) ++ [none] ∧
      ((watch onLine (chunks.map .bytes) s a).result = .ok () →
        Trace.reads (watch onLine (chunks.map .bytes) s a).state.1 =
          chunks.map (some ∘ .bytes) ++ [none]) := by
  induction chunks generalizing s a with
  | nil => exact ⟨List.prefix_rfl, fun _ => rfl⟩
  | cons chunk rest ih =>
      rw [List.map_cons, List.map_cons, List.cons_append, Function.comp]
      cases hfeed : feed onLine.calling chunk s ([], a) with
      | mk result t noted =>
          obtain ⟨calls, b⟩ := noted
          cases result with
          | error e =>
              have hreads := Trace.reads_piece calls [] chunk
              rw [List.append_nil] at hreads
              rw [watch_bytes_of_error _ hfeed]
              simp only [hreads]
              exact ⟨List.cons_prefix_cons.2 ⟨rfl, List.nil_prefix⟩, fun h => nomatch h⟩
          | ok _ =>
              obtain ⟨hfront, heq⟩ := ih t b
              rw [watch_bytes_of_ok _ hfeed]
              simp only [Progress.map, Prod.map, Trace.reads_piece]
              refine ⟨List.cons_prefix_cons.2 ⟨rfl, hfront⟩, fun h => ?_⟩
              rw [heq h]

end

end BatchMailer
