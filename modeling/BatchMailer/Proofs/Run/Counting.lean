import BatchMailer.Proofs.Run.Dispatch
import BatchMailer.Proofs.Session.Invariant
import BatchMailer.Proofs.Stream.Lockstep

/-!
# BatchMailer.Proofs.Run.Counting

A counting run beside a sending run.

At the end of a line a tally empties the batches just as a flush does.  So over
the same stream both runs keep in step (`flushing_inStep_tallying`): for each
request that one sends the other prints a line.  Neither raises a fault at the
end of a line, so they also stop for the same reason (`Stop`), each in its own
words.
-/

namespace BatchMailer

/-! ## tallies of requests -/

namespace Tally

/-- The lines that a tally has for requests: one for each, closed. -/
def textOf (requests : List Request) : String :=
  String.join (requests.map fun q => line q.kind q.destinations.length ++ "\n")

theorem textOf_append (front back : List Request) :
    textOf (front ++ back) = textOf front ++ textOf back := by
  rw [textOf, List.map_append, String.join_append, textOf, textOf]

theorem map_line_filter (s : Store) (kinds : List Kind) :
    ((kinds.map fun kind => (kind, (s.batch kind).size)).filter fun (_, count) => count != 0).map
        (fun (kind, count) => line kind count) =
      ((Lot.ofKinds kinds s.pending).map Lot.request).map
        fun q => line q.kind q.destinations.length := by
  induction kinds with
  | nil => rfl
  | cons kind rest ih =>
      rw [Lot.ofKinds, List.flatMap_cons, ← Lot.ofKinds, Lot.ofKind, List.map_cons, List.filter_cons]
      by_cases hempty : s.pending kind = []
      · have hsize : (s.batch kind).size = 0 := List.length_eq_zero_iff.2 hempty
        simp [hsize, hempty, ih]
      · have hsize : (s.batch kind).size ≠ 0 := fun h => hempty (List.length_eq_zero_iff.1 h)
        have hlength : (s.pending kind).length = (s.batch kind).size := rfl
        simp [hsize, hempty, ih, Lot.request, Request.ofRecords, hlength]

/-- A tally has a line for each request that a flush would make. -/
theorem text_eq_textOf (s : Store) :
    text s = textOf ((Lot.ofKinds Kind.all s.pending).map Lot.request) := by
  have hlines := map_line_filter s Kind.all
  rw [text, lines, counts, Store.counts, hlines, textOf, List.map_map]
  rfl

end Tally

/-! ## what ends an intake -/

theorem WireError.cause_of_not_internal {e : WireError} (h : ¬ e.Internal) :
    e.cause = .malformedInput := by
  cases e with
  | fieldCount count => exact absurd trivial h
  | wrongBatch record batch => exact absurd trivial h
  | _ => rfl

theorem mem_of_failure_mem_reads {size : Int} {pieces : List Piece} {f : Failure}
    (h : .failure f ∈ reads size pieces) : .failure f ∈ pieces := by
  fun_induction reads size pieces with
  | case1 => exact h
  | case2 g rest =>
      rw [List.mem_singleton.1 h]
      exact List.mem_cons_self
  | case3 content rest hcut => contradiction
  | case4 content rest first more hcut ih =>
      obtain hbytes | hrest := List.mem_append.1 h
      · obtain ⟨chunk, -, hchunk⟩ := List.mem_map.1 hbytes
        contradiction
      · exact List.mem_cons_of_mem _ (ih hrest)

section

variable {σ : Type} {onLine : LineHandler σ} (hquiet : ∀ d store a, (onLine d store a).1 = .ok ())
include hquiet

/-- If the handler raises no fault, only a byte can. -/
theorem exists_wire_of_feed {chunk : List UInt8} {s : Intake} {a : σ} {f : Fault}
    (h : (feed onLine chunk s a).result = .error f) : ∃ e, f = .wire e := by
  induction chunk generalizing s a with
  | nil => contradiction
  | cons byte rest ih =>
      rw [feed] at h
      split at h
      · next e t _ => exact ⟨e, (Except.error.inj h).symm⟩
      · exact ih h
      · next t _ =>
          have hline := hquiet t.decoder t.store a
          split at h
          · next heq =>
              rw [heq] at hline
              contradiction
          · exact ih h

/-- Reads of a stream end in malformed input or in a failure of the stream. -/
theorem cause_of_pumpReads (hworks : onLine.Works) {onRead : Option Piece → σ → σ}
    {pieces : List Piece} {capacity : Int} {s : Intake} (hs : s.Tracked capacity) {a : σ} {f : Fault}
    (h : (pumpReads onRead onLine pieces s a).result = .error f) :
    f.cause = .malformedInput ∨ ∃ g, f = .outside g ∧ .failure g ∈ pieces := by
  induction pieces generalizing s a with
  | nil => contradiction
  | cons piece rest ih =>
      cases piece with
      | failure g => exact .inr ⟨g, (Except.error.inj h).symm, List.mem_cons_self⟩
      | bytes content =>
          have htracked := hs.feed hworks content (onRead (some (.bytes content)) a)
          rw [pumpReads] at h
          cases hfeed : feed onLine content s (onRead (some (.bytes content)) a) with
          | mk result t b =>
              rw [hfeed] at h htracked
              cases result with
              | error g =>
                  obtain rfl : g = f := Except.error.inj h
                  have hresult : (feed onLine content s (onRead (some (.bytes content)) a)).result =
                      .error g := by rw [hfeed]
                  obtain ⟨e, rfl⟩ := exists_wire_of_feed hquiet hresult
                  refine .inl (WireError.cause_of_not_internal ?_)
                  refine hs.not_internal_of_feed hworks (fun d store c e he => ?_) content _ hresult
                  rw [hquiet d store c] at he
                  contradiction
              | ok _ =>
                  obtain hmalformed | ⟨g, hg, hmem⟩ := ih htracked h
                  · exact .inl hmalformed
                  · exact .inr ⟨g, hg, List.mem_cons_of_mem _ hmem⟩

end

namespace Run

variable {σ : Type}

/-! ## why a run stops -/

/-- Why a run stops: its stream is at its end, or has brought bytes that are
refused, or cannot be read.  In trouble there is something to be said about it. -/
inductive Stop where
  | endOfInput
  | malformed (text : RawText)
  | unreadable (text : RawText)
  deriving DecidableEq, Repr

namespace Stop

/-- The reason for a run to stop when its stream was taken in, unless it was
interrupted or does not handle the fault. -/
def ofResult? : Except Fault Unit → Option Stop
  | .ok () => some .endOfInput
  | .error f =>
    match f.cause with
    | .malformedInput => some (.malformed f.message)
    | .inputOutput => some (.unreadable f.message)
    | .interrupt | .other => none

/-- How a sending run puts it. -/
def sendingMessage : Stop → RawText
  | endOfInput => "ERROR: end of input stream"
  | malformed text => "ERROR: failed to parse input: " ++ text
  | unreadable text => "ERROR: failed to read from stdin: " ++ text

/-- How a counting run puts it; it has nothing to say at the end of a stream. -/
def countingEntries : Stop → List Log.Entry
  | endOfInput => []
  | malformed text => [⟨.error, some ("Failed to parse input: " ++ text)⟩]
  | unreadable text => [⟨.error, some ("Failed to read from stdin: " ++ text)⟩]

/-- The exit status of a counting run. -/
def countingStatus : Stop → Nat
  | endOfInput => 0
  | malformed _ | unreadable _ => 1

theorem countingStatus_eq_zero_iff (stop : Stop) :
    stop.countingStatus = 0 ↔ stop = .endOfInput := by
  cases stop <;> simp [countingStatus]

theorem countingStatus_eq_one_iff (stop : Stop) :
    stop.countingStatus = 1 ↔ ∃ text, stop = .malformed text ∨ stop = .unreadable text := by
  cases stop <;> simp [countingStatus]

theorem sendingMessage_inj {a b : Stop} (h : a.sendingMessage = b.sendingMessage) : a = b := by
  -- the wordings part ways before anything is said about the trouble
  have hparse : ∀ text text' : RawText, ("ERROR: failed to parse input: " ++ text : RawText) ≠
      "ERROR: failed to read from stdin: " ++ text' := by
    intro text text' heq
    simp [RawText.ofString, RawText.ofChars] at heq
  have hend : ∀ text : RawText,
      ("ERROR: failed to parse input: " ++ text : RawText) ≠ "ERROR: end of input stream" ∧
        ("ERROR: failed to read from stdin: " ++ text : RawText) ≠
          "ERROR: end of input stream" := by
    intro text
    constructor
    · intro heq
      simp [RawText.ofString, RawText.ofChars] at heq
    · intro heq
      simp [RawText.ofString, RawText.ofChars] at heq
  cases a with
  | endOfInput =>
      cases b with
      | endOfInput => rfl
      | malformed text => exact absurd h.symm (hend text).1
      | unreadable text => exact absurd h.symm (hend text).2
  | malformed text =>
      cases b with
      | endOfInput => exact absurd h (hend text).1
      | malformed text' => rw [List.append_cancel_left h]
      | unreadable text' => exact absurd h (hparse text text')
  | unreadable text =>
      cases b with
      | endOfInput => exact absurd h (hend text).2
      | malformed text' => exact absurd h.symm (hparse text' text)
      | unreadable text' => rw [List.append_cancel_left h]

end Stop

theorem finish_of_stop {result : Except Fault Unit} {stop : Stop}
    (h : Stop.ofResult? result = some stop) (host : Host) :
    finish result host = (.exit 1, host.error stop.sendingMessage) := by
  cases result with
  | ok _ =>
      obtain rfl := Option.some.inj h
      rfl
  | error f =>
      cases hcause : f.cause with
      | malformedInput =>
          simp only [Stop.ofResult?, hcause, Option.some.injEq] at h
          subst h
          simp only [finish, hcause]
          rfl
      | inputOutput =>
          simp only [Stop.ofResult?, hcause, Option.some.injEq] at h
          subst h
          simp only [finish, hcause]
          rfl
      | interrupt => simp [Stop.ofResult?, hcause] at h
      | other => simp [Stop.ofResult?, hcause] at h

theorem finishCount_of_stop {result : Except Fault Unit} {stop : Stop}
    (h : Stop.ofResult? result = some stop) (host : Host) :
    finishCount result host =
      (.exit stop.countingStatus, { host with log := host.log ++ stop.countingEntries }) := by
  cases result with
  | ok _ =>
      obtain rfl := Option.some.inj h
      simp only [finishCount, Stop.countingStatus, Stop.countingEntries, List.append_nil]
  | error f =>
      cases hcause : f.cause with
      | malformedInput =>
          simp only [Stop.ofResult?, hcause, Option.some.injEq] at h
          subst h
          simp only [finishCount, hcause]
          rfl
      | inputOutput =>
          simp only [Stop.ofResult?, hcause, Option.some.injEq] at h
          subst h
          simp only [finishCount, hcause]
          rfl
      | interrupt => simp [Stop.ofResult?, hcause] at h
      | other => simp [Stop.ofResult?, hcause] at h

/-- A sending run that ended in failure for a given reason. -/
def Report.StoppedBy (report : Report σ) (stop : Stop) : Prop :=
  report.ending = .exit 1 ∧ report.host.log.getLast? = some ⟨.error, some stop.sendingMessage⟩

/-- A run stops for one reason. -/
theorem Report.StoppedBy.iff {report : Report σ} {stop : Stop} (h : report.StoppedBy stop)
    (other : Stop) : report.StoppedBy other ↔ stop = other := by
  constructor
  · intro hother
    have hentry := h.2.symm.trans hother.2
    exact Stop.sendingMessage_inj
      (Option.some.inj (Log.Entry.mk.inj (Option.some.inj hentry)).2)
  · rintro rfl
    exact h

/-! ## runs side by side -/

/-- Where a counting run stands beside a sending run: it has printed a line for
each request that was sent, and has logged nothing. -/
structure Beside (start : Host) (sendState : SendState (σ × List Request)) (host : Host) : Prop where
  utc : sendState.host.InUtc
  printed : host.printed = start.printed ++ Tally.textOf sendState.sender.2
  log : host.log = start.log

/-- A flush and a tally do the same to the batches. -/
theorem flushing_inStep_tallying {send : Sender σ} (hsend : send.Answers) {dir : RawText}
    (hdir : dir.IsPath) (start : Host) :
    (flushing send.recording dir).InStep (Beside start) tallying := by
  rintro d store ⟨⟨a, sent⟩, h⟩ host ⟨hutc, hprinted, hlog⟩
  obtain ⟨ds, b, after, hflush, hafter⟩ := Flush.flushKinds_recording hsend hdir
    (show Kind.all.Nodup by decide) store a sent hutc
  refine ⟨.ok (), store.clearAll,
    ⟨(b, sent ++ (Lot.ofKinds Kind.all store.pending).map Lot.request), after⟩,
    host.print (Tally.text store), ?_, rfl, hafter, ?_, hlog⟩
  · rw [flushing, Flush.flush, hflush]
    rfl
  · rw [Host.printed_print, hprinted, Tally.text_eq_textOf, Tally.textOf_append,
      String.append_assoc]

theorem works_tallying : tallying.Works := fun _ _ _ => .report .nothing

/-- A counting run has a reason to stop, if only the stream can fail it. -/
theorem exists_stop_of_pump {pieces : List Piece}
    (hread : ∀ f, .failure f ∈ pieces → f.cause = .inputOutput) (size : Int) (host : Host) :
    ∃ stop, Stop.ofResult? (pump tallying size pieces (.new Store.defaultCapacity) host).2.result =
      some stop := by
  cases hresult : (pump tallying size pieces (.new Store.defaultCapacity) host).2.result with
  | ok _ => exact ⟨.endOfInput, rfl⟩
  | error f =>
      have htracked : (Intake.new Store.defaultCapacity).Tracked Store.defaultCapacity :=
        Intake.Reached.new.tracked
      rw [Stop.ofResult?]
      obtain hcause | ⟨g, rfl, hg⟩ := cause_of_pumpReads (fun _ _ _ => rfl)
        (Session.works_beside works_tallying) htracked hresult
      · rw [hcause]
        exact ⟨_, rfl⟩
      · have hcause : (Fault.outside g).cause = .inputOutput := hread g (mem_of_failure_mem_reads hg)
        rw [hcause]
        exact ⟨_, rfl⟩

end Run

end BatchMailer
