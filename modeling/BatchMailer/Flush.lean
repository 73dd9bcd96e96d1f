import BatchMailer.Capture
import BatchMailer.Sender
import BatchMailer.Store

/-!
# BatchMailer.Flush

What is done with full batches at the end of a line.

A flush sends every batch that is not empty, activation first, in one bulk send
each, and settles the report.  A batch is emptied before its sender runs, so
nothing is ever sent twice; a sender that gives up is reported as an unexpected
error, unless it was interrupted: an interrupt ends the flush at once.

A tally only counts: it prints how many records each batch holds and empties it.
-/

namespace BatchMailer

/-- One bulk send and what became of it. -/
structure Dispatch where
  kind : Kind
  destinations : Nat
  outcome : Outcome
  diagnosticPath : Option RawText
  deriving Repr

/-- A sender's state together with the host it works on. -/
structure SendState (σ : Type) where
  sender : σ
  host : Host

namespace Flush

variable {σ : Type}

/-- The report of a sender that gave up. -/
def gaveUp (f : Failure) : Outcome := .failed .unexpected f.described

/-- Sends a request and settles the report. -/
def dispatch (send : Sender σ) (outputDir : RawText) (request : Request) (o : SendState σ) :
    Except Fault Dispatch × SendState σ :=
  let (startedAt, host) := o.host.readSteady
  let answer := send o.sender request
  let host := host.print answer.printed
  let settle (outcome : Outcome) : Except Fault Dispatch × SendState σ :=
    let (path, host) := Capture.settle request.kind outcome outputDir (some startedAt) host
    (path.map fun diagnosticPath =>
      { kind := request.kind, destinations := request.destinations.length, outcome,
        diagnosticPath },
     { sender := answer.state, host })
  match answer.result with
  | .ok outcome => settle outcome
  | .error f =>
    if f.isInterrupt then (.error (.outside f), { sender := answer.state, host })
    else settle (gaveUp f)

/-- Flushes the batches of the given kinds, in order, up to the first fault.  The sender
may look at the store, as it is when the sender runs. -/
def flushKindsSeen (send : Store → Sender σ) (outputDir : RawText) :
    List Kind → Store → SendState σ → Except Fault (List Dispatch) × Store × SendState σ
  | [], s, o => (.ok [], s, o)
  | kind :: rest, s, o =>
    match s.drain kind with
    | ([], s) => flushKindsSeen send outputDir rest s o
    | (record :: more, s) =>
      match dispatch (send s) outputDir (.ofRecords kind (record :: more)) o with
      | (.error f, o) => (.error f, s, o)
      | (.ok d, o) =>
        let (result, s, o) := flushKindsSeen send outputDir rest s o
        (result.map (d :: ·), s, o)

/-- Flushes the batches of the given kinds with a sender that does not look at the store. -/
def flushKinds (send : Sender σ) (outputDir : RawText) :
    List Kind → Store → SendState σ → Except Fault (List Dispatch) × Store × SendState σ :=
  flushKindsSeen (fun _ => send) outputDir

@[simp] theorem flushKinds_nil (send : Sender σ) (outputDir : RawText) (s : Store) (o : SendState σ) :
    flushKinds send outputDir [] s o = (.ok [], s, o) := rfl

theorem flushKinds_cons (send : Sender σ) (outputDir : RawText) (kind : Kind) (rest : List Kind)
    (s : Store) (o : SendState σ) :
    flushKinds send outputDir (kind :: rest) s o =
      match s.drain kind with
      | ([], s) => flushKinds send outputDir rest s o
      | (record :: more, s) =>
        match dispatch send outputDir (.ofRecords kind (record :: more)) o with
        | (.error f, o) => (.error f, s, o)
        | (.ok d, o) =>
          let (result, s, o) := flushKinds send outputDir rest s o
          (result.map (d :: ·), s, o) := rfl

/-- Flushes both batches. -/
def flush (send : Sender σ) (outputDir : RawText) (s : Store) (o : SendState σ) :
    Except Fault (List Dispatch) × Store × SendState σ :=
  flushKinds send outputDir Kind.all s o

end Flush

namespace Tally

/-- The line a count is reported by. -/
def line (kind : Kind) (count : Nat) : String :=
  "Batch " ++ toString (kind.index + 1) ++ " has " ++ toString count ++ " items."

/-- The batches that are not empty and how many records each holds. -/
def counts (s : Store) : List (Kind × Nat) := s.counts.filter fun (_, count) => count != 0

/-- The lines of a report. -/
def lines (s : Store) : List String := (counts s).map fun (kind, count) => line kind count

/-- The lines of a report, each closed. -/
def text (s : Store) : String := String.join ((lines s).map (· ++ "\n"))

/-- A store with nothing in it has nothing to report. -/
@[simp] theorem lines_clearAll (s : Store) : lines s.clearAll = [] := by
  simp [lines, counts, Store.counts, Kind.all, Store.clearAll, Store.clear, Batch.clear, Batch.size]

end Tally

end BatchMailer
