import BatchMailer.Flush
import BatchMailer.Stream

/-!
# BatchMailer.Session

A decoder and its store, worked step by step.  A step is one operation on them,
in any order and any number; it gives a result or a fault, and the next step
goes on from where it ended, after a fault too.
-/

namespace BatchMailer.Session

/-- What answers the bulk sends of one step. -/
abbrev Script : Type := List (Except Failure Outcome)

/-- Where bulk sends of a step go: who answers them, and where diagnostic files
are written. -/
structure Outlet where
  script : Script
  outputDir : RawText

/-- What is done at the end of a line. -/
inductive LineAction where
  | observe
  | clear
  | tally
  | flush
  deriving DecidableEq, Repr

/-- What doing it came to. -/
inductive LineResult where
  | counts (activation passwordRecovery : Nat)
  | tally (lines : List String)
  | flush (requests : List Request) (dispatches : List Dispatch)

/-- One operation. -/
inductive Step where
  | consume (bytes : List UInt8)
  | feed (bytes : List UInt8) (maxLines : Option Nat) (onLine : LineAction) (outlet : Outlet)
  | pump (pieces : List Piece) (size : Int) (onLine : LineAction) (outlet : Outlet)
  | reset
  | assign (index : Option Int) (kind : Option (Option Kind))
  | add (record : Record)
  | append (batch : Kind) (record : Record)
  | ofFields (kind : Kind) (fields : List (List UInt8))
  | records
  | drain (batch : Kind)
  | clear (batch : Kind)
  | isFull
  | isEmpty
  | counts
  | report
  | flush (outlet : Outlet)

/-- What an operation came to.  Taking in bytes has something to show even if a
fault stopped it. -/
inductive Result where
  | done
  | consumed (events : List LineEvent) (fault : Option Fault)
  | fed (events : List LineResult) (fault : Option Fault)
  | pumped (events : List LineResult) (reads : Nat) (fault : Option Fault)
  | record (r : Record)
  | records (rs : List Record)
  | full (activation passwordRecovery : Bool)
  | empty (b : Bool)
  | counts (counts : List (Kind × Nat))
  | report (lines : List String) (reported : List (Kind × Nat))
  | flushed (requests : List Request) (dispatches : List Dispatch)

/-- What a step works on. -/
structure State where
  intake : Intake
  host : Host

/-- A session with empty batches of a given capacity. -/
def State.start (capacity : Int) (host : Host) : State := { intake := .new capacity, host }

/-! ## lines -/

/-- A scripted sender and the requests it was given. -/
abbrev ScriptState : Type := SendState (Script × List Request)

/-- What line handlers keep: the scripted sender with its host, and the results so far. -/
structure LineState where
  scriptState : ScriptState
  results : List LineResult

/-- Flushes a store; the answer holds the requests of this flush alone. -/
def flushStore (outputDir : RawText) (store : Store) (scriptState : ScriptState) :
    Except Fault (List Request × List Dispatch) × Store × ScriptState :=
  let scriptState := { scriptState with sender := (scriptState.sender.1, []) }
  let (result, store, scriptState) := Flush.flush scripted.recording outputDir store scriptState
  (result.map fun dispatches => (scriptState.sender.2, dispatches), store, scriptState)

/-- How many records wait, kind by kind. -/
def countsOf (store : Store) : LineResult :=
  .counts store.activation.size store.passwordRecovery.size

/-- The handler that does one thing at the end of each line. -/
def handler (outputDir : RawText) (action : LineAction) : LineHandler LineState :=
  fun _ store a =>
    match action with
    | .observe => (.ok (), store, { a with results := a.results ++ [countsOf store] })
    | .clear => (.ok (), store.clearAll, { a with results := a.results ++ [countsOf store] })
    | .tally =>
      (.ok (), store.clearAll, { a with results := a.results ++ [.tally (Tally.lines store)] })
    | .flush =>
      match flushStore outputDir store a.scriptState with
      | (.error f, store, scriptState) => (.error f, store, { a with scriptState })
      | (.ok (requests, dispatches), store, scriptState) =>
        (.ok (), store, { scriptState, results := a.results ++ [.flush requests dispatches] })

/-- The state of line handlers at the beginning of a step. -/
def beginLines (outlet : Outlet) (host : Host) : LineState :=
  { scriptState := { sender := (outlet.script, []), host }, results := [] }

/-- The part of a stream that makes up its first lines, if they are limited. -/
def limitLines (maxLines : Option Nat) (bytes : List UInt8) : List UInt8 :=
  match maxLines with
  | none => bytes
  | some count => Wire.takeLines count bytes

/-! ## steps -/

/-- Consumes bytes up to the first that is refused. -/
def consumeAll : List UInt8 → Intake → List LineEvent × Option Fault × Intake
  | [], s => ([], none, s)
  | b :: rest, s =>
    match s.consume b with
    | (.error e, s) => ([], some (.wire e), s)
    | (.ok event, s) =>
      let (events, fault, s) := consumeAll rest s
      (event :: events, fault, s)

/-- A step that changes nothing but the store, if it succeeds. -/
def withStore (s : State) (result : Except WireError Store) : Except Fault Result × State :=
  match result with
  | .error e => (.error (.wire e), s)
  | .ok store => (.ok .done, { s with intake := { s.intake with store } })

/-- The decoder with some of its state assigned from outside. -/
def assignTo (d : Decoder) (index : Option Int) (kind : Option (Option Kind)) : Decoder :=
  { d with index := index.getD d.index, kind := kind.getD d.kind }

/-- Carries out one step. -/
def step (s : State) : Step → Except Fault Result × State
  | .consume bytes =>
    let (events, fault, intake) := consumeAll bytes s.intake
    (.ok (.consumed events fault), { s with intake })
  | .feed bytes maxLines onLine outlet =>
    let progress := feed (handler outlet.outputDir onLine) (limitLines maxLines bytes) s.intake
      (beginLines outlet s.host)
    (.ok (.fed progress.state.results (Fault.of? progress.result)),
      { intake := progress.intake, host := progress.state.scriptState.host })
  | .pump pieces size onLine outlet =>
    let (reads, progress) := pump (handler outlet.outputDir onLine) size pieces s.intake
      (beginLines outlet s.host)
    (.ok (.pumped progress.state.results reads (Fault.of? progress.result)),
      { intake := progress.intake, host := progress.state.scriptState.host })
  | .reset => (.ok .done, { s with intake := s.intake.reset })
  | .assign index kind =>
    let decoder := assignTo s.intake.decoder index kind
    (.ok .done, { s with intake := { s.intake with decoder } })
  | .add record => withStore s (s.intake.store.add record)
  | .append batch record => withStore s (s.intake.store.append batch record)
  | .ofFields kind fields =>
    match Record.ofFields? kind fields with
    | some record => (.ok (.record record), s)
    | none => (.error (.wire (.fieldCount fields.length)), s)
  | .records => (.ok (.records s.intake.store.records), s)
  | .drain batch =>
    let (records, store) := s.intake.store.drain batch
    (.ok (.records records), { s with intake := { s.intake with store } })
  | .clear batch => withStore s (.ok (s.intake.store.clear batch))
  | .isFull =>
    (.ok (.full s.intake.store.activation.isFull s.intake.store.passwordRecovery.isFull), s)
  | .isEmpty => (.ok (.empty s.intake.store.isEmpty), s)
  | .counts => (.ok (.counts s.intake.store.counts), s)
  | .report =>
    let store := s.intake.store
    (.ok (.report (Tally.lines store) (Tally.counts store)),
      { s with intake := { s.intake with store := store.clearAll } })
  | .flush outlet =>
    let (result, store, scriptState) := flushStore outlet.outputDir s.intake.store
      (beginLines outlet s.host).scriptState
    (result.map fun (requests, dispatches) => .flushed requests dispatches,
      { intake := { s.intake with store }, host := scriptState.host })

/-- Carries out steps in turn; each gives its result and the log entries it
added, and leaves a state behind. -/
def run (s : State) : List Step → List (Except Fault Result × State × List Log.Entry)
  | [] => []
  | action :: rest =>
    let (result, next) := step s action
    (result, next, next.host.log.drop s.host.log.length) :: run next rest

@[simp] theorem length_run (s : State) (steps : List Step) : (run s steps).length = steps.length := by
  induction steps generalizing s with
  | nil => rfl
  | cons action rest ih => simp [run, ih]

end BatchMailer.Session
