import BatchMailer.Flush
import BatchMailer.Ses.Sender
import BatchMailer.Settings
import BatchMailer.Stream

/-!
# BatchMailer.Run

Whole runs over a stream of records.

A sending run flushes after every line.  It ends in failure when the
configuration or the output directory cannot be used, at the first byte that is
refused, when the stream cannot be read, and also at the end of the stream,
which is supposed to have none; only an interrupt ends it in success.

A counting run tallies the batches after every line instead and ends in success
at the end of the stream.
-/

namespace BatchMailer

namespace Run

/-- How a run ends: with an exit status, or with a fault that it does not
handle. -/
inductive Ending where
  | exit (status : Nat)
  | escaped (f : Fault)
  deriving DecidableEq, Repr

/-- The sender of a run, the state it starts in, and the client that was set up for it,
if any. -/
structure BuiltSender (σ : Type) where
  send : Sender σ
  state : σ
  client : Option Ses.Client

/-- What a run leaves behind: how it ended, the host, how often it read, and,
once a sender was built, the sender's last state and its client. -/
structure Report (σ : Type) where
  ending : Ending
  host : Host
  reads : Nat
  sender : Option σ
  client : Option Ses.Client

variable {σ τ : Type}

/-! ## the handlers of a line -/

/-- Flushes at the end of a line. -/
def flushing (send : Sender σ) (outputDir : RawText) : LineHandler (SendState σ) :=
  fun _ store sendState =>
    let (result, store, sendState) := Flush.flush send outputDir store sendState
    (result.map fun _ => (), store, sendState)

/-- Prints the tally at the end of a line and empties the batches. -/
def tallying : LineHandler Host :=
  fun _ store host => (.ok (), store.clearAll, host.print (Tally.text store))

/-! ## sending -/

/-- How a sending run ends after its stream was taken in, with its last log
entry. -/
def finish (result : Except Fault Unit) (host : Host) : Ending × Host :=
  match result with
  | .ok () => (.exit 1, host.error "ERROR: end of input stream")
  | .error f =>
    match f.cause with
    | .interrupt => (.exit 0, host.info "received keyboard interrupt")
    | .malformedInput => (.exit 1, host.error ("ERROR: failed to parse input: " ++ f.message))
    | .inputOutput => (.exit 1, host.error ("ERROR: failed to read from stdin: " ++ f.message))
    | .other => (.escaped f, host)

/-- Readies the host for sending: logs the configuration and makes the output
directory.  The answer is the ending if that cannot be done. -/
def prepare (settings : Except SettingsError Settings) (host : Host) :
    Except Ending Settings × Host :=
  match settings with
  | .error e => (.error (.exit 1), host.error ("ERROR: invalid configuration: " ++ e.message))
  | .ok s =>
    let host := host.info s.summary
    match host.files.ensureDirectories s.outputDir with
    | (.ok (), files) => (.ok s, { host with files })
    | (.error (.refused cause path), files) =>
      (.error (.exit 1), { host with files }.error ("ERROR: failed to create output directory " ++
        s.outputDir ++ ": " ++ (FileError.refused cause path).message))
    | (.error e, files) => (.error (.escaped (.file e)), { host with files })

/-- Builds a sender; a client that is set up for it is logged. -/
def buildSender (build : Settings → BuiltSender σ) (s : Settings) (host : Host) :
    BuiltSender σ × Host :=
  let built := build s
  match built.client with
  | none => (built, host)
  | some client => (built, host.info client.createdMessage)

/-- A sending run, with a sender chosen by the configuration. -/
def send (build : Settings → BuiltSender σ) (settings : Except SettingsError Settings)
    (pieces : List Piece) (host : Host) : Report σ :=
  match prepare settings host with
  | (.error ending, host) => { ending, host, reads := 0, sender := none, client := none }
  | (.ok s, host) =>
    let (built, host) := buildSender build s host
    let (reads, progress) := pump (flushing built.send s.outputDir) defaultReadSize pieces
      (.new Store.defaultCapacity) { sender := built.state, host }
    let (ending, host) := finish progress.result progress.state.host
    { ending, host, reads, sender := some progress.state.sender, client := built.client }

/-- The same sender whatever the configuration. -/
def given (send : Sender σ) (state : σ) : Settings → BuiltSender σ :=
  fun _ => { send, state, client := none }

/-- The sender a configuration asks for: the console in debug mode, else SES. -/
def selected (service : Ses.Service τ) (start : τ) (s : Settings) : BuiltSender (Ses.State τ) :=
  if s.debug then
    { send := Console.sender s.configurationSet s.source
      state := .start start
      client := none }
  else
    { send := Ses.send service s.identity
      state := .start start
      client := some s.client }

/-! ## counting -/

/-- How a counting run ends after its stream was taken in. -/
def finishCount (result : Except Fault Unit) (host : Host) : Ending × Host :=
  match result with
  | .ok () => (.exit 0, host)
  | .error f =>
    match f.cause with
    | .malformedInput => (.exit 1, host.error ("Failed to parse input: " ++ f.message))
    | .inputOutput => (.exit 1, host.error ("Failed to read from stdin: " ++ f.message))
    | .interrupt | .other => (.escaped f, host)

/-- A counting run. -/
def count (pieces : List Piece) (host : Host) : Ending × Host :=
  let (_, progress) := pump tallying defaultReadSize pieces (.new Store.defaultCapacity) host
  finishCount progress.result progress.state

/-! ## how a run ends -/

/-- A run whose configuration cannot be used reads nothing and builds no sender. -/
theorem send_invalid (build : Settings → BuiltSender σ) (e : SettingsError) (pieces : List Piece)
    (host : Host) :
    send build (.error e) pieces host =
      { ending := .exit 1
        host := host.error ("ERROR: invalid configuration: " ++ e.message)
        reads := 0
        sender := none
        client := none } := rfl

end Run

end BatchMailer
