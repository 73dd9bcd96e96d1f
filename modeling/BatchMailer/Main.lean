import BatchMailer.CommandLine
import Std.Time.DateTime.Timestamp

/-!
# BatchMailer.Main

The two programs as a process: `send` with its options, and `count`.

What is to be done is decided elsewhere.  Here standard input is read piece by
piece, and whatever was logged, printed and filed is put out after every piece,
so that a line is dealt with as soon as it has come in.

No connection to SES is built in: outside of dry runs every send ends as one for
which there was no connection.
-/

namespace BatchMailer.Main

/-- The variables that programs look at. -/
def variableNames : List String :=
  [Settings.debugVariable, "MF_SES_CONFIG_SET", "MF_SES_SOURCE", "MF_SES_OUTPUT_PATH",
   "MF_SES_REPLY_TO", "MF_SES_ENDPOINT_URL", "AWS_REGION", "AWS_DEFAULT_REGION",
   "MF_SES_CONNECT_TIMEOUT_SECONDS", "MF_SES_READ_TIMEOUT_SECONDS",
   CommandLine.logLevelVariable]

/-- The file of assignments that is loaded unless another is chosen. -/
def usualEnvFile : String := ".env"

/-- The service of sends that find no connection. -/
def unreachable : Ses.Service Unit := fun _ _ =>
  ({ shown := [], result := .error (.endpointConnection Ses.Client.service) }, ())

/-! ## the world outside -/

/-- The variables of the process. -/
def readEnvironment : IO Environment :=
  variableNames.foldlM (fun e name => do
    match ← IO.getEnv name with
    | none => return e
    | some value => return e.set name value) .empty

/-- What the wall clock shows, in UTC. -/
def readWallClock : IO Moment := do
  let now ← Std.Time.Timestamp.now
  let nanoseconds := now.toNanosecondsSinceUnixEpoch.val.toNat
  let epoch := Date.toDay ⟨1970, 1, 1⟩ * 86400
  return .ofSeconds (epoch + nanoseconds / 1000000000) (nanoseconds / 1000 % 1000000)

/-- The host with its clocks at the present. -/
def readClocks (h : Host) : IO Host := do
  let wall ← readWallClock
  let steady := Binary64.ofRatio false (← IO.monoNanosNow) 1000000000
  return { h with wall := ⟨wall, []⟩, steady := ⟨steady, []⟩ }

/-- The tree with nothing but the way to the working directory. -/
def surroundings : IO FileTree := do
  let path : String := toString (← IO.currentDir)
  return .around (((Path.ofText path).names.map FileName.ofText).foldl Place.child .top)

/-- A path as a string, for the operations of the system. -/
def pathString (path : List UInt8) : String := .ofList (Text.Utf8.decodeLossy path)

/-- The tree with what a path leads to, if it leads to anything. -/
def surveyEntry (t : FileTree) (path : RawText) : IO FileTree := do
  let name := pathString (Text.bytes Text.pathCoding path)
  try
    if ← (← IO.FS.realPath name).isDir then
      return t.seed path .directory
    else
      return t.seed path (.file (← IO.FS.readBinFile name).toList)
  catch _ => return t

/-- The tree with what lies on the way to a path and at its end. -/
def survey (t : FileTree) (path : RawText) : IO FileTree :=
  let names := pathNames path
  (List.range names.length).foldlM
    (fun t n => surveyEntry t (List.intercalate "/" (names.take (n + 1)))) t

/-- Puts out what was logged and printed, and the entries that are new or have
changed since a given tree. -/
def commit (level : Nat) (old : FileTree) (h : Host) : IO Host := do
  let output ← IO.getStdout
  output.putStr h.printed
  output.flush
  (← IO.getStderr).putStr (Log.shown level h.wall.now h.log)
  for (place, entry) in h.files.entries do
    if old.lookup place ≠ some entry then
      match entry with
      | .directory => IO.FS.createDirAll (pathString place.path)
      | .file content => IO.FS.writeBinFile (pathString place.path) ⟨content.toArray⟩
  return { h with log := [], printed := "" }

/-- The next piece of standard input. -/
def readPiece : IO Piece := do
  try
    return .bytes (← (← IO.getStdin).read 8192).toList
  catch e => return .failure { cause := .inputOutput, name := "OSError", text := toString e }

/-! ## programs -/

/-- Takes in standard input up to its end or a fault.  The state of the handler
of lines holds the host, which is put out after every piece. -/
partial def takeIn {σ : Type} (level : Nat) (hostOf : σ → Host) (withHost : σ → Host → σ)
    (onLine : LineHandler σ) (s : Intake) (a : σ) : IO (Except Fault Unit × σ) := do
  match ← readPiece with
  | .failure f => return (.error (.outside f), a)
  | .bytes [] => return (.ok (), a)
  | .bytes content =>
    let a := withHost a (← readClocks (hostOf a))
    let progress := feed onLine content s a
    let a := withHost progress.state (← commit level (hostOf a).files (hostOf progress.state))
    match progress.result with
    | .error f => return (.error f, a)
    | .ok () => takeIn level hostOf withHost onLine progress.intake a

/-- Ends the process. -/
def conclude : CommandLine.Exit → IO UInt32
  | .status n => return n.toUInt32
  | .refused r => do
    IO.eprintln (CommandLine.Exit.refused r).message
    return r.status.toUInt32
  | exit => do
    IO.eprintln exit.message
    return 1

/-- Puts out what the end of a run has left, and ends the process. -/
def conclusion (level : Nat) (old : FileTree) (ending : Run.Ending) (host : Host) : IO UInt32 := do
  let _ ← commit level old host
  conclude (CommandLine.exitOf ending)

/-- The intake of a run. -/
def intake : Intake := .new Store.defaultCapacity

/-- The sending program. -/
def send (arguments : List String) : IO UInt32 := do
  let arguments := ("--env-file=" ++ usualEnvFile) :: arguments
  let files ← surroundings
  let files ←
    match CommandLine.Options.parse arguments with
    | .ok { envFile := .path path, .. } => survey files path
    | _ => pure files
  match CommandLine.Plan.of arguments (← readEnvironment) files with
  | .error exit => conclude exit
  | .ok plan =>
    let files ←
      match plan.settings with
      | .ok s => survey files s.outputDir
      | .error _ => pure files
    let host ← readClocks (.start ⟨← readWallClock, []⟩ ⟨.signedZero false, []⟩ files)
    match Run.prepare plan.settings host with
    | (.error ending, host) => conclusion plan.level files ending host
    | (.ok s, host) =>
      let (built, host) := Run.buildSender (Run.selected unreachable ()) s host
      let host ← commit plan.level files host
      let (result, sendState) ← takeIn plan.level SendState.host (fun o host => { o with host })
        (Run.flushing built.send s.outputDir) intake { sender := built.state, host }
      let (ending, host) := Run.finish result (← readClocks sendState.host)
      conclusion plan.level host.files ending host

/-- The counting program. -/
def count : IO UInt32 := do
  match CommandLine.threshold none (← readEnvironment) with
  | .error misnomer => conclude (.logLevel misnomer)
  | .ok level =>
    let files ← surroundings
    let host ← readClocks (.start ⟨← readWallClock, []⟩ ⟨.signedZero false, []⟩ files)
    let (result, host) ← takeIn level id (fun _ host => host) Run.tallying intake host
    let (ending, host) := Run.finishCount result (← readClocks host)
    conclusion level host.files ending host

end BatchMailer.Main

/-- Runs the program that the first argument names. -/
def main (arguments : List String) : IO UInt32 :=
  match arguments with
  | "send" :: rest => BatchMailer.Main.send rest
  | "count" :: _ => BatchMailer.Main.count
  | _ => do
    IO.eprintln "usage: batchmailer (send [OPTION...] | count)"
    return 2
