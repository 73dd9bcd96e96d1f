import BatchMailer.EnvFile
import BatchMailer.Run

/-!
# BatchMailer.CommandLine

The two programs, from their arguments to their exit status.

The sending program takes options (`Options.parse`): long ones may be cut short
where that leaves no doubt, and a value may follow after an equals sign or as
the next argument.  Before it runs it loads a file of assignments, so that its
options win over the environment and the environment over the file.  The
counting program takes no options.

What is logged goes to standard error, down to a threshold.
-/

namespace BatchMailer.CommandLine

/-! ## options -/

/-- Which file of assignments to load.  Two dashes alone in the stead of its path
are taken away, and then there is no path to look at. -/
inductive EnvFileChoice where
  | unset
  | path (text : String)
  | void
  deriving DecidableEq, Repr

/-- The options of the sending program. -/
structure Options where
  envFile : EnvFileChoice
  debug : Bool
  logLevel : Option String
  deriving DecidableEq, Repr

/-- Why the arguments do not lead to a run: help was asked for, or they are
wrong. -/
inductive Refusal where
  | help
  | wrong
  deriving DecidableEq, Repr

/-- The exit status of a program that does not run. -/
def Refusal.status : Refusal → Nat
  | help => 0
  | wrong => 2

/-- What an option is about. -/
inductive Switch where
  | help
  | envFile
  | debug
  | logLevel
  deriving DecidableEq, Repr

/-- The long names of options. -/
def longNames : List (String × Switch) :=
  [("--help", .help), ("--env-file", .envFile), ("--debug", .debug), ("--log-level", .logLevel)]

/-- The short name of the option for help. -/
def shortHelp : String := "-h"

/-- How an argument reads: as a value, as an option with or without a value of
its own, as the short option for help with something behind it, or as an option
that does not exist or could be several. -/
inductive Argument where
  | value (text : String)
  | option (switch : Switch) (attached : Option String)
  | cluster (more : List Char)
  | unknown
  | ambiguous
  deriving DecidableEq, Repr

/-- A text up to its first equals sign, and what follows that sign. -/
def splitAttached (cs : List Char) : List Char × Option (List Char) :=
  match cs.dropWhile (· != '=') with
  | [] => (cs, none)
  | _ :: attached => (cs.takeWhile (· != '='), some attached)

/-- A text without the line feed at its end, if there is one. -/
def dropLineFeed (cs : List Char) : List Char :=
  if cs.getLast? = some '\n' then cs.dropLast else cs

/-- Whether a text is a minus sign with a number behind it, which can only be
meant as a value.  A line feed at its end does not count. -/
def isNegativeNumber (cs : List Char) : Bool :=
  match dropLineFeed cs with
  | '-' :: digits =>
    let isDigit (c : Char) : Bool := (Text.decimalValue? c).isSome
    let fraction := (digits.dropWhile isDigit).drop 1
    (!digits.isEmpty && digits.all isDigit) ||
      ((digits.dropWhile isDigit).head? == some '.' && !fraction.isEmpty && fraction.all isDigit)
  | _ => false

/-- How a text with a minus sign in front reads if it names no option. -/
def readUnnamed (text : String) : Argument :=
  if isNegativeNumber text.toList || text.toList.contains ' ' then .value text else .unknown

/-- How an argument reads. -/
def readArgument (text : String) : Argument :=
  let cs := text.toList
  if cs.head? ≠ some '-' ∨ cs.length = 1 then .value text
  else
    let (name, attached) := splitAttached cs
    if text = shortHelp then .option .help none
    else if String.ofList name = shortHelp then .cluster (attached.getD [])
    else if "--".toList.isPrefixOf cs then
      let attached := attached.map String.ofList
      match longNames.lookup (String.ofList name) with
      | some switch => .option switch attached
      | none =>
        match longNames.filter fun n => name.isPrefixOf n.1.toList with
        | [] => readUnnamed text
        | [n] => .option n.2 attached
        | _ => .ambiguous
    else if shortHelp.toList.isPrefixOf cs then .cluster (cs.drop 2)
    else readUnnamed text

/-- How all arguments read.  Behind two dashes alone there are only values, and
no option takes the dashes for its own. -/
def readArguments : List String → List Argument
  | [] => []
  | text :: rest =>
    if text = "--" then .unknown :: rest.map .value else readArgument text :: readArguments rest

/-- What is behind the short option for help may be more of the same, and must
not be anything else. -/
def readCluster (more : List Char) : Refusal :=
  if more ≠ [] ∧ more.all (· == 'h') then .help else .wrong

/-- The value attached to an option; two dashes alone are taken away. -/
def attachedValue (text : String) : Option String :=
  if text = "--" then none else some text

/-- The file of assignments an attached value chooses. -/
def EnvFileChoice.ofAttached (text : String) : EnvFileChoice :=
  match attachedValue text with
  | some file => .path file
  | none => .void

/-- Goes through arguments from left to right.  Help is given at once; an option
that lacks its value, or has one it does not take, is wrong at once; values that
belong to no option, and unknown options, are wrong in the end. -/
def follow (o : Options) (spare : Bool) : List Argument → Except Refusal Options
  | [] => if spare then .error .wrong else .ok o
  | .value _ :: rest => follow o true rest
  | .unknown :: rest => follow o true rest
  | .ambiguous :: _ => .error .wrong
  | .cluster more :: _ => .error (readCluster more)
  | .option .help none :: _ => .error .help
  | .option .help (some _) :: _ => .error .wrong
  | .option .debug none :: rest => follow { o with debug := true } spare rest
  | .option .debug (some _) :: _ => .error .wrong
  | .option .envFile (some text) :: rest =>
    follow { o with envFile := .ofAttached text } spare rest
  | .option .envFile none :: .value text :: rest =>
    follow { o with envFile := .path text } spare rest
  | .option .envFile none :: _ => .error .wrong
  | .option .logLevel (some text) :: rest =>
    follow { o with logLevel := attachedValue text } spare rest
  | .option .logLevel none :: .value text :: rest =>
    follow { o with logLevel := some text } spare rest
  | .option .logLevel none :: _ => .error .wrong

/-- The options that are in force without arguments. -/
def Options.initial : Options := { envFile := .unset, debug := false, logLevel := none }

/-- The options a list of arguments asks for. -/
def Options.parse (arguments : List String) : Except Refusal Options :=
  let read := readArguments arguments
  if read.contains .ambiguous then .error .wrong else follow .initial false read

/-! ## logging -/

/-- The variable of the log threshold. -/
def logLevelVariable : String := "MF_LOG_LEVEL"

/-- The threshold of a program: by an option, else by a variable, else that of
the default.  An empty option counts as none. -/
def threshold (level : Option String) (e : Environment) : Except Log.Misnomer Nat :=
  let level := level.filter (· ≠ "")
  Log.threshold? ((level.or (e.get? logLevelVariable)).getD "INFO")

/-! ## programs -/

/-- How a program ends. -/
inductive Exit where
  | refused (r : Refusal)
  | status (n : Nat)
  | envFile (e : EnvFileError)
  | voidEnvFile
  | logLevel (misnomer : Log.Misnomer)
  | fault (f : Fault)
  deriving DecidableEq, Repr

/-- The wording for a file of assignments that is chosen without a path. -/
def voidEnvFileMessage : String := "'list' object has no attribute 'exists'"

/-- The wording of an exit that is not a status. -/
def Exit.message : Exit → String
  | refused .help => "help was asked for"
  | refused .wrong => "wrong arguments"
  | status n => "exit status " ++ toString n
  | envFile e => e.message
  | voidEnvFile => voidEnvFileMessage
  | logLevel misnomer => misnomer.message
  | fault f => Text.escaped f.message

/-- The exit of a run. -/
def exitOf : Run.Ending → Exit
  | .exit status => .status status
  | .escaped f => .fault f

/-- What a program leaves behind: its exit, the host, and what it wrote to
standard error. -/
structure Conclusion where
  exit : Exit
  host : Host
  errors : String

/-- A program that ended before it logged anything. -/
def early (exit : Exit) (host : Host) : Conclusion := { exit, host, errors := "" }

/-- A program that ran; its log is shown with the time at which it started. -/
def finished (started : Moment) (level : Nat) (ending : Run.Ending) (host : Host) : Conclusion :=
  { exit := exitOf ending, host, errors := Log.shown level started host.log }

/-- The environment with defaults from the file of assignments, or the exit if it
cannot be loaded. -/
def EnvFileChoice.load (choice : EnvFileChoice) (files : FileTree) (e : Environment) :
    Except Exit Environment :=
  match choice with
  | .unset => .ok e
  | .void => .error .voidEnvFile
  | .path text =>
    match EnvFile.load files (Path.ofText text).text e with
    | (.ok (), e) => .ok e
    | (.error error, _) => .error (.envFile error)

/-- The environment of the sending program: the process's, then defaults from
the file of assignments, then the debug switch if the option asks for it. -/
def environmentFor (o : Options) (e : Environment) (files : FileTree) : Except Exit Environment :=
  (o.envFile.load files e).map fun loaded =>
    if o.debug then loaded.set Settings.debugVariable "true" else loaded

/-- What the sending program goes by: its log threshold and its configuration,
which may be one that cannot be used. -/
structure Plan where
  level : Nat
  settings : Except SettingsError Settings

/-- What the arguments, the environment and the files make the sending program go
by, or the exit if they do not lead to a run. -/
def Plan.of (arguments : List String) (e : Environment) (files : FileTree) : Except Exit Plan := do
  let o ← (Options.parse arguments).mapError .refused
  let e ← environmentFor o e files
  let level ← (threshold o.logLevel e).mapError .logLevel
  return { level, settings := Settings.load e }

/-- The sending program. -/
def send {τ : Type} (service : Ses.Service τ) (start : τ) (arguments : List String)
    (e : Environment) (pieces : List Piece) (host : Host) : Conclusion :=
  match Plan.of arguments e host.files with
  | .error exit => early exit host
  | .ok plan =>
    let report := Run.send (Run.selected service start) plan.settings pieces host
    finished host.wall.now plan.level report.ending report.host

/-- The counting program. -/
def count (e : Environment) (pieces : List Piece) (host : Host) : Conclusion :=
  match threshold none e with
  | .error misnomer => early (.logLevel misnomer) host
  | .ok level =>
    let (ending, after) := Run.count pieces host
    finished host.wall.now level ending after

end BatchMailer.CommandLine
