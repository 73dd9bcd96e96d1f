import BatchMailer.Binary64.Reading
import BatchMailer.Environment
import BatchMailer.Ses.Client
import BatchMailer.Ses.Parameters
import BatchMailer.Text.CommaList
import BatchMailer.Text.Quoted

/-!
# BatchMailer.Settings

The mailer's configuration, as it is read from environment variables.

Switches and timeouts are checked while they are read, in the order of the
fields of `Settings`; the first that cannot be used decides the error.  Other
variables are taken as they are, or, where blanks make no sense, without the
blanks around them.
-/

namespace BatchMailer

/-- Why a configuration cannot be used. -/
inductive SettingsError where
  | invalidBool (name value : String)
  | invalidSeconds (name value : String)
  | notPositive (name : String)
  deriving DecidableEq, Repr

/-- The wording of a configuration error. -/
def SettingsError.message : SettingsError → String
  | invalidBool name value => "Invalid boolean value for " ++ name ++ ": " ++ Text.quoted value
  | invalidSeconds name value =>
    "Invalid number of seconds for " ++ name ++ ": " ++ Text.quoted value
  | notPositive name => name ++ " must be > 0"

namespace Environment

/-- A variable that is set to something else than blanks, without the blanks
around it. -/
def trimmed? (e : Environment) (name : String) : Option String :=
  ((e.get? name).map Text.trim).filter (· ≠ "")

/-- The items of a variable that holds a comma-separated list; none if it is not
set. -/
def items (e : Environment) (name : String) : List String :=
  match e.trimmed? name with
  | none => []
  | some text => (Text.commaItems text.toList).map String.ofList

/-- The words for a switch that is on. -/
def wordsForOn : List String := ["1", "true", "yes", "on"]

/-- The words for a switch that is off. -/
def wordsForOff : List String := ["0", "false", "no", "off"]

/-- A text in small letters.  The words for switches have ASCII letters only,
and no other letter has one of theirs as its small letter. -/
def smallLetters (s : String) : String := String.ofList (s.toList.map Char.toLower)

/-- The state of a switch: a word in any case of letters, blanks around it
aside. -/
def bool (e : Environment) (name : String) (default : Bool) : Except SettingsError Bool :=
  match e.get? name with
  | none => .ok default
  | some value =>
    let word := smallLetters (Text.trim value)
    if word ∈ wordsForOn then .ok true
    else if word ∈ wordsForOff then .ok false
    else .error (.invalidBool name value)

/-- A number of seconds, from a variable or a default text.  A number that is
zero or less is refused. -/
def seconds (e : Environment) (name default : String) : Except SettingsError Binary64 :=
  let value := (e.get? name).getD default
  match Binary64.ofText? value with
  | none => .error (.invalidSeconds name value)
  | some number => if number.isAtMostZero then .error (.notPositive name) else .ok number

end Environment

/-- The configuration of a mailer that sends. -/
structure Settings where
  debug : Bool
  configurationSet : String
  source : String
  outputDir : RawText
  replyTo : List String
  endpoint : Option String
  region : Option String
  connectTimeout : Binary64
  readTimeout : Binary64
  deriving DecidableEq, Repr

namespace Settings

/-- The variable of the debug switch. -/
def debugVariable : String := "MF_DEBUG"

/-- The configuration an environment describes. -/
def load (e : Environment) : Except SettingsError Settings := do
  let debug ← e.bool debugVariable false
  let connectTimeout ← e.seconds "MF_SES_CONNECT_TIMEOUT_SECONDS" "10"
  let readTimeout ← e.seconds "MF_SES_READ_TIMEOUT_SECONDS" "30"
  return {
    debug
    configurationSet := (e.get? "MF_SES_CONFIG_SET").getD "default"
    source := (e.get? "MF_SES_SOURCE").getD "noreply@localhost"
    outputDir := ((e.get? "MF_SES_OUTPUT_PATH").getD "./output" : String)
    replyTo := e.items "MF_SES_REPLY_TO"
    endpoint := e.trimmed? "MF_SES_ENDPOINT_URL"
    region := (e.trimmed? "AWS_REGION").or (e.trimmed? "AWS_DEFAULT_REGION")
    connectTimeout
    readTimeout }

/-- What all sends of a mailer share. -/
def identity (s : Settings) : Ses.Identity where
  configurationSet := s.configurationSet
  source := s.source
  replyTo := s.replyTo

/-- The client of a mailer that talks to SES. -/
def client (s : Settings) : Ses.Client :=
  .new s.endpoint s.region s.connectTimeout s.readTimeout

/-- The log line for a configuration that was read. -/
def summary (s : Settings) : RawText :=
  "configured; debug=" ++ (if s.debug then "True" else "False") ++ " config_set=" ++
    s.configurationSet ++ " source=" ++ s.source ++ " output_path=" ++ s.outputDir

end Settings

end BatchMailer
