import BatchMailer.Calendar
import BatchMailer.Text.Digits
import BatchMailer.Text.Quoted

/-!
# BatchMailer.Log

The mailer's log: entries in the order they were made, each with a severity.
Which of them are shown depends on a threshold; a shown entry is one line with
the time and the severity in front (`line`).

An entry that tells a value which cannot be written is made like any other, but has
no message, and is not shown.
-/

namespace BatchMailer.Log

/-- How grave an entry is. -/
inductive Severity where
  | info
  | error
  deriving DecidableEq, Repr

namespace Severity

/-- The name of a severity. -/
def name : Severity → String
  | info => "INFO"
  | error => "ERROR"

/-- The place of a severity on the scale of thresholds. -/
def level : Severity → Nat
  | info => 20
  | error => 40

end Severity

/-- One entry of the log; `none` stands for a message that cannot be put together. -/
structure Entry where
  severity : Severity
  message : Option RawText
  deriving DecidableEq, Repr

/-! ## thresholds -/

/-- The thresholds that have names. -/
def namedLevels : List (String × Nat) :=
  [("CRITICAL", 50), ("FATAL", 50), ("ERROR", 40), ("WARN", 30), ("WARNING", 30), ("INFO", 20),
   ("DEBUG", 10), ("NOTSET", 0)]

/-- The threshold of an unknown name. -/
def defaultLevel : Nat := 20

/-- The threshold of the libraries a mailer talks through. -/
def quietLevel : Nat := 30

/-- What a name can stand for that is no threshold: the layout of entries, or
the table of the styles that layouts can be written in. -/
inductive Misnomer where
  | layout
  | styles
  deriving DecidableEq, Repr

/-- The names that stand for something else than a threshold. -/
def misnomers : List (String × Misnomer) := [("BASIC_FORMAT", .layout), ("_STYLES", .styles)]

/-- The layout of entries. -/
def layout : String := "%(levelname)s:%(name)s:%(message)s"

/-- The styles of layouts: the mark in front of a field, the name of the style,
and the layout of entries in it. -/
def styles : List (String × String × String) :=
  [("%", "PercentStyle", layout),
   ("\x7b", "StrFormatStyle", "\x7blevelname\x7d:\x7bname\x7d:\x7bmessage\x7d"),
   ("$", "StringTemplateStyle", "$\x7blevelname\x7d:$\x7bname\x7d:$\x7bmessage\x7d")]

/-- The table of the styles, written out. -/
def stylesText : String :=
  let row (mark name layout : String) : String :=
    Text.quoted mark ++ ": (<class 'logging." ++ name ++ "'>, " ++ Text.quoted layout ++ ")"
  "\x7b" ++ ", ".intercalate (styles.map fun (mark, name, layout) => row mark name layout) ++ "\x7d"

/-- The wording for a name that is no threshold. -/
def Misnomer.message : Misnomer → String
  | layout => "Unknown level: " ++ Text.quoted Log.layout
  | styles => "Level not an integer or a valid string: " ++ stylesText

/-- A letter in ASCII capitals, where it has any.  Beyond ASCII these are the
dotless i, the long s and the two ligatures of s and t; other letters have no
capitals that occur in a name here. -/
def capital (c : Char) : List Char :=
  if c = '\u0131' then ['I']
  else if c = '\u017F' then ['S']
  else if c = '\uFB05' ∨ c = '\uFB06' then ['S', 'T']
  else [c.toUpper]

/-- A name in capitals. -/
def capitals (name : String) : String := String.ofList (name.toList.flatMap capital)

/-- The threshold a name stands for, in any case of letters; that of the default
for an unknown name. -/
def threshold? (name : String) : Except Misnomer Nat :=
  let name := capitals name
  match misnomers.lookup name with
  | some misnomer => .error misnomer
  | none => .ok ((namedLevels.lookup name).getD defaultLevel)

/-! ## lines -/

/-- A year in as many digits as it needs. -/
def yearText (year : Nat) : String := toString year

/-- A number in two digits. -/
def twoDigits (n : Nat) : String := String.ofList (Text.digits 10 2 n)

/-- The date and time of a moment, as its own clock shows them. -/
def stamp (m : Moment) : String :=
  yearText m.date.year ++ "/" ++ twoDigits m.date.month ++ "/" ++ twoDigits m.date.day ++ " " ++
    twoDigits m.hour ++ ":" ++ twoDigits m.minute ++ ":" ++ twoDigits m.second

/-- The line a message is shown as.  Surrogates are written by their numbers. -/
def line (severity : Severity) (message : RawText) (moment : Moment) : String :=
  stamp moment ++ " [SES] " ++ severity.name ++ " " ++ Text.escaped message ++ "\n"

/-- What is shown of an entry. -/
def Entry.shown (threshold : Nat) (moment : Moment) (e : Entry) : String :=
  match e.message with
  | none => ""
  | some message => if threshold ≤ e.severity.level then line e.severity message moment else ""

/-- What is shown of a log whose entries are made at one moment. -/
def shown (threshold : Nat) (moment : Moment) (entries : List Entry) : String :=
  String.join (entries.map (·.shown threshold moment))

end BatchMailer.Log
