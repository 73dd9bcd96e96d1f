import BatchMailer.Environment
import BatchMailer.FileTree
import BatchMailer.Text.Lines

/-!
# BatchMailer.EnvFile

Files of variable assignments, one `KEY=VALUE` a line.

Blank lines, lines that start with a number sign and lines without an equals
sign are passed over, and so is an assignment without a key.  Blanks around key
and value do not count; a value between quotes loses them.  A file only gives
defaults: a variable that is set keeps its value, and of two assignments to one
key the first holds.
-/

namespace BatchMailer

/-- Why a file of assignments could not be loaded. -/
inductive EnvFileError where
  | file (e : FileError)
  | notUtf8
  | embeddedNul
  deriving DecidableEq, Repr

/-- The wording of a loading error. -/
def EnvFileError.message : EnvFileError → String
  | file e => e.message
  | notUtf8 => "file of assignments is not UTF-8"
  | embeddedNul => FileError.embeddedNul.message

namespace EnvFile

open Text (trimWhere isBlank)

/-- Whether a character is a quote; which of the two does not matter. -/
def isQuote (c : Char) : Bool := c == '\x27' || c == '\x22'

/-- A value without the quotes it stands between, if it does. -/
def unquote (value : List Char) : List Char :=
  if 2 ≤ value.length ∧ (value.head?.any isQuote) ∧ (value.getLast?.any isQuote) then
    (value.drop 1).dropLast
  else value

/-- The key and the value of a line, if it assigns one. -/
def assignment? (line : List Char) : Option (List Char × List Char) :=
  let text := trimWhere isBlank line
  if text.head? = some '#' then none
  else
    match text.dropWhile (· != '=') with
    | [] => none
    | _ :: value =>
      let key := trimWhere isBlank (text.takeWhile (· != '='))
      if key.isEmpty then none else some (key, unquote (trimWhere isBlank value))

/-- The assignments of a file's text, in order. -/
def assignments (text : List Char) : List (List Char × List Char) :=
  (Text.lines text).filterMap assignment?

/-- Gives a default for one variable.  Neither its name nor its value may hold a
NUL character, unless the variable is set anyway. -/
def assign (e : Environment) (key value : List Char) : Except EnvFileError Environment :=
  let name := String.ofList key
  if (e.get? name).isSome then .ok e
  else if key.contains '\x00' || value.contains '\x00' then .error .embeddedNul
  else .ok (e.setDefault name (String.ofList value))

/-- Gives defaults in turn, up to the first that cannot be given. -/
def assignAll (e : Environment) :
    List (List Char × List Char) → Except EnvFileError Unit × Environment
  | [] => (.ok (), e)
  | (key, value) :: rest =>
    match assign e key value with
    | .error fault => (.error fault, e)
    | .ok e => assignAll e rest

/-- Loads the text of a file. -/
def loadText (e : Environment) (text : List Char) : Except EnvFileError Unit × Environment :=
  assignAll e (assignments text)

/-- Loads the bytes of a file, which must be UTF-8. -/
def loadBytes (e : Environment) (bytes : List UInt8) : Except EnvFileError Unit × Environment :=
  match Text.Utf8.decode? bytes with
  | none => (.error .notUtf8, e)
  | some text => loadText e text

/-- Loads a file if there is one.  A path whose names are too long is an error
already when the file is looked for. -/
def load (files : FileTree) (path : RawText) (e : Environment) :
    Except EnvFileError Unit × Environment :=
  match files.read path with
  | .ok bytes => loadBytes e bytes
  | .error (.refused .isDirectory path) => (.error (.file (.refused .isDirectory path)), e)
  | .error (.refused .nameTooLong path) => (.error (.file (.refused .nameTooLong path)), e)
  | .error _ => (.ok (), e)

/-- A variable that is set keeps its value, whatever is assigned to it. -/
theorem get?_assign {e f : Environment} {key value : List Char} (h : assign e key value = .ok f)
    {name v : String} (hv : e.get? name = some v) : f.get? name = some v := by
  unfold assign at h
  simp only at h
  split at h
  · cases h
    exact hv
  · split at h
    · contradiction
    · cases h
      rw [Environment.get?_setDefault]
      split
      · simp_all
      · exact hv

end EnvFile

end BatchMailer
