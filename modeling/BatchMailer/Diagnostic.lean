import BatchMailer.Host
import BatchMailer.Failure
import BatchMailer.Outcome
import BatchMailer.Binary64.Fixed

/-!
# BatchMailer.Diagnostic

Diagnostic files: the raw HTTP response of a failed send, one response a file.

A file is named for the instant it is written, to the millisecond and in UTC,
and for the kind of the batch (`fileName`).  It holds a status line, the header
lines, an empty line and the body (`HttpResponse.text`).  A file that the system
does not open, or does not take all of, is logged and otherwise ignored.  But a dump
is put together and encoded before its file is opened, and a response that has none
(`HttpResponse.renderBytes`) is a fault.
-/

namespace BatchMailer

namespace HttpResponse

/-- What a dump holds where there is no body. -/
def emptyBodyMarker : String := "Empty body.\n"

/-- The text of a body.  An empty body counts as none. -/
def bodyText (r : HttpResponse) : RawText :=
  match r.body.getD none with
  | none => emptyBodyMarker
  | some (.bytes content) =>
    if content.isEmpty then emptyBodyMarker else .ofChars (Text.Utf8.decodeLossy content)
  | some (.text content) => if content.isEmpty then emptyBodyMarker else content

/-- The first line of a dump. -/
def statusLine (r : HttpResponse) : RawText :=
  "HTTP/1.1 " ++ Value.displayOption r.statusCode ++ "\n"

/-- The line of a header. -/
def headerLine (header : RawText × Value) : RawText :=
  header.1 ++ ": " ++ header.2.display ++ "\n"

/-- The text of a dump. -/
def text (r : HttpResponse) : RawText :=
  r.statusLine ++ (r.headerList.map headerLine).flatten ++ "\n" ++ r.bodyText

/-- Whether the status and the values of all headers can be written. -/
def isWritable (r : HttpResponse) : Bool :=
  (r.statusCode.getD .null).isWritable && r.headerList.all (·.2.isWritable)

/-- The dump of a response. -/
def render (r : HttpResponse) : Except Fault RawText :=
  if r.isWritable then .ok r.text else .error .longInteger

/-- The bytes of a dump. -/
def renderBytes (r : HttpResponse) : Except Fault (List UInt8) :=
  match r.render with
  | .error f => .error f
  | .ok text => (Text.encode Text.contentCoding text).mapError .unencodable

/-- A response whose dump can be written to a file: no integer in it is too long, and it
holds no surrogate. -/
def Dumps (r : HttpResponse) : Prop :=
  r.isWritable = true ∧ ∀ c ∈ r.text, c.isSurrogate = false

instance (r : HttpResponse) : Decidable r.Dumps := inferInstanceAs (Decidable (_ ∧ _))

/-- Such a response has bytes, which are those of its text, and no other has any. -/
theorem renderBytes_eq_ok_iff {r : HttpResponse} {content : List UInt8} :
    r.renderBytes = .ok content ↔
      r.Dumps ∧ Text.bytes Text.contentCoding r.text = content := by
  have hencode : Text.encode Text.contentCoding r.text = .ok content ↔
      (∀ c ∈ r.text, (Text.contentCoding c).isSome) ∧
        Text.bytes Text.contentCoding r.text = content := Text.encode_eq_ok_iff
  simp only [Text.isSome_contentCoding] at hencode
  rw [renderBytes, render, Dumps, and_assoc, ← hencode]
  by_cases hwritable : r.isWritable = true
  · simp only [hwritable, if_true, true_and, mapError_eq_ok]
  · simp [hwritable]

theorem Dumps.encode_text {r : HttpResponse} (h : r.Dumps) :
    Text.encode Text.contentCoding r.text = .ok (Text.bytes Text.contentCoding r.text) :=
  Text.encode_eq_ok_iff.2 ⟨fun c hc => Text.isSome_contentCoding.2 (h.2 c hc), rfl⟩

theorem exists_error_of_not_dumps {r : HttpResponse} (h : ¬ r.Dumps) :
    ∃ f, r.renderBytes = .error f := by
  cases hbytes : r.renderBytes with
  | ok content => exact absurd (renderBytes_eq_ok_iff.1 hbytes).1 h
  | error f => exact ⟨f, rfl⟩

end HttpResponse

namespace Diagnostic

/-- A number in a field of fixed width. -/
def field (width n : Nat) : List Char := Text.digits 10 width n

/-- The instant of a UTC moment, to the millisecond. -/
def stamp (m : Moment) : List Char :=
  (Log.yearText m.date.year).toList ++ field 2 m.date.month ++ field 2 m.date.day ++
    field 2 m.hour ++ field 2 m.minute ++ field 2 m.second ++ '.' ::
    field 3 (m.microsecond / 1000)

/-- The name of the file for a batch, given its kind's index and the wall clock.
The instant must have a date in UTC. -/
def fileName (kindIndex : Int) (moment : Moment) : Except Fault String :=
  match moment.toUtc? with
  | none => .error .dateOutOfRange
  | some utc =>
    .ok ("ses_" ++ String.ofList (stamp utc) ++ "_" ++ toString kindIndex ++ ".http")

/-- Where a diagnostic file lies and how many bytes it has. -/
structure Written where
  path : RawText
  size : Nat
  deriving DecidableEq, Repr

/-- The seconds since a send was started, by the steady clock; zero if no start
is known, and then the clock is left alone. -/
def elapsed (startedAt : Option Binary64) (h : Host) : Binary64 × Host :=
  match startedAt with
  | none => (.signedZero false, h)
  | some start =>
    let (now, h) := h.readSteady
    (now.sub start, h)

/-- The path of the file of a given name. -/
def pathIn (outputDir : RawText) (name : String) : RawText :=
  ((Path.ofText outputDir).child name).text

/-- The log line for a file that could not be written. -/
def failureMessage (path : RawText) (cause : String) : RawText :=
  "ERROR: failed to write to file " ++ path ++ ": " ++ cause

/-- Writes bytes to a file, and logs the file or why there is none. -/
def writeFile (path : RawText) (content : List UInt8) (startedAt : Option Binary64) (h : Host) :
    Except Fault (Option Written) × Host :=
  match h.files.openFile path with
  | .error (.refused cause path') =>
    (.ok none, h.error (failureMessage path (FileError.refused cause path').message))
  | .error e => (.error (.file e), h)
  | .ok place =>
    match h.store place content with
    | (some cause, h) => (.ok none, h.error (failureMessage path cause.message))
    | (none, h) =>
      let (seconds, h) := elapsed startedAt h
      let size := content.length
      (.ok (some { path, size }),
        h.info (toString size ++ " bytes written to " ++ path ++ " (" ++ seconds.toFixed 2 ++
          " seconds)"))

/-- Writes a response to its diagnostic file at a given moment. -/
def writeAt (moment : Moment) (r : HttpResponse) (outputDir : RawText) (kindIndex : Int)
    (startedAt : Option Binary64) (h : Host) : Except Fault (Option Written) × Host :=
  match fileName kindIndex moment with
  | .error f => (.error f, h)
  | .ok name =>
    match r.renderBytes with
    | .error f => (.error f, h)
    | .ok content => writeFile (pathIn outputDir name) content startedAt h

/-- Writes a response to its diagnostic file, at the moment the wall clock
shows. -/
def write (r : HttpResponse) (outputDir : RawText) (kindIndex : Int) (startedAt : Option Binary64)
    (h : Host) : Except Fault (Option Written) × Host :=
  let (moment, h) := h.readWall
  writeAt moment r outputDir kindIndex startedAt h

end Diagnostic

end BatchMailer
