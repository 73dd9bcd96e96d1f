import BatchMailer.Binary64
import BatchMailer.Calendar
import BatchMailer.FileTree
import BatchMailer.Log

/-!
# BatchMailer.Host

The machine the mailer works on, as far as it can be noticed: two clocks, the
files below the working directory, the disk they lie on, the log, and what was
printed.

Clocks are sequences of readings, the last of which repeats.  The log and the
printed text only ever grow.  A disk can give out while a file is written: the file
is open by then, so what it held before is lost, and it holds the bytes that were
taken (`Host.store`).
-/

namespace BatchMailer

/-- A clock: what it shows now, and what it will show after that, one reading at
a time.  The last reading repeats. -/
structure Clock (α : Type) where
  now : α
  later : List α
  deriving Repr

/-- The clock after a reading. -/
def Clock.advance {α : Type} (c : Clock α) : Clock α :=
  match c.later with
  | [] => c
  | next :: rest => ⟨next, rest⟩

/-- Why a disk takes no more bytes. -/
inductive DiskError where
  | inputOutput
  | tooLarge
  | noSpace
  | quota
  deriving DecidableEq, Repr

namespace DiskError

/-- The number of an error. -/
def number : DiskError → Nat
  | inputOutput => 5
  | tooLarge => 27
  | noSpace => 28
  | quota => 122

/-- An error in words. -/
def description : DiskError → String
  | inputOutput => "Input/output error"
  | tooLarge => "File too large"
  | noSpace => "No space left on device"
  | quota => "Disk quota exceeded"

/-- The wording of an error. -/
def message (e : DiskError) : String := systemMessage e.number e.description

end DiskError

/-- A write that fails: why, and how many bytes are taken before. -/
structure Shortfall where
  cause : DiskError
  taken : Nat
  deriving DecidableEq, Repr

/-- Clocks, files, disk, log and printed text.  The disk says of each file to be written
next whether writing it fails; when that is used up, none fails. -/
structure Host where
  wall : Clock Moment
  steady : Clock Binary64
  files : FileTree
  disk : List (Option Shortfall)
  log : List Log.Entry
  printed : String
  deriving Repr

namespace Host

/-- A host with nothing logged or printed yet, and a disk that does not give out. -/
def start (wall : Clock Moment) (steady : Clock Binary64) (files : FileTree) : Host :=
  { wall, steady, files, disk := [], log := [], printed := "" }

/-- One more log entry. -/
def note (h : Host) (severity : Log.Severity) (message : Option RawText) : Host :=
  { h with log := h.log ++ [⟨severity, message⟩] }

/-- One more log entry of severity `info`. -/
def info (h : Host) (message : RawText) : Host := h.note .info (some message)

/-- One more log entry of severity `error`. -/
def error (h : Host) (message : RawText) : Host := h.note .error (some message)

/-- More text printed. -/
def print (h : Host) (text : String) : Host := { h with printed := h.printed ++ text }

/-- What becomes of the next file that is written. -/
def nextShortfall (h : Host) : Option Shortfall := h.disk.head?.join

/-- Writes an open file at its place, and tells why the disk gave out, if it did. -/
def store (h : Host) (place : Place) (content : List UInt8) : Option DiskError × Host :=
  match h.nextShortfall with
  | none =>
    (none, { h with files := h.files.put place (.file content), disk := h.disk.tail })
  | some shortfall =>
    (some shortfall.cause,
      { h with
        files := h.files.put place (.file (content.take shortfall.taken))
        disk := h.disk.tail })

/-- Reads the wall clock. -/
def readWall (h : Host) : Moment × Host := (h.wall.now, { h with wall := h.wall.advance })

/-- Reads the steady clock. -/
def readSteady (h : Host) : Binary64 × Host := (h.steady.now, { h with steady := h.steady.advance })

@[simp] theorem log_note (h : Host) (severity : Log.Severity) (message : Option RawText) :
    (h.note severity message).log = h.log ++ [⟨severity, message⟩] := rfl

@[simp] theorem files_note (h : Host) (severity : Log.Severity) (message : Option RawText) :
    (h.note severity message).files = h.files := rfl

@[simp] theorem printed_note (h : Host) (severity : Log.Severity) (message : Option RawText) :
    (h.note severity message).printed = h.printed := rfl

@[simp] theorem printed_print (h : Host) (text : String) :
    (h.print text).printed = h.printed ++ text := rfl

@[simp] theorem log_print (h : Host) (text : String) : (h.print text).log = h.log := rfl

@[simp] theorem files_print (h : Host) (text : String) : (h.print text).files = h.files := rfl

end Host

end BatchMailer
