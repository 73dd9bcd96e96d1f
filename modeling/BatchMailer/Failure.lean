import BatchMailer.FileTree
import BatchMailer.Kind
import BatchMailer.Record
import BatchMailer.Value

/-!
# BatchMailer.Failure

Everything that can go wrong while mail is taken in and sent out.

* `WireError`: the input, or a record, does not fit;
* `Failure`: something outside the mailer gave up, the input stream or a sender;
* `Fault`: either of these, or a value the mailer cannot work with.

A fault belongs to a `Cause`, which decides what becomes of a run it ends.
-/

namespace BatchMailer

/-- What kind of trouble ends a run. -/
inductive Cause where
  | interrupt
  | malformedInput
  | inputOutput
  | other
  deriving DecidableEq, Repr

/-! ## records that do not fit -/

/-- Why a byte or a record was refused. -/
inductive WireError where
  | unknownKind (byte : UInt8)
  | longKind (byte : UInt8)
  | missingKind
  | closedWithoutKind
  | longField (index : Int)
  | batchFull (kind : Kind) (capacity : Int)
  | fieldCount (count : Nat)
  | wrongBatch (record batch : Kind)
  deriving DecidableEq, Repr

namespace WireError

/-- The wording of a refusal. -/
def message : WireError → String
  | unknownKind byte => "unknown identifier " ++ Text.quotedByte byte
  | longKind byte =>
    "kind token is longer than one byte (extra byte " ++ Text.quotedByte byte ++ ")"
  | missingKind => "record starts with a delimiter, kind token missing"
  | closedWithoutKind => "record closed without a kind token"
  | longField index =>
    "field " ++ toString index ++ " exceeds " ++ toString Record.maxFieldLength ++ " bytes"
  | batchFull kind capacity =>
    kind.name ++ " batch already holds " ++ toString capacity ++ " records"
  | fieldCount count =>
    "record needs " ++ toString Record.fieldCount ++ " fields, got " ++ toString count
  | wrongBatch record batch => record.name ++ " record cannot join " ++ batch.name ++ " batch"

/-- A record with the wrong number of fields, or in the wrong batch, is not the
fault of the input: no input can bring it about. -/
def cause : WireError → Cause
  | fieldCount _ => .other
  | wrongBatch _ _ => .other
  | _ => .malformedInput

end WireError

/-! ## what comes from outside -/

/-- What a stream or a sender gives up with: its cause, its name and its text. -/
structure Failure where
  cause : Cause
  name : String
  text : RawText
  deriving DecidableEq, Repr

namespace Failure

/-- Whether a failure ends a flush: an interrupt does, and nothing else. -/
def isInterrupt (f : Failure) : Bool := f.cause == .interrupt

/-- A failure in words: its name and its text. -/
def described (f : Failure) : RawText := f.name ++ ": " ++ f.text

end Failure

/-! ## faults -/

/-- What can end an operation. -/
inductive Fault where
  | wire (e : WireError)
  | outside (f : Failure)
  | file (e : FileError)
  | dateOutOfRange
  | notIterable (typeName : String)
  | longInteger
  | unencodable (e : Text.EncodeError)
  deriving DecidableEq, Repr

namespace Fault

/-- The wording for a value whose items are asked for and that has none. -/
def notIterableMessage (typeName : String) : String :=
  Text.quoted typeName ++ " object is not iterable"

/-- The wording for an integer that is too long to be written out. -/
def longIntegerMessage : String :=
  "Exceeds the limit (" ++ toString Value.maxDigits ++ " digits) for integer string conversion; " ++
    "use sys.set_int_max_str_digits() to increase the limit"

/-- The wording of a fault. -/
def message : Fault → RawText
  | wire e => e.message
  | outside f => f.text
  | file e => e.message
  | dateOutOfRange => "date value out of range"
  | notIterable typeName => notIterableMessage typeName
  | longInteger => longIntegerMessage
  | unencodable e => e.message

/-- The cause of a fault. -/
def cause : Fault → Cause
  | wire e => e.cause
  | outside f => f.cause
  | file (.refused _ _) => .inputOutput
  | file (.unencodable _) | file .embeddedNul => .other
  | dateOutOfRange | notIterable _ | longInteger | unencodable _ => .other

/-- The fault that ended something, if one did. -/
def of? {α : Type} : Except Fault α → Option Fault
  | .ok _ => none
  | .error f => some f

theorem of?_eq_some_iff {α : Type} {result : Except Fault α} {f : Fault} :
    of? result = some f ↔ result = .error f := by
  cases result <;> simp [of?]

end Fault

end BatchMailer
