import BatchMailer.Store

/-!
# BatchMailer.Wire

The wire format of records, and the decoder that reads it one byte at a time.

A record is one kind byte and four data fields, each closed by a delimiter.  A
comma and a line feed are both delimiters, and nothing escapes them; the fourth
delimiter after the kind's own closes the record.  Every line feed is reported
as the end of a line, whether or not it closes a record, so a record may span
lines and a line may hold several records.

The decoder fills the store it is given and never flushes it.  It checks each
byte before it takes it: a refused byte leaves decoder and store as they were,
except that a record refused by its batch is gone and the decoder waits for the
next one.
-/

namespace BatchMailer

namespace Wire

/-- The byte between two fields. -/
def comma : UInt8 := 0x2C

/-- The byte at the end of a line. -/
def lineFeed : UInt8 := 0x0A

/-- Whether a byte closes a field. -/
def isDelimiter (b : UInt8) : Bool := b == comma || b == lineFeed

/-- The kind a byte announces. -/
def readKind (b : UInt8) : Except WireError Kind :=
  match Kind.ofToken? b with
  | some kind => .ok kind
  | none => .error (.unknownKind b)

/-- The part of an input that makes up its first `count` lines, or all of it if
there are fewer. -/
def takeLines : (count : Nat) → List UInt8 → List UInt8
  | 0, _ => []
  | _, [] => []
  | count + 1, b :: rest => b :: takeLines (if b = lineFeed then count else count + 1) rest

end Wire

/-- A half-read record.  `index` counts the delimiters seen since the record
began: at zero the kind byte is awaited, from one on it is the number of the
field being read. -/
structure Decoder where
  kind : Option Kind
  index : Int
  field : List UInt8
  fields : List (List UInt8)
  deriving DecidableEq, Repr

namespace Decoder

/-- A decoder at the beginning of a record. -/
def fresh : Decoder := { kind := none, index := 0, field := [], fields := [] }

/-- How many bytes of the current field have been read. -/
def fieldLength (d : Decoder) : Nat := d.field.length

end Decoder

/-- Whether a byte ended a line. -/
inductive LineEvent where
  | continues
  | complete
  deriving DecidableEq, Repr

/-- A decoder and the store it fills. -/
structure Intake where
  decoder : Decoder
  store : Store
  deriving DecidableEq, Repr

namespace Intake

/-- An intake at the beginning of a record, with empty batches. -/
def new (capacity : Int) : Intake := { decoder := .fresh, store := .new capacity }

/-- Drops a half-read record. -/
def reset (s : Intake) : Intake := { s with decoder := .fresh }

/-- Puts the record that has been read into its batch. -/
def finishRecord (s : Intake) : Except WireError Unit × Intake :=
  match s.decoder.kind with
  | none => (.error .closedWithoutKind, s)
  | some kind =>
    match Record.ofFields? kind s.decoder.fields with
    | none => (.error (.fieldCount s.decoder.fields.length), s)
    | some record =>
      match s.store.add record with
      | .error e => (.error e, s.reset)
      | .ok store => (.ok (), { decoder := .fresh, store })

/-- Closes the current field, and the record with its last one. -/
def closeField (s : Intake) : Except WireError Unit × Intake :=
  let d := s.decoder
  if d.index = 0 ∧ d.kind = none then (.error .missingKind, s)
  else
    let fields := if d.index = 0 then d.fields else d.fields ++ [d.field]
    let closed := { s with decoder := { d with index := d.index + 1, field := [], fields } }
    if (Record.fieldCount : Int) < d.index + 1 then closed.finishRecord else (.ok (), closed)

/-- Takes the byte of a kind. -/
def takeKind (s : Intake) (b : UInt8) : Except WireError Unit × Intake :=
  match s.decoder.kind with
  | some _ => (.error (.longKind b), s)
  | none =>
    match Wire.readKind b with
    | .error e => (.error e, s)
    | .ok kind => (.ok (), { s with decoder := { s.decoder with kind := some kind } })

/-- Takes one more byte of a field. -/
def takeByte (s : Intake) (b : UInt8) : Except WireError Unit × Intake :=
  if Record.maxFieldLength ≤ s.decoder.fieldLength then
    (.error (.longField s.decoder.index), s)
  else (.ok (), { s with decoder := { s.decoder with field := s.decoder.field ++ [b] } })

/-- What a byte that was taken has done to the line. -/
def report (event : LineEvent) (taken : Except WireError Unit × Intake) :
    Except WireError LineEvent × Intake :=
  (taken.1.map fun _ => event, taken.2)

/-- Takes one byte of the input. -/
def consume (s : Intake) (b : UInt8) : Except WireError LineEvent × Intake :=
  if Wire.isDelimiter b then
    report (if b = Wire.lineFeed then .complete else .continues) s.closeField
  else if s.decoder.index = 0 then report .continues (s.takeKind b)
  else report .continues (s.takeByte b)

/-! ## what a byte can do -/

theorem report_eq_ok_iff {event e : LineEvent} {taken : Except WireError Unit × Intake}
    {t : Intake} : report event taken = (.ok e, t) ↔ taken = (.ok (), t) ∧ e = event := by
  obtain ⟨r, u⟩ := taken
  cases r <;> simp [report, Except.map, eq_comm, and_comm]

/-- Only a line feed ends a line. -/
theorem consume_eq_complete {s t : Intake} {b : UInt8} (h : s.consume b = (.ok .complete, t)) :
    b = Wire.lineFeed := by
  unfold consume at h
  split at h
  · have := (report_eq_ok_iff.1 h).2
    by_cases hb : b = Wire.lineFeed
    · exact hb
    · simp [hb] at this
  · split at h <;> have := (report_eq_ok_iff.1 h).2 <;> contradiction

/-- A line has ended exactly if the byte that was taken is a line feed. -/
theorem eq_lineFeed_iff_of_consume {s t : Intake} {b : UInt8} {event : LineEvent}
    (h : s.consume b = (.ok event, t)) : b = Wire.lineFeed ↔ event = .complete := by
  constructor
  · rintro rfl
    exact (report_eq_ok_iff.1 h).2
  · rintro rfl
    exact consume_eq_complete h

/-- A byte of a field touches neither batch. -/
@[simp] theorem store_takeByte (s : Intake) (b : UInt8) : (s.takeByte b).2.store = s.store := by
  unfold takeByte
  split <;> rfl

@[simp] theorem store_takeKind (s : Intake) (b : UInt8) : (s.takeKind b).2.store = s.store := by
  unfold takeKind
  split
  · rfl
  · split <;> rfl

end Intake

end BatchMailer
