import BatchMailer.Text.Quoted

/-!
# BatchMailer.Value

Loosely typed values, as a sender reports them: the mailer passes them on, asks
whether there is anything in them, and writes them into log lines.

A text is written as it is (`Value.display`), and inside a list or a table it is
quoted (`Value.quoted`).  An integer of very many digits is not written at all, nor
is what holds one (`Value.isWritable`).
-/

namespace BatchMailer

/-- A value without a fixed type. -/
inductive Value where
  | null
  | bool (b : Bool)
  | int (n : Int)
  | text (s : RawText)
  | list (items : List Value)
  | table (entries : List (String × Value))
  deriving Repr

namespace Value

/-- The name of a value's type, as error texts give it. -/
def typeName : Value → String
  | null => "NoneType"
  | bool _ => "bool"
  | int _ => "int"
  | text _ => "str"
  | list _ => "list"
  | table _ => "dict"

/-- Whether a value is a table. -/
def isTable : Value → Bool
  | table _ => true
  | _ => false

/-- Whether there is nothing in a value: no value, `false`, zero, or an empty
text, list or table. -/
def isBlank : Value → Bool
  | null => true
  | bool b => !b
  | int n => n == 0
  | text s => s.isEmpty
  | list items => items.isEmpty
  | table entries => entries.isEmpty

/-- The entry of a table under a key. -/
def entry? (key : String) : List (String × Value) → Option Value
  | [] => none
  | (k, v) :: rest => if k = key then some v else entry? key rest

/-- The items of a value that has any: those of a list, the code points of a
text, the keys of a table. -/
def items? : Value → Option (List Value)
  | list items => some items
  | text s => some (s.map fun c => text [c])
  | table entries => some (entries.map fun e => text e.1)
  | _ => none

/-- An integer in decimal digits. -/
def intText (n : Int) : String := toString n

/-- The most digits an integer may have to be written out. -/
def maxDigits : Nat := 4300

/-- Whether an integer may be written out; a sign does not count. -/
def isShort (n : Int) : Bool := (Nat.toDigits 10 n.natAbs).length ≤ maxDigits

mutual

/-- Whether a value can be written: no integer in it is too long. -/
def isWritable : Value → Bool
  | int n => isShort n
  | list items => areWritable items
  | table entries => entriesWritable entries
  | _ => true

/-- Whether the items of a list can be written. -/
def areWritable : List Value → Bool
  | [] => true
  | v :: rest => v.isWritable && areWritable rest

/-- Whether the entries of a table can be written. -/
def entriesWritable : List (String × Value) → Bool
  | [] => true
  | (_, v) :: rest => v.isWritable && entriesWritable rest

end

mutual

/-- A value as it is written inside a list or a table. -/
def quoted : Value → String
  | null => "None"
  | bool b => if b then "True" else "False"
  | int n => intText n
  | text s => Text.quoted s
  | list items => "[" ++ ", ".intercalate (quotedItems items) ++ "]"
  | table entries => "\x7b" ++ ", ".intercalate (quotedEntries entries) ++ "\x7d"

/-- The items of a list as they are written. -/
def quotedItems : List Value → List String
  | [] => []
  | v :: rest => v.quoted :: quotedItems rest

/-- The entries of a table as they are written. -/
def quotedEntries : List (String × Value) → List String
  | [] => []
  | (k, v) :: rest => (Text.quoted k ++ ": " ++ v.quoted) :: quotedEntries rest

end

/-- A value as it is written on its own. -/
def display : Value → RawText
  | text s => s
  | v => v.quoted

/-- A value that may be missing, as it is written on its own; a missing one is
written like no value. -/
def displayOption (v : Option Value) : RawText := (v.getD null).display

/-- A value as it is written on its own, if it can be written. -/
def display? (v : Value) : Option RawText := if v.isWritable then some v.display else none

@[simp] theorem display_text (s : RawText) : (text s).display = s := rfl

@[simp] theorem display?_text (s : RawText) : (text s).display? = some s := by
  simp [display?, isWritable]

end Value

end BatchMailer
