import BatchMailer.Text.Digits
import BatchMailer.Text.Printable
import BatchMailer.Text.RawText

/-!
# BatchMailer.Text.Quoted

Quoted texts and bytes, as error messages show them.  A text stands between
single quotes, or between double quotes if it holds a single quote and no double
one.  The backslash and the quote in use are escaped by a backslash; tab, line
feed and carriage return have letters of their own; every other code point that
is not printable is written by its number in two, four or eight hexadecimal
digits.  Surrogates are not printable, so what is quoted is a string again.

Where a text is put out without quotes, surrogates alone are written by their
numbers (`escaped`).
-/

namespace BatchMailer.Text

/-- The single quote. -/
def singleQuote : Char := '\x27'

/-- The double quote. -/
def doubleQuote : Char := '\x22'

/-- The backslash. -/
def backslash : Char := '\x5c'

/-- The quote a text is written between. -/
def quoteFor (t : RawText) : Char :=
  if t.contains (.char singleQuote) && !t.contains (.char doubleQuote) then doubleQuote
  else singleQuote

/-- The number of a code point in the fewest of two, four or eight digits. -/
def escapeCode (n : Nat) : List Char :=
  if n < 0x100 then backslash :: 'x' :: digits 16 2 n
  else if n < 0x10000 then backslash :: 'u' :: digits 16 4 n
  else backslash :: 'U' :: digits 16 8 n

/-- A character as it is written between quotes. -/
def quoteChar (quote c : Char) : List Char :=
  if c = quote ∨ c = backslash then [backslash, c]
  else if c = '\t' then [backslash, 't']
  else if c = '\n' then [backslash, 'n']
  else if c = '\r' then [backslash, 'r']
  else if isPrintable c then [c]
  else escapeCode c.toNat

/-- A code point as it is written between quotes. -/
def quotePoint (quote : Char) : CodePoint → List Char
  | .char c => quoteChar quote c
  | point => escapeCode point.toNat

/-- The quoted form of a text. -/
def quoted (t : RawText) : String :=
  let quote := quoteFor t
  String.ofList (quote :: t.flatMap (quotePoint quote) ++ [quote])

/-- A code point as it is put out without quotes. -/
def escapePoint : CodePoint → List Char
  | .char c => [c]
  | point => escapeCode point.toNat

/-- A text as it is put out without quotes. -/
def escaped (t : RawText) : String := String.ofList (t.flatMap escapePoint)

/-- Whether a byte may stand for itself between quotes: a printable ASCII one. -/
def isPlainByte (b : UInt8) : Bool := 0x20 ≤ b && b < 0x7F

/-- The quoted form of a single byte, marked by the letter `b`.  Bytes outside
printable ASCII are written in hexadecimal. -/
def quotedByte (b : UInt8) : String :=
  let c := Char.ofNat b.toNat
  let quote := quoteFor [.char c]
  let body :=
    if isPlainByte b || c = '\t' || c = '\n' || c = '\r' then quoteChar quote c
    else escapeCode c.toNat
  String.ofList ('b' :: quote :: body ++ [quote])

end BatchMailer.Text
