import BatchMailer.Binary64
import BatchMailer.Text.Blank
import BatchMailer.Text.DecimalDigit

/-!
# BatchMailer.Binary64.Reading

Numbers written as text.  A numeral is an optional sign and then a word for
infinity or for no number, in any case of letters, or a decimal: digits with an
optional point among or around them and an optional exponent.  An underscore may
stand between two digits.  Blanks may surround the whole.

Text with characters beyond ASCII is first brought into ASCII: digits of any
script become ASCII digits and every blank becomes a space; a character that is
neither cannot be part of a numeral.
-/

namespace BatchMailer.Binary64

open Text (isBlank isAsciiBlank decimalValue? asciiDigit trimWhere)

/-! ## preparing the text -/

/-- A character of a numeral in ASCII. -/
def toAscii? (c : Char) : Option Char :=
  if c.toNat < 0x7F then some c
  else if isBlank c then some ' '
  else (decimalValue? c).map asciiDigit

/-- The text of a numeral in ASCII, without the blanks around it.  Text that is
in ASCII already is taken as it is. -/
def asciiNumeral? (cs : List Char) : Option (List Char) :=
  let ascii := if cs.all (·.toNat < 0x80) then some cs else cs.mapM toAscii?
  ascii.map (trimWhere isAsciiBlank)

/-- Takes the underscores out of a numeral in which each stands between two
digits.  `afterDigit` tells whether a digit came just before. -/
def joinDigits? (afterDigit : Bool) : List Char → Option (List Char)
  | [] => some []
  | '_' :: rest =>
    match rest with
    | c :: _ => if afterDigit && c.isDigit then joinDigits? false rest else none
    | [] => none
  | c :: rest => (joinDigits? c.isDigit rest).map (c :: ·)

/-! ## the grammar of numerals -/

/-- An optional sign and what follows it. -/
def takeSign : List Char → Bool × List Char
  | '-' :: rest => (true, rest)
  | '+' :: rest => (false, rest)
  | cs => (false, cs)

/-- The digits at the front and what follows them. -/
def takeDigits (cs : List Char) : List Char × List Char := cs.span Char.isDigit

/-- The value of a list of ASCII digits. -/
def digitsValue (cs : List Char) : Nat :=
  cs.foldl (fun n c => n * 10 + (c.toNat - 0x30)) 0

/-- A fraction, if the text goes on with a point. -/
def takeFraction : List Char → List Char × List Char
  | '.' :: rest => takeDigits rest
  | cs => ([], cs)

/-- The exponent a numeral ends with; none is zero. -/
def exponent? : List Char → Option Int
  | [] => some 0
  | c :: rest =>
    if c = 'e' ∨ c = 'E' then
      let (negative, digits) := takeSign rest
      if digits ≠ [] ∧ digits.all Char.isDigit then some (signed negative (digitsValue digits))
      else none
    else none

/-- A decimal without its sign. -/
def decimal? (negative : Bool) (cs : List Char) : Option Binary64 :=
  let (whole, rest) := takeDigits cs
  let (fraction, rest) := takeFraction rest
  if whole ++ fraction = [] then none
  else (exponent? rest).map fun exponent =>
    ofDecimal negative (digitsValue (whole ++ fraction)) (exponent - fraction.length)

/-- A word without its sign. -/
def word? (negative : Bool) (cs : List Char) : Option Binary64 :=
  let word := String.ofList (cs.map Char.toLower)
  if word = "inf" ∨ word = "infinity" then some (infinity negative)
  else if word = "nan" then some nan
  else none

/-- The number a text stands for, if it is a numeral. -/
def ofText? (text : String) : Option Binary64 := do
  let ascii ← asciiNumeral? text.toList
  let cs ← joinDigits? false ascii
  let (negative, magnitude) := takeSign cs
  word? negative magnitude <|> decimal? negative magnitude

end BatchMailer.Binary64
