import BatchMailer.JsonText

/-!
# BatchMailer.Proofs.Json.Grammar

JSON texts as a strict reader takes them, by the grammar of the standard, rule by
rule.  Each rule relates a text to what it stands for and to what lies behind it,
so `Value input v rest` says that `input` begins with the value `v`, and that
`rest` follows.  A whole text is one value with blanks around it (`Reads`).

Nothing is allowed that the standard leaves to a lenient reader: no comma behind
the last member, no control character in a string, no leading zero, no half of a
surrogate pair.  The members of an object are kept in order, and a name that
occurs twice is kept twice.

What a string stands for is determined by its text (`Chars.unique`).
-/

namespace BatchMailer

/-- What a JSON text stands for.  A number is kept as it is written. -/
inductive Json where
  | null
  | bool (b : Bool)
  | number (text : List Char)
  | string (text : List Char)
  | array (items : List Json)
  | object (members : List (List Char × Json))

namespace Json

open JsonText (quote backslash)

/-! ## blanks and signs -/

/-- The characters that may stand around signs and values. -/
def isBlank (c : Char) : Bool := c == ' ' || c == '\t' || c == '\n' || c == '\r'

/-- Any number of blanks. -/
inductive Blanks : List Char → List Char → Prop where
  | nil (rest : List Char) : Blanks rest rest
  | cons {c : Char} {input rest : List Char} (hc : isBlank c = true) (h : Blanks input rest) :
      Blanks (c :: input) rest

/-- A structural character, with blanks around it. -/
def Sign (c : Char) (input rest : List Char) : Prop :=
  ∃ behind, Blanks input (c :: behind) ∧ Blanks behind rest

/-! ## numbers -/

/-- One digit or more. -/
def Digits (t : List Char) : Prop := t ≠ [] ∧ ∀ c ∈ t, c.isDigit = true

/-- The part of a number in front of the point.  It has no leading zero. -/
def Whole (t : List Char) : Prop := t = ['0'] ∨ Digits t ∧ t.head? ≠ some '0'

/-- The point and the digits behind it. -/
def Fraction (t : List Char) : Prop := ∃ ds, t = '.' :: ds ∧ Digits ds

/-- The power of ten that a number is multiplied by. -/
def Exponent (t : List Char) : Prop :=
  ∃ e sign ds, t = e :: (sign ++ ds) ∧ (e = 'e' ∨ e = 'E') ∧
    (sign = [] ∨ sign = ['+'] ∨ sign = ['-']) ∧ Digits ds

/-- The text of a number. -/
def Number (t : List Char) : Prop :=
  ∃ minus whole fraction exponent, t = minus ++ (whole ++ (fraction ++ exponent)) ∧
    (minus = [] ∨ minus = ['-']) ∧ Whole whole ∧ (fraction = [] ∨ Fraction fraction) ∧
    (exponent = [] ∨ Exponent exponent)

/-! ## strings -/

/-- The characters that stand for others behind a backslash, and for which. -/
def shortEscapes : List (Char × Char) :=
  [(quote, quote), (backslash, backslash), ('/', '/'), ('b', '\x08'), ('f', '\x0c'), ('n', '\n'),
    ('r', '\r'), ('t', '\t')]

/-- The value of a hexadecimal digit, in either case of letters. -/
def hexDigit? (c : Char) : Option Nat :=
  if '0' ≤ c ∧ c ≤ '9' then some (c.toNat - 0x30)
  else if 'a' ≤ c ∧ c ≤ 'f' then some (c.toNat - 0x57)
  else if 'A' ≤ c ∧ c ≤ 'F' then some (c.toNat - 0x37)
  else none

/-- The number of four hexadecimal digits, and what follows them. -/
def codeUnit? : List Char → Option (Nat × List Char)
  | a :: b :: c :: d :: rest =>
    match hexDigit? a, hexDigit? b, hexDigit? c, hexDigit? d with
    | some a, some b, some c, some d => some (((a * 16 + b) * 16 + c) * 16 + d, rest)
    | _, _, _, _ => none
  | _ => none

/-- The code point of a surrogate pair. -/
def pairPoint (high low : Nat) : Nat := 0x10000 + (high - 0xD800) * 0x400 + (low - 0xDC00)

/-- One character of a string, as itself or escaped. -/
inductive Character : List Char → Char → List Char → Prop where
  | unescaped {c : Char} (hcontrol : 0x20 ≤ c.toNat) (hquote : c ≠ quote)
      (hbackslash : c ≠ backslash) (rest : List Char) : Character (c :: rest) c rest
  | short {e c : Char} (h : shortEscapes.lookup e = some c) (rest : List Char) :
      Character (backslash :: e :: rest) c rest
  | unit {input rest : List Char} {n : Nat} (h : codeUnit? input = some (n, rest))
      (hn : n < 0xD800 ∨ 0xDFFF < n) :
      Character (backslash :: 'u' :: input) (Char.ofNat n) rest
  | pair {input between rest : List Char} {high low : Nat}
      (hhigh : codeUnit? input = some (high, backslash :: 'u' :: between))
      (hlow : codeUnit? between = some (low, rest)) (hh : 0xD800 ≤ high ∧ high ≤ 0xDBFF)
      (hl : 0xDC00 ≤ low ∧ low ≤ 0xDFFF) :
      Character (backslash :: 'u' :: input) (Char.ofNat (pairPoint high low)) rest

/-- The characters of a string up to its closing quote. -/
inductive Chars : List Char → List Char → List Char → Prop where
  | close (rest : List Char) : Chars (quote :: rest) [] rest
  | cons {input between rest : List Char} {c : Char} {cs : List Char}
      (hc : Character input c between) (h : Chars between cs rest) : Chars input (c :: cs) rest

/-- A string with its quotes. -/
def Quoted (input cs rest : List Char) : Prop := ∃ behind, input = quote :: behind ∧
  Chars behind cs rest

/-! ## values -/

mutual

/-- A value in front of what follows it. -/
inductive Value : List Char → Json → List Char → Prop where
  | null (rest : List Char) : Value ("null".toList ++ rest) .null rest
  | true (rest : List Char) : Value ("true".toList ++ rest) (.bool .true) rest
  | false (rest : List Char) : Value ("false".toList ++ rest) (.bool .false) rest
  | number {t : List Char} (h : Number t) (rest : List Char) : Value (t ++ rest) (.number t) rest
  | string {input cs rest : List Char} (h : Quoted input cs rest) : Value input (.string cs) rest
  | emptyArray {input body rest : List Char} (hopen : Sign '[' input body)
      (hclose : Sign ']' body rest) : Value input (.array []) rest
  | array {input body after rest : List Char} {items : List Json} (hopen : Sign '[' input body)
      (h : Items body items after) (hclose : Sign ']' after rest) : Value input (.array items) rest
  | emptyObject {input body rest : List Char} (hopen : Sign '\x7b' input body)
      (hclose : Sign '\x7d' body rest) : Value input (.object []) rest
  | object {input body after rest : List Char} {ms : List (List Char × Json)}
      (hopen : Sign '\x7b' input body) (h : Members body ms after)
      (hclose : Sign '\x7d' after rest) : Value input (.object ms) rest

/-- The items of an array that is not empty. -/
inductive Items : List Char → List Json → List Char → Prop where
  | last {input rest : List Char} {v : Json} (h : Value input v rest) : Items input [v] rest
  | more {input between back rest : List Char} {v : Json} {vs : List Json}
      (h : Value input v between) (hsep : Sign ',' between back) (hmore : Items back vs rest) :
      Items input (v :: vs) rest

/-- The members of an object that is not empty. -/
inductive Members : List Char → List (List Char × Json) → List Char → Prop where
  | last {input rest : List Char} {m : List Char × Json} (h : Member input m rest) :
      Members input [m] rest
  | more {input between back rest : List Char} {m : List Char × Json}
      {ms : List (List Char × Json)} (h : Member input m between) (hsep : Sign ',' between back)
      (hmore : Members back ms rest) : Members input (m :: ms) rest

/-- A member of an object: its name and its value. -/
inductive Member : List Char → List Char × Json → List Char → Prop where
  | mk {input between back rest name : List Char} {v : Json} (hname : Quoted input name between)
      (hsep : Sign ':' between back) (h : Value back v rest) : Member input (name, v) rest

end

/-- A text that stands for a value. -/
def Reads (text : List Char) (v : Json) : Prop :=
  ∃ front back, Blanks text front ∧ Value front v back ∧ Blanks back []

/-! ## what a text can be -/

section

variable {c d : Char} {input rest : List Char}

theorem Blanks.eq_nil (h : Blanks [] rest) : rest = [] := by
  cases h
  rfl

/-- Where there is no blank, none is left out. -/
theorem Blanks.eq_cons (h : Blanks (c :: input) rest) (hc : isBlank c = false) :
    rest = c :: input := by
  cases h with
  | nil => rfl
  | cons hblank => rw [hblank] at hc; contradiction

/-- A sign that stands there without blanks in front of it. -/
theorem Sign.of_cons (h : Sign d (c :: input) rest) (hc : isBlank c = false) :
    c = d ∧ Blanks input rest := by
  obtain ⟨behind, hfront, hback⟩ := h
  obtain ⟨rfl, rfl⟩ := List.cons.inj (hfront.eq_cons hc)
  exact ⟨rfl, hback⟩

theorem Sign.iff_cons (hc : isBlank c = false) : Sign c (c :: input) rest ↔ Blanks input rest :=
  ⟨fun h => (h.of_cons hc).2, fun h => ⟨input, .nil _, h⟩⟩

/-- A number begins with a sign or a digit. -/
theorem exists_head_of_number (h : Number input) :
    ∃ c behind, input = c :: behind ∧ (c = '-' ∨ c.isDigit = true) := by
  obtain ⟨minus, whole, fraction, exponent, rfl, hminus, hwhole, -⟩ := h
  obtain rfl | rfl := hminus
  · obtain rfl | ⟨⟨hne, hdigits⟩, -⟩ := hwhole
    · exact ⟨'0', _, rfl, .inr rfl⟩
    · cases whole with
      | nil => contradiction
      | cons c more => exact ⟨c, _, rfl, .inr (hdigits c List.mem_cons_self)⟩
  · exact ⟨'-', _, rfl, .inl rfl⟩

theorem Character.ne_quote {behind : List Char} (h : Character (c :: behind) d rest) :
    c ≠ quote := by
  cases h with
  | unescaped hcontrol hquote => exact hquote
  | short => decide
  | unit => decide
  | pair => decide

end

/-! ## strings are read in one way -/

theorem Character.unique {input rest rest' : List Char} {c d : Char} (h : Character input c rest)
    (h' : Character input d rest') : c = d ∧ rest = rest' := by
  have hu : shortEscapes.lookup 'u' = none := by decide
  cases h with
  | unescaped hcontrol hquote hbackslash =>
      cases h' with
      | unescaped => exact ⟨rfl, rfl⟩
      | short => contradiction
      | unit => contradiction
      | pair => contradiction
  | short hc =>
      cases h' with
      | unescaped hcontrol hquote hbackslash => contradiction
      | short hd =>
          rw [hc] at hd
          exact ⟨Option.some.inj hd, rfl⟩
      | unit => rw [hu] at hc; contradiction
      | pair => rw [hu] at hc; contradiction
  | unit hunit hn =>
      cases h' with
      | unescaped hcontrol hquote hbackslash => contradiction
      | short hd => rw [hu] at hd; contradiction
      | unit hunit' =>
          rw [hunit] at hunit'
          cases hunit'
          exact ⟨rfl, rfl⟩
      | pair hhigh _ hh =>
          rw [hunit] at hhigh
          cases hhigh
          omega
  | pair hhigh hlow hh hl =>
      cases h' with
      | unescaped hcontrol hquote hbackslash => contradiction
      | short hd => rw [hu] at hd; contradiction
      | unit hunit hn =>
          rw [hhigh] at hunit
          cases hunit
          omega
      | pair hhigh' hlow' =>
          rw [hhigh] at hhigh'
          cases hhigh'
          rw [hlow] at hlow'
          cases hlow'
          exact ⟨rfl, rfl⟩

/-- What a string stands for, and where it ends, is determined by its text. -/
theorem Chars.unique {input cs ds rest rest' : List Char} (h : Chars input cs rest)
    (h' : Chars input ds rest') : cs = ds ∧ rest = rest' := by
  induction h generalizing ds with
  | close rest =>
      cases h' with
      | close => exact ⟨rfl, rfl⟩
      | cons hd => exact absurd rfl hd.ne_quote
  | cons hc _ ih =>
      cases h' with
      | close => exact absurd rfl hc.ne_quote
      | cons hd hmore =>
          obtain ⟨rfl, rfl⟩ := hc.unique hd
          obtain ⟨rfl, rfl⟩ := ih hmore
          exact ⟨rfl, rfl⟩

theorem Quoted.unique {input cs ds rest rest' : List Char} (h : Quoted input cs rest)
    (h' : Quoted input ds rest') : cs = ds ∧ rest = rest' := by
  obtain ⟨behind, rfl, hchars⟩ := h
  obtain ⟨behind', heq, hchars'⟩ := h'
  cases heq
  exact hchars.unique hchars'

end Json

end BatchMailer
