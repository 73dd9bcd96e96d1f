/-!
# BatchMailer.Text.RawText

Texts as they come from outside, as lists of code points.

A code point is a character or a surrogate, half of a character that stands
alone.  Reports of senders, bodies of responses and paths may hold surrogates;
the mailer's own wordings are strings, which hold characters only, and are texts
where a text is expected.  A surrogate has no place in UTF-8, so a text with one
cannot be written to a file as it is.
-/

namespace BatchMailer

/-- A code point of a text: a character, or a surrogate by its number among them. -/
inductive CodePoint where
  | char (c : Char)
  | surrogate (n : Fin 0x800)
  deriving DecidableEq, Repr

namespace CodePoint

/-- The number of the first surrogate. -/
def firstSurrogate : Nat := 0xD800

/-- The number of a code point. -/
def toNat : CodePoint → Nat
  | char c => c.toNat
  | surrogate n => firstSurrogate + n

/-- Whether a code point is no character. -/
def isSurrogate : CodePoint → Bool
  | char _ => false
  | surrogate _ => true

end CodePoint

/-- A text that may hold surrogates. -/
abbrev RawText : Type := List CodePoint

namespace RawText

/-- The text of characters. -/
def ofChars (cs : List Char) : RawText := cs.map .char

/-- The text of a string. -/
def ofString (s : String) : RawText := ofChars s.toList

instance : Coe String RawText := ⟨ofString⟩

theorem ofChars_injective {cs ds : List Char} (h : ofChars cs = ofChars ds) : cs = ds :=
  (List.map_inj_right fun _ _ => CodePoint.char.inj).1 h

theorem ofString_injective {s t : String} (h : ofString s = ofString t) : s = t :=
  String.toList_inj.1 (ofChars_injective h)

@[simp] theorem ofString_append (s t : String) :
    ofString (s ++ t) = ofString s ++ ofString t := by
  simp [ofString, ofChars]

@[simp] theorem ofString_ofList (cs : List Char) : ofString (String.ofList cs) = ofChars cs := by
  simp [ofString]

theorem mem_ofChars_iff {c : CodePoint} {cs : List Char} :
    c ∈ ofChars cs ↔ ∃ d ∈ cs, c = .char d := by
  simp [ofChars, eq_comm]

end RawText

end BatchMailer
