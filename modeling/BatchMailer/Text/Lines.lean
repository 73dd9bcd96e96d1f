/-!
# BatchMailer.Text.Lines

Cutting a text into lines.  A line ends at any of the boundaries below; a
carriage return and a line feed after it are one boundary.  A text that ends in
a boundary has no empty line behind it.
-/

namespace BatchMailer.Text

/-- The code points that end a line: line feed, vertical tab, form feed, carriage
return, three of the ASCII separators, next line, and the Unicode line and
paragraph separators. -/
def lineBreaks : List Nat :=
  [0xA, 0xB, 0xC, 0xD, 0x1C, 0x1D, 0x1E, 0x85, 0x2028, 0x2029]

/-- Whether a character ends a line. -/
def isLineBreak (c : Char) : Bool := lineBreaks.contains c.toNat

/-- The lines of a text, without their ends. -/
def lines : List Char → List (List Char)
  | [] => []
  | '\r' :: '\n' :: rest => [] :: lines rest
  | c :: rest =>
    if isLineBreak c then [] :: lines rest
    else
      match lines rest with
      | [] => [[c]]
      | line :: more => (c :: line) :: more

@[simp] theorem lines_nil : lines [] = [] := rfl

/-- A character that ends no line joins the line that follows it. -/
theorem lines_cons_of_not_break {c : Char} (h : isLineBreak c = false) (rest : List Char) :
    lines (c :: rest) = (c :: (lines rest).headD []) :: (lines rest).tail := by
  have hc : c ≠ '\r' := by rintro rfl; simp [isLineBreak, lineBreaks] at h
  rw [lines]
  · simp only [h, Bool.false_eq_true, if_false]
    cases lines rest <;> rfl
  · intro r hr
    exact absurd hr hc

end BatchMailer.Text
