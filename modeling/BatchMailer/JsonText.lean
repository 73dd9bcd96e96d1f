import BatchMailer.Text.Digits

/-!
# BatchMailer.JsonText

JSON objects whose values are all strings, in their shortest form: no blanks
between tokens, and no character escaped that need not be.

Between its quotes a string holds every character as it is, except the double
quote, the backslash and the control characters below U+0020; of these, five
have a letter and the others are written as `\u` and four hexadecimal digits.
-/

namespace BatchMailer.JsonText

open Text (digits)

/-- The double quote. -/
def quote : Char := '\x22'

/-- The backslash. -/
def backslash : Char := '\x5c'

/-- A character as it is written inside a string. -/
def escapeChar (c : Char) : List Char :=
  if c = quote ∨ c = backslash then [backslash, c]
  else if c = '\n' then [backslash, 'n']
  else if c = '\r' then [backslash, 'r']
  else if c = '\t' then [backslash, 't']
  else if c = '\x08' then [backslash, 'b']
  else if c = '\x0c' then [backslash, 'f']
  else if c.toNat < 0x20 then backslash :: 'u' :: digits 16 4 c.toNat
  else [c]

/-- A string with its quotes. -/
def string (cs : List Char) : List Char := quote :: cs.flatMap escapeChar ++ [quote]

/-- A member of an object: its key, a colon and its value. -/
def member (m : String × List Char) : List Char := string m.1.toList ++ ':' :: string m.2

/-- The members of an object with commas between them. -/
def members : List (String × List Char) → List Char
  | [] => []
  | [m] => member m
  | m :: more => member m ++ ',' :: members more

/-- An object, its members in the order given. -/
def object (ms : List (String × List Char)) : List Char :=
  '\x7b' :: members ms ++ ['\x7d']

/-- A backslash and a character that is no control character make two such. -/
theorem not_control_of_mem_pair {c d : Char} (hc : 0x20 ≤ c.toNat) (h : d ∈ [backslash, c]) :
    0x20 ≤ d.toNat := by
  simp only [List.mem_cons, List.not_mem_nil, or_false] at h
  rcases h with rfl | rfl
  · decide
  · exact hc

/-- Nothing that a string writes is a control character. -/
theorem not_control_of_mem_escapeChar {c d : Char} (h : d ∈ escapeChar c) : 0x20 ≤ d.toNat := by
  unfold escapeChar at h
  split at h
  · rename_i hc
    refine not_control_of_mem_pair ?_ h
    rcases hc with rfl | rfl <;> decide
  iterate 5
    split at h
    · exact not_control_of_mem_pair (by decide) h
  split at h
  · simp only [List.mem_cons] at h
    rcases h with rfl | rfl | h
    · decide
    · decide
    · obtain ⟨v, hv, rfl⟩ := Text.exists_digit_of_mem_digits (by decide) h
      exact Nat.le_trans (by decide) (Text.toNat_digit_ge ⟨v, hv⟩)
  · simp only [List.mem_singleton] at h
    subst h
    omega

end BatchMailer.JsonText
