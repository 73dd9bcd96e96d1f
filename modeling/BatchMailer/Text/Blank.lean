/-!
# BatchMailer.Text.Blank

Blank characters, and trimming.  Two classes of blanks are in use: the wide one
(`isBlank`: every Unicode white space, and the four ASCII separators) for
configuration text, and the narrow one (`isAsciiBlank`) around numbers.

`trimWhere` removes a class of elements from both ends; what is left neither
starts nor ends with one (`head?_trimWhere`, `getLast?_trimWhere`).
-/

namespace BatchMailer.Text

/-- The blank code points, as closed ranges in ascending order. -/
def blankRanges : List (Nat × Nat) :=
  [(0x9, 0xD), (0x1C, 0x20), (0x85, 0x85), (0xA0, 0xA0), (0x1680, 0x1680), (0x2000, 0x200A),
   (0x2028, 0x2029), (0x202F, 0x202F), (0x205F, 0x205F), (0x3000, 0x3000)]

/-- Whether a character is blank: white space, or one of the ASCII separators
U+001C to U+001F. -/
def isBlank (c : Char) : Bool :=
  blankRanges.any fun range => range.1 ≤ c.toNat && c.toNat ≤ range.2

/-- Whether a character is one of the six blanks that may surround a number. -/
def isAsciiBlank (c : Char) : Bool :=
  c.toNat == 0x20 || (0x9 ≤ c.toNat && c.toNat ≤ 0xD)

variable {α : Type}

/-- Removes the elements of a class from the front. -/
def trimFront (p : α → Bool) (l : List α) : List α := l.dropWhile p

/-- Removes the elements of a class from the back. -/
def trimBack (p : α → Bool) (l : List α) : List α := (l.reverse.dropWhile p).reverse

/-- Removes the elements of a class from both ends. -/
def trimWhere (p : α → Bool) (l : List α) : List α := trimBack p (trimFront p l)

/-- Removes the blanks from both ends of a text. -/
def trim (s : String) : String := String.ofList (trimWhere isBlank s.toList)

/-! ## what trimming leaves -/

/-- A blank around a number is a blank. -/
theorem isBlank_of_isAsciiBlank {c : Char} (h : isAsciiBlank c = true) : isBlank c = true := by
  simp only [isAsciiBlank, Bool.or_eq_true, beq_iff_eq, Bool.and_eq_true, decide_eq_true_eq] at h
  simp only [isBlank, blankRanges, List.any_cons, List.any_nil, Bool.or_eq_true, Bool.and_eq_true,
    decide_eq_true_eq]
  omega

theorem head?_trimFront {p : α → Bool} {l : List α} {a : α}
    (h : (trimFront p l).head? = some a) : p a = false := by
  have := List.head?_dropWhile_not p l
  rw [← trimFront, h] at this
  exact this

theorem getLast?_trimBack {p : α → Bool} {l : List α} {a : α}
    (h : (trimBack p l).getLast? = some a) : p a = false := by
  rw [trimBack, List.getLast?_reverse] at h
  exact head?_trimFront h

theorem trimFront_of_head {p : α → Bool} {l : List α}
    (h : ∀ a, l.head? = some a → p a = false) : trimFront p l = l := by
  cases l with
  | nil => rfl
  | cons a rest => simp [trimFront, h a rfl]

theorem trimBack_of_getLast {p : α → Bool} {l : List α}
    (h : ∀ a, l.getLast? = some a → p a = false) : trimBack p l = l := by
  have : trimFront p l.reverse = l.reverse := trimFront_of_head (by simpa using h)
  simpa [trimBack, trimFront] using congrArg List.reverse this

/-- Trimming leaves no element of the class at the back. -/
theorem getLast?_trimWhere {p : α → Bool} {l : List α} {a : α}
    (h : (trimWhere p l).getLast? = some a) : p a = false :=
  getLast?_trimBack h

/-- A list is what trimming the back leaves of it, before elements of the class. -/
theorem exists_trimBack (p : α → Bool) (l : List α) :
    ∃ right, l = trimBack p l ++ right ∧ ∀ a ∈ right, p a = true := by
  refine ⟨(l.reverse.takeWhile p).reverse, ?_, fun a hc => ?_⟩
  · rw [trimBack, ← List.reverse_append, List.takeWhile_append_dropWhile, List.reverse_reverse]
  · exact List.all_eq_true.1 List.all_takeWhile a (List.mem_reverse.1 hc)

/-- Trimming leaves no element of the class at the front. -/
theorem head?_trimWhere {p : α → Bool} {l : List α} {a : α}
    (h : (trimWhere p l).head? = some a) : p a = false := by
  obtain ⟨tail, htail, -⟩ := exists_trimBack p (trimFront p l)
  have hhead : (trimFront p l).head? = some a := by
    rw [htail, List.head?_append, ← trimWhere, h]
    rfl
  exact head?_trimFront hhead

end BatchMailer.Text
