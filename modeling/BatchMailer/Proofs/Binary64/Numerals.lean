import BatchMailer.Binary64.Reading
import BatchMailer.Proofs.Text.Trimmed
import Mathlib.Data.EReal.Basic
import Mathlib.Data.List.Forall2

/-!
# BatchMailer.Proofs.Binary64.Numerals

What numbers stand for, and which texts stand for no number.

A number other than `nan` has a value on the extended real line (`value?`), and the
two tests of its sign say where this value lies (`isPositive_iff`,
`isAtMostZero_iff`).  A text is read as `nan` exactly if it spells it: the word in any
case of letters, with a sign or without and blanks around it
(`ofText?_eq_nan_iff`).  No decimal is read as `nan`, whatever its digits and its
exponent.
-/

namespace BatchMailer.Binary64

/-! ## values -/

/-- The exact value of a number, if it is one. -/
noncomputable def value? : Binary64 → Option EReal
  | nan => none
  | infinity negative => some (if negative then ⊥ else ⊤)
  | finite negative mantissa exponent =>
    some (((signed negative mantissa : ℤ) : ℝ) * (2 : ℝ) ^ exponent : ℝ)

theorem value?_eq_none_iff {x : Binary64} : x.value? = none ↔ x = nan := by
  cases x <;> simp [value?]

/-- The sign of a product with a power of two. -/
theorem mul_zpow_pos_iff (n : ℤ) (exponent : ℤ) : 0 < (n : ℝ) * (2 : ℝ) ^ exponent ↔ 0 < n := by
  have hpow : (0 : ℝ) < 2 ^ exponent := zpow_pos (by norm_num) exponent
  rw [mul_pos_iff_of_pos_right hpow, Int.cast_pos]

theorem isPositive_iff {x : Binary64} : x.isPositive = true ↔ ∃ v ∈ x.value?, 0 < v := by
  cases x with
  | nan => simp [isPositive, value?]
  | infinity negative => cases negative <;> simp [isPositive, value?]
  | finite negative mantissa exponent =>
      have hsign : isPositive (finite negative mantissa exponent) = true ↔
          0 < signed negative mantissa := by
        cases negative <;> simp [isPositive, signed, Nat.pos_iff_ne_zero]
      simp only [value?, Option.mem_some_iff, exists_eq_left', EReal.coe_pos, mul_zpow_pos_iff,
        hsign]

theorem isAtMostZero_iff {x : Binary64} : x.isAtMostZero = true ↔ ∃ v ∈ x.value?, v ≤ 0 := by
  by_cases hx : x = nan
  · subst hx
    simp [isAtMostZero, value?]
  · have hsign := isPositive_eq_not_isAtMostZero hx
    obtain ⟨v, hv⟩ := Option.ne_none_iff_exists'.1 (mt value?_eq_none_iff.1 hx)
    have hpositive := isPositive_iff (x := x)
    simp only [hv, Option.mem_some_iff, exists_eq_left'] at hpositive ⊢
    rw [← not_lt, ← hpositive, hsign]
    simp

open Text (isBlank isAsciiBlank decimalValue? asciiDigit trimWhere Trimmed)

/-! ## letters and signs -/

/-- A letter of ASCII or a sign, which is what a word with its sign is made of. -/
def IsWordChar (c : Char) : Prop := c.isAlpha = true ∨ c = '+' ∨ c = '-'

section

variable {c d : Char}

theorem IsWordChar.cases (h : IsWordChar c) :
    0x41 ≤ c.toNat ∧ c.toNat ≤ 0x5A ∨ 0x61 ≤ c.toNat ∧ c.toNat ≤ 0x7A ∨ c.toNat = 0x2B ∨
      c.toNat = 0x2D := by
  obtain halpha | rfl | rfl := h
  · unfold Char.isAlpha Char.isUpper Char.isLower at halpha
    simp only [Bool.or_eq_true, Bool.and_eq_true, decide_eq_true_eq, ge_iff_le,
      UInt32.le_iff_toNat_le, Char.reduceVal, UInt32.reduceToNat, Char.toNat_val] at halpha
    omega
  · decide
  · decide

theorem IsWordChar.not_blank (h : IsWordChar c) : isAsciiBlank c = false := by
  have hcases := h.cases
  simp only [isAsciiBlank, Bool.or_eq_false_iff, beq_eq_false_iff_ne, Bool.and_eq_false_iff,
    decide_eq_false_iff_not]
  omega

theorem IsWordChar.not_digit (h : IsWordChar c) : c.isDigit = false := by
  have hcases := h.cases
  refine Bool.eq_false_iff.2 fun hdigit => ?_
  rw [Char.isDigit_iff_toNat] at hdigit
  simp only [Char.reduceToNat] at hdigit
  omega

theorem IsWordChar.ne_underscore (h : IsWordChar c) : c ≠ '_' := by
  rintro rfl
  have hcases := h.cases
  simp at hcases

theorem isDigit_asciiDigit : ∀ v : Fin 10, (asciiDigit v).isDigit = true := by decide

theorem isAsciiBlank_asciiDigit : ∀ v : Fin 10, isAsciiBlank (asciiDigit v) = false := by decide

/-- Letters and signs stand for themselves alone. -/
theorem toAscii?_eq_some_iff (hd : IsWordChar d) : toAscii? c = some d ↔ c = d := by
  have hcases := hd.cases
  rw [toAscii?]
  split
  · exact Option.some_inj
  · next hc =>
      have hne : c ≠ d := by
        rintro rfl
        omega
      refine iff_of_false (fun h => ?_) hne
      split at h
      · rw [← Option.some.inj h] at hcases
        simp at hcases
      · obtain ⟨v, hv, rfl⟩ := Option.map_eq_some_iff.1 h
        have hdigit := isDigit_asciiDigit ⟨v, Text.decimalValue?_lt hv⟩
        rw [hd.not_digit] at hdigit
        contradiction

end

/-! ## blanks around a word -/

/-- A blank that may stand around a numeral: one of ASCII, or any beyond. -/
def isNumeralBlank (c : Char) : Bool := isAsciiBlank c || (0x7F ≤ c.toNat && isBlank c)

/-- A character of a numeral as it is read: a blank beyond ASCII as a space, a digit
of any script as one of ASCII.  Text in ASCII is not looked at. -/
def ReadsAs (c d : Char) : Prop := c.toNat < 0x80 ∧ d = c ∨ toAscii? c = some d

section

variable {c d : Char}

theorem ReadsAs.eq_of_isWordChar (h : ReadsAs c d) (hd : IsWordChar d) : c = d := by
  obtain ⟨-, rfl⟩ | h := h
  · rfl
  · exact (toAscii?_eq_some_iff hd).1 h

/-- What is read as a blank may stand around a numeral. -/
theorem ReadsAs.isNumeralBlank (h : ReadsAs c d) (hd : isAsciiBlank d = true) :
    isNumeralBlank c = true := by
  rw [Binary64.isNumeralBlank, Bool.or_eq_true, Bool.and_eq_true, decide_eq_true_eq]
  obtain ⟨-, rfl⟩ | h := h
  · exact .inl hd
  · rw [toAscii?] at h
    split at h
    · rw [Option.some.inj h]
      exact .inl hd
    · next hc =>
        split at h
        · next hblank => exact .inr ⟨Nat.not_lt.1 hc, hblank⟩
        · obtain ⟨v, hv, rfl⟩ := Option.map_eq_some_iff.1 h
          have hdigit := isAsciiBlank_asciiDigit ⟨v, Text.decimalValue?_lt hv⟩
          rw [hd] at hdigit
          contradiction

theorem toAscii?_of_isNumeralBlank (hc : isNumeralBlank c = true) :
    ∃ d, toAscii? c = some d ∧ isAsciiBlank d = true := by
  rw [toAscii?]
  split
  · next hascii =>
      have hblank : isAsciiBlank c = true := by
        simp only [isNumeralBlank, Bool.or_eq_true, Bool.and_eq_true, decide_eq_true_eq] at hc
        exact hc.resolve_right fun h => absurd h.1 (by omega)
      exact ⟨c, rfl, hblank⟩
  · next hbeyond =>
      have hblank : isBlank c = true := by
        simp only [isNumeralBlank, Bool.or_eq_true, Bool.and_eq_true, decide_eq_true_eq] at hc
        exact hc.elim Text.isBlank_of_isAsciiBlank And.right
      exact ⟨' ', if_pos hblank, by decide⟩

/-- In text that is in ASCII, these blanks are those of ASCII. -/
theorem isAsciiBlank_of_isNumeralBlank (hc : isNumeralBlank c = true) (hascii : c.toNat < 0x80) :
    isAsciiBlank c = true := by
  have hdelete : isBlank (Char.ofNat 0x7F) = false := by decide
  simp only [isNumeralBlank, Bool.or_eq_true, Bool.and_eq_true, decide_eq_true_eq] at hc
  obtain hblank | ⟨hbound, hblank⟩ := hc
  · exact hblank
  · have hc : c = Char.ofNat 0x7F := by
      rw [← Char.ofNat_toNat c]
      congr 1
      omega
    rw [hc, hdelete] at hblank
    contradiction

end

/-! ## the word between the blanks -/

section

variable {cs core : List Char}

/-- A word with blanks around it. -/
def Surrounds (core cs : List Char) : Prop :=
  ∃ left right, cs = left ++ core ++ right ∧ (∀ c ∈ left, isNumeralBlank c = true) ∧
    ∀ c ∈ right, isNumeralBlank c = true

/-- Text brought into ASCII is read character by character. -/
theorem forall₂_readsAs {ascii : List Char}
    (h : (if cs.all (·.toNat < 0x80) then some cs else cs.mapM toAscii?) = some ascii) :
    List.Forall₂ ReadsAs cs ascii := by
  split at h
  · next hall =>
      obtain rfl := Option.some.inj h
      refine List.forall₂_same.2 fun c hc => .inl ⟨?_, rfl⟩
      simpa using List.all_eq_true.1 hall c hc
  · clear * - h
    induction cs generalizing ascii with
    | nil =>
        obtain rfl : [] = ascii := by simpa using h
        exact .nil
    | cons c rest ih =>
        rw [List.mapM_cons] at h
        obtain ⟨d, hd, h⟩ := Option.bind_eq_some_iff.1 h
        obtain ⟨ds, hds, h⟩ := Option.bind_eq_some_iff.1 h
        rw [← Option.some.inj h]
        exact .cons (.inr hd) (ih hds)

/-- Where a reading is cut, its text can be cut too. -/
theorem exists_of_forall₂_append {R : Char → Char → Prop} {left right : List Char}
    (h : List.Forall₂ R cs (left ++ right)) :
    ∃ front back, cs = front ++ back ∧ List.Forall₂ R front left ∧ List.Forall₂ R back right :=
  ⟨_, _, (List.take_append_drop left.length cs).symm, List.forall₂_take_append cs left right h,
    List.forall₂_drop_append cs left right h⟩

theorem forall_isNumeralBlank {ascii : List Char} (h : List.Forall₂ ReadsAs cs ascii)
    (hblank : ∀ d ∈ ascii, isAsciiBlank d = true) : ∀ c ∈ cs, isNumeralBlank c = true := by
  induction h with
  | nil => simp
  | cons hread _ ih =>
      rw [List.forall_mem_cons] at hblank ⊢
      exact ⟨hread.isNumeralBlank hblank.1, ih hblank.2⟩

theorem eq_of_forall₂_readsAs (h : List.Forall₂ ReadsAs cs core)
    (hcore : ∀ c ∈ core, IsWordChar c) : cs = core := by
  induction h with
  | nil => rfl
  | cons hread _ ih =>
      rw [List.forall_mem_cons] at hcore
      rw [hread.eq_of_isWordChar hcore.1, ih hcore.2]

/-- Blanks of any script are read as blanks. -/
theorem mapM_toAscii?_of_isNumeralBlank (h : ∀ c ∈ cs, isNumeralBlank c = true) :
    ∃ ascii, cs.mapM toAscii? = some ascii ∧ ∀ d ∈ ascii, isAsciiBlank d = true := by
  induction cs with
  | nil => exact ⟨[], rfl, by simp⟩
  | cons c rest ih =>
      obtain ⟨ascii, hrest, hblank⟩ := ih fun d hd => h d (List.mem_cons_of_mem _ hd)
      obtain ⟨d, hd, hdblank⟩ := toAscii?_of_isNumeralBlank (h c List.mem_cons_self)
      exact ⟨d :: ascii, by simp [hd, hrest], List.forall_mem_cons.2 ⟨hdblank, hblank⟩⟩

/-- Letters and signs are read as they are. -/
theorem mapM_toAscii?_of_isWordChar (h : ∀ c ∈ core, IsWordChar c) :
    core.mapM toAscii? = some core := by
  induction core with
  | nil => rfl
  | cons c rest ih =>
      have hc := (toAscii?_eq_some_iff (h c List.mem_cons_self)).2 rfl
      simp [hc, ih fun d hd => h d (List.mem_cons_of_mem _ hd)]

theorem trimmed_of_isWordChar (h : ∀ c ∈ core, IsWordChar c) : Trimmed isAsciiBlank core :=
  ⟨fun c hc => (h c (List.mem_of_head? hc)).not_blank,
    fun c hc => (h c (List.mem_of_getLast? hc)).not_blank⟩

/-- A text is read as a word exactly if it is this word with blanks around it. -/
theorem asciiNumeral?_eq_some_iff (hcore : ∀ c ∈ core, IsWordChar c) :
    asciiNumeral? cs = some core ↔ Surrounds core cs := by
  constructor
  · intro h
    obtain ⟨ascii, hascii, htrim⟩ := Option.map_eq_some_iff.1 h
    obtain ⟨-, left, right, rfl, hleft, hright⟩ := Text.trimWhere_eq_iff.1 htrim
    have hread := forall₂_readsAs hascii
    obtain ⟨front, back, rfl, hfront, hback⟩ := exists_of_forall₂_append hread
    obtain ⟨front, word, rfl, hfront, hword⟩ := exists_of_forall₂_append hfront
    rw [eq_of_forall₂_readsAs hword hcore]
    exact ⟨front, back, rfl, forall_isNumeralBlank hfront hleft, forall_isNumeralBlank hback hright⟩
  · rintro ⟨left, right, rfl, hleft, hright⟩
    rw [asciiNumeral?]
    split
    · next hall =>
        have hascii : ∀ c ∈ left ++ core ++ right, c.toNat < 0x80 := fun c hc => by
          simpa using List.all_eq_true.1 hall c hc
        have htrim := Text.trimWhere_append (trimmed_of_isWordChar hcore)
          (fun c hc => isAsciiBlank_of_isNumeralBlank (hleft c hc) (hascii c (by simp [hc])))
          (fun c hc => isAsciiBlank_of_isNumeralBlank (hright c hc) (hascii c (by simp [hc])))
        rw [Option.map_some, htrim]
    · obtain ⟨left', hleft', hblankLeft⟩ := mapM_toAscii?_of_isNumeralBlank hleft
      obtain ⟨right', hright', hblankRight⟩ := mapM_toAscii?_of_isNumeralBlank hright
      have hmap : (left ++ core ++ right).mapM toAscii? = some (left' ++ core ++ right') := by
        simp [List.mapM_append, hleft', hright', mapM_toAscii?_of_isWordChar hcore]
      rw [hmap, Option.map_some,
        Text.trimWhere_append (trimmed_of_isWordChar hcore) hblankLeft hblankRight]

/-! ## no number -/

/-- Without digits, no underscore is taken out. -/
theorem joinDigits?_of_not_digit {afterDigit : Bool} (h : joinDigits? afterDigit cs = some core)
    (hcore : ∀ c ∈ core, c.isDigit = false) : cs = core := by
  fun_induction joinDigits? afterDigit cs generalizing core with
  | case1 => simpa using h
  | case2 afterDigit c rest hdigit ih =>
      have hc : c.isDigit = false := hcore c (ih h hcore ▸ List.mem_cons_self)
      rw [hc, Bool.and_false] at hdigit
      contradiction
  | case3 => contradiction
  | case4 => contradiction
  | case5 afterDigit c rest hc ih =>
      obtain ⟨joined, hjoined, rfl⟩ := Option.map_eq_some_iff.1 h
      rw [ih hjoined fun d hd => hcore d (List.mem_cons_of_mem _ hd)]

theorem joinDigits?_of_isWordChar {afterDigit : Bool} (hcore : ∀ c ∈ core, IsWordChar c) :
    joinDigits? afterDigit core = some core := by
  induction core generalizing afterDigit with
  | nil => rfl
  | cons c rest ih =>
      rw [List.forall_mem_cons] at hcore
      rw [joinDigits?.eq_def]
      split
      · contradiction
      · next heq =>
          cases heq
          exact absurd rfl hcore.1.ne_underscore
      · next heq =>
          cases heq
          rw [ih hcore.2, Option.map_some]

end

theorem ofRatio_ne_nan (negative : Bool) (num den : Nat) : ofRatio negative num den ≠ nan := by
  unfold ofRatio signedZero
  dsimp only
  repeat' split
  all_goals simp

theorem ofDecimal_ne_nan (negative : Bool) (digits : Nat) (exponent : Int) :
    ofDecimal negative digits exponent ≠ nan := by
  unfold ofDecimal signedZero
  dsimp only
  repeat' split
  all_goals simp [ofRatio_ne_nan]

/-- No decimal stands for `nan`. -/
theorem decimal?_ne_nan (negative : Bool) (cs : List Char) : decimal? negative cs ≠ some nan := by
  intro h
  rw [decimal?] at h
  dsimp only at h
  split at h
  · contradiction
  · obtain ⟨exponent, -, hnan⟩ := Option.map_eq_some_iff.1 h
    exact ofDecimal_ne_nan _ _ _ hnan

/-- The word for `nan`, in any case of letters. -/
def IsNan (cs : List Char) : Prop := cs.map Char.toLower = ['n', 'a', 'n']

theorem IsNan.isAlpha {word : List Char} (h : IsNan word) : ∀ c ∈ word, c.isAlpha = true := by
  intro c hc
  have hlower : c.toLower ∈ ['n', 'a', 'n'] := h ▸ List.mem_map_of_mem hc
  by_cases hupper : c.val ≥ 'A'.val ∧ c.val ≤ 'Z'.val
  · unfold Char.isAlpha Char.isUpper
    rw [Bool.or_eq_true]
    exact .inl (by simpa using hupper)
  · unfold Char.toLower at hlower
    rw [dif_neg hupper] at hlower
    simp only [List.mem_cons, List.not_mem_nil, or_false] at hlower
    obtain rfl | rfl | rfl := hlower <;> decide

theorem IsNan.isWordChar {sign word : List Char} (h : IsNan word)
    (hsign : sign ∈ [[], ['+'], ['-']]) : ∀ c ∈ sign ++ word, IsWordChar c := by
  intro c hc
  obtain hc | hc := List.mem_append.1 hc
  · simp only [List.mem_cons, List.not_mem_nil, or_false] at hsign
    obtain rfl | rfl | rfl := hsign <;> simp_all [IsWordChar]
  · exact .inl (h.isAlpha c hc)

theorem word?_eq_nan_iff {negative : Bool} {cs : List Char} :
    word? negative cs = some nan ↔ IsNan cs := by
  have hword : String.ofList (cs.map Char.toLower) = "nan" ↔ IsNan cs := by
    rw [IsNan, ← String.ofList_inj]
  rw [word?]
  split
  · next hinf =>
      refine iff_of_false (by simp) fun hnan => ?_
      rw [hword.2 hnan] at hinf
      revert hinf
      decide
  · split
    · next hnan => exact iff_of_true rfl (hword.1 hnan)
    · next hnan => exact iff_of_false (by simp) (mt hword.2 hnan)

/-- Texts that spell `nan`: the word in any case of letters, with a sign or without,
and blanks around it. -/
def SpellsNan (cs : List Char) : Prop :=
  ∃ sign word, Surrounds (sign ++ word) cs ∧ sign ∈ [[], ['+'], ['-']] ∧ IsNan word

/-- A word stands behind the sign, if there is one. -/
theorem isNan_takeSign_iff {cs : List Char} :
    IsNan (takeSign cs).2 ↔ ∃ sign word, cs = sign ++ word ∧ sign ∈ [[], ['+'], ['-']] ∧
      IsNan word := by
  constructor
  · intro h
    unfold takeSign at h
    split at h
    · exact ⟨['-'], _, rfl, by simp, h⟩
    · exact ⟨['+'], _, rfl, by simp, h⟩
    · exact ⟨[], cs, rfl, by simp, h⟩
  · rintro ⟨sign, word, rfl, hsign, hword⟩
    simp only [List.mem_cons, List.not_mem_nil, or_false] at hsign
    obtain rfl | rfl | rfl := hsign
    · -- a letter is no sign
      have halpha := hword.isAlpha
      rw [List.nil_append]
      unfold takeSign
      split
      · exact absurd (halpha '-' List.mem_cons_self) (by decide)
      · exact absurd (halpha '+' List.mem_cons_self) (by decide)
      · exact hword
    · exact hword
    · exact hword

/-- A numeral is read as `nan` if its word is. -/
theorem read_eq_nan_iff {negative : Bool} {cs : List Char} :
    (word? negative cs <|> decimal? negative cs) = some nan ↔ IsNan cs := by
  rw [← @word?_eq_nan_iff negative]
  cases hword : word? negative cs with
  | some x => rfl
  | none => simp [decimal?_ne_nan]

/-- **A text stands for `nan` exactly if it spells it.** -/
theorem ofText?_eq_nan_iff {text : String} : ofText? text = some nan ↔ SpellsNan text.toList := by
  constructor
  · intro h
    rw [ofText?] at h
    obtain ⟨ascii, hascii, h⟩ := Option.bind_eq_some_iff.1 h
    obtain ⟨cs, hcs, h⟩ := Option.bind_eq_some_iff.1 h
    obtain ⟨sign, word, rfl, hsign, hword⟩ := isNan_takeSign_iff.1 (read_eq_nan_iff.1 h)
    have hcore := hword.isWordChar hsign
    obtain rfl := joinDigits?_of_not_digit hcs fun c hc => (hcore c hc).not_digit
    exact ⟨sign, word, (asciiNumeral?_eq_some_iff hcore).1 hascii, hsign, hword⟩
  · rintro ⟨sign, word, htext, hsign, hword⟩
    have hcore := hword.isWordChar hsign
    have hascii := (asciiNumeral?_eq_some_iff hcore).2 htext
    have hjoin : joinDigits? false (sign ++ word) = some (sign ++ word) :=
      joinDigits?_of_isWordChar hcore
    have hnan : IsNan (takeSign (sign ++ word)).2 :=
      isNan_takeSign_iff.2 ⟨sign, word, rfl, hsign, hword⟩
    rw [ofText?, hascii, Option.bind_eq_bind, Option.bind_some, hjoin, Option.bind_some]
    exact read_eq_nan_iff.2 hnan

end BatchMailer.Binary64
