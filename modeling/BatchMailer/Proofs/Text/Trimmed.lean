import BatchMailer.Text.Blank
import Mathlib.Data.List.TakeWhile

/-!
# BatchMailer.Proofs.Text.Trimmed

Trimming said from both sides: what is left of a text has none of the class at
either end, and the text is what is left between characters of the class.  These
two facts decide it (`trimWhere_eq_iff`).
-/

namespace BatchMailer.Text

/-- A text that neither starts nor ends with a character of a class. -/
structure Trimmed (p : Char → Bool) (cs : List Char) : Prop where
  front : ∀ c, cs.head? = some c → p c = false
  back : ∀ c, cs.getLast? = some c → p c = false

instance (p : Char → Bool) (cs : List Char) : Decidable (Trimmed p cs) :=
  decidable_of_iff (cs.head?.all (!p ·) = true ∧ cs.getLast?.all (!p ·) = true) <| by
    simp only [Option.all_eq_true, Bool.not_eq_true']
    exact ⟨fun ⟨front, back⟩ => ⟨front, back⟩, fun ⟨front, back⟩ => ⟨front, back⟩⟩

section

variable {p : Char → Bool} {left cs right : List Char}

theorem trimmed_trimWhere (p : Char → Bool) (cs : List Char) : Trimmed p (trimWhere p cs) :=
  ⟨fun _ h => head?_trimWhere h, fun _ h => getLast?_trimWhere h⟩

theorem trimFront_append (h : ∀ c ∈ left, p c = true) (cs : List Char) :
    trimFront p (left ++ cs) = trimFront p cs :=
  List.dropWhile_append_of_pos h

theorem trimBack_append (h : ∀ c ∈ right, p c = true) (cs : List Char) :
    trimBack p (cs ++ right) = trimBack p cs := by
  have hreverse : ∀ c ∈ right.reverse, p c = true := fun c hc => h c (List.mem_reverse.1 hc)
  rw [trimBack, List.reverse_append, List.dropWhile_append_of_pos hreverse, trimBack]

/-- What stands in front of a character that is not of the class is kept. -/
theorem trimBack_append_cons {c : Char} (hc : p c = false) (front back : List Char) :
    trimBack p (front ++ c :: back) = front ++ c :: trimBack p back := by
  have hsplit : (back.reverse ++ c :: front.reverse).dropWhile p =
      back.reverse.dropWhile p ++ c :: front.reverse := by
    rw [List.dropWhile_append]
    split
    · next hnone =>
        rw [List.dropWhile_cons_of_neg (by simp [hc]), List.isEmpty_iff.1 hnone, List.nil_append]
    · rfl
  rw [trimBack, trimBack, List.reverse_append, List.reverse_cons, List.append_assoc,
    List.singleton_append, hsplit]
  simp

/-- Characters of the class around a text that has none at its ends. -/
theorem trimWhere_append (hcs : Trimmed p cs) (hleft : ∀ c ∈ left, p c = true)
    (hright : ∀ c ∈ right, p c = true) : trimWhere p (left ++ cs ++ right) = cs := by
  rw [trimWhere, List.append_assoc, trimFront_append hleft]
  cases cs with
  | nil =>
      have hnone : trimFront p right = [] := List.dropWhile_eq_nil_iff.2 hright
      rw [List.nil_append, hnone]
      rfl
  | cons c rest =>
      rw [trimFront_of_head (by simpa using hcs.front), trimBack_append hright,
        trimBack_of_getLast hcs.back]

/-- A text is what is left of it, between characters of the class. -/
theorem exists_trimWhere (p : Char → Bool) (cs : List Char) :
    ∃ left right, cs = left ++ trimWhere p cs ++ right ∧ (∀ c ∈ left, p c = true) ∧
      ∀ c ∈ right, p c = true := by
  obtain ⟨right, hback, hright⟩ := exists_trimBack p (trimFront p cs)
  refine ⟨cs.takeWhile p, right, ?_, fun c hc => List.mem_takeWhile_imp hc, hright⟩
  rw [trimWhere, List.append_assoc, ← hback, trimFront, List.takeWhile_append_dropWhile]

/-- What trimming leaves is decided by where it stands. -/
theorem trimWhere_eq_iff {t : List Char} :
    trimWhere p cs = t ↔ Trimmed p t ∧ ∃ left right, cs = left ++ t ++ right ∧
      (∀ c ∈ left, p c = true) ∧ ∀ c ∈ right, p c = true := by
  constructor
  · rintro rfl
    exact ⟨trimmed_trimWhere p cs, exists_trimWhere p cs⟩
  · intro h
    obtain ⟨ht, left, right, rfl, hleft, hright⟩ := h
    exact trimWhere_append ht hleft hright

/-- Nothing is left of a text exactly if it is all of the class. -/
theorem trimWhere_eq_nil_iff : trimWhere p cs = [] ↔ ∀ c ∈ cs, p c = true := by
  constructor
  · intro h
    obtain ⟨left, right, hcs, hleft, hright⟩ := exists_trimWhere p cs
    rw [h, List.append_nil] at hcs
    rw [hcs]
    exact fun c hc => (List.mem_append.1 hc).elim (hleft c) (hright c)
  · intro h
    have hnil : Trimmed p [] := ⟨by simp, by simp⟩
    have htrim : trimWhere p (cs ++ [] ++ []) = [] := trimWhere_append hnil h (by simp)
    simpa using htrim

/-- Characters of the class around a text make no difference. -/
theorem trimWhere_pad (hleft : ∀ c ∈ left, p c = true) (hright : ∀ c ∈ right, p c = true)
    (cs : List Char) : trimWhere p (left ++ cs ++ right) = trimWhere p cs := by
  obtain ⟨front, back, hcs, hfront, hback⟩ := exists_trimWhere p cs
  refine trimWhere_eq_iff.2 ⟨trimmed_trimWhere p cs, left ++ front, back ++ right, ?_, ?_, ?_⟩
  · conv => lhs; rw [hcs]
    simp only [List.append_assoc]
  · exact fun c hc => (List.mem_append.1 hc).elim (hleft c) (hfront c)
  · exact fun c hc => (List.mem_append.1 hc).elim (hback c) (hright c)

/-- Trimming the back first makes no difference. -/
theorem trimWhere_trimBack (p : Char → Bool) (cs : List Char) :
    trimWhere p (trimBack p cs) = trimWhere p cs := by
  obtain ⟨tail, hcs, htail⟩ := exists_trimBack p cs
  have hpad : trimWhere p ([] ++ trimBack p cs ++ tail) = trimWhere p (trimBack p cs) :=
    trimWhere_pad (by simp) htail _
  rw [List.nil_append, ← hcs] at hpad
  exact hpad.symm

end

end BatchMailer.Text
