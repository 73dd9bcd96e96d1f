/-!
# BatchMailer.Segments

Cutting a list at its separators.  `segments p l` is the list of stretches
between the elements that satisfy `p`, empty stretches included, so a list with
`n` separators has `n + 1` segments (`length_segments`) and none of them holds a
separator (`not_sep_of_mem_segments`).
-/

namespace BatchMailer

variable {α : Type}

/-- The stretches of a list between the elements that satisfy `isSep`. -/
def segments (isSep : α → Bool) : List α → List (List α)
  | [] => [[]]
  | a :: rest =>
    if isSep a then [] :: segments isSep rest
    else
      match segments isSep rest with
      | [] => [[a]]
      | s :: more => (a :: s) :: more

theorem segments_ne_nil (isSep : α → Bool) (l : List α) : segments isSep l ≠ [] := by
  cases l with
  | nil => simp [segments]
  | cons a rest =>
    unfold segments
    split
    · simp
    · split <;> simp

/-- A separator opens a new segment. -/
theorem segments_cons_sep {isSep : α → Bool} {a : α} (h : isSep a = true) (rest : List α) :
    segments isSep (a :: rest) = [] :: segments isSep rest := by
  simp [segments, h]

/-- Any other element joins the segment that follows it. -/
theorem segments_cons_of_eq {isSep : α → Bool} {a : α} (h : isSep a = false) {rest s : List α}
    {more : List (List α)} (heq : segments isSep rest = s :: more) :
    segments isSep (a :: rest) = (a :: s) :: more := by
  simp [segments, h, heq]

/-- Segments are what the library's own split gives. -/
theorem segments_eq_splitOnP (isSep : α → Bool) (l : List α) :
    segments isSep l = l.splitOnP isSep := by
  induction l with
  | nil => rfl
  | cons a rest ih =>
      obtain ⟨s, more, heq⟩ := List.exists_cons_of_ne_nil (segments_ne_nil isSep rest)
      rw [segments, List.splitOnP_cons_eq_if_modifyHead, ← ih, heq]
      rfl

/-- A separator divides the segments in front of it from those behind it. -/
theorem segments_append_cons {isSep : α → Bool} {sep : α} (hsep : isSep sep = true)
    (front back : List α) :
    segments isSep (front ++ sep :: back) = segments isSep front ++ segments isSep back := by
  simp only [segments_eq_splitOnP, List.splitOnP_append_cons front back hsep]

/-- A separator at the end opens an empty segment behind all others. -/
theorem segments_append_sep {isSep : α → Bool} {a : α} (h : isSep a = true) (l : List α) :
    segments isSep (l ++ [a]) = segments isSep l ++ [[]] :=
  segments_append_cons h l []

/-- Any other element at the end joins the last segment. -/
theorem segments_append_not_sep {isSep : α → Bool} {a : α} (h : isSep a = false) (l : List α) :
    segments isSep (l ++ [a]) =
      (segments isSep l).dropLast ++ [(segments isSep l).getLastD [] ++ [a]] := by
  induction l with
  | nil => simp [segments, h]
  | cons b rest ih =>
      obtain ⟨s, more, heq⟩ := List.exists_cons_of_ne_nil (segments_ne_nil isSep rest)
      by_cases hb : isSep b = true
      · rw [List.cons_append, segments_cons_sep hb, ih, segments_cons_sep hb, heq]
        simp
      · have hb' : isSep b = false := by simpa using hb
        rw [List.cons_append]
        cases more with
        | nil =>
            rw [heq] at ih
            rw [segments_cons_of_eq hb' ih, segments_cons_of_eq hb' heq]
            simp
        | cons t more =>
            rw [heq] at ih
            rw [segments_cons_of_eq hb' ih, segments_cons_of_eq hb' heq]
            simp

/-- One segment more than there are separators. -/
theorem length_segments (isSep : α → Bool) (l : List α) :
    (segments isSep l).length = l.countP isSep + 1 := by
  induction l with
  | nil => rfl
  | cons a rest ih =>
    by_cases h : isSep a = true
    · simp [segments_cons_sep h, h, ih]
    · obtain ⟨s, more, heq⟩ := List.exists_cons_of_ne_nil (segments_ne_nil isSep rest)
      rw [heq] at ih
      simp [segments_cons_of_eq (by simpa using h) heq, h] at ih ⊢
      exact ih

/-- No segment holds a separator. -/
theorem not_sep_of_mem_segments {isSep : α → Bool} {l s : List α} {a : α}
    (hs : s ∈ segments isSep l) (ha : a ∈ s) : isSep a = false := by
  induction l generalizing s with
  | nil => simp_all [segments]
  | cons b rest ih =>
    by_cases h : isSep b = true
    · rw [segments_cons_sep h, List.mem_cons] at hs
      rcases hs with rfl | hs
      · simp at ha
      · exact ih hs ha
    · obtain ⟨t, more, heq⟩ := List.exists_cons_of_ne_nil (segments_ne_nil isSep rest)
      rw [segments_cons_of_eq (by simpa using h) heq, List.mem_cons] at hs
      rcases hs with rfl | hs
      · rcases List.mem_cons.1 ha with rfl | ha
        · simpa using h
        · exact ih (by simp [heq]) ha
      · exact ih (by simp [heq, hs]) ha

/-- Segments hold nothing but elements of the list. -/
theorem mem_of_mem_segments {α : Type} {isSep : α → Bool} {l s : List α} {a : α}
    (hs : s ∈ segments isSep l) (ha : a ∈ s) : a ∈ l := by
  induction l generalizing s with
  | nil =>
      rw [segments, List.mem_singleton] at hs
      rw [hs] at ha
      contradiction
  | cons b rest ih =>
      by_cases hb : isSep b = true
      · rw [segments_cons_sep hb, List.mem_cons] at hs
        obtain rfl | hs := hs
        · contradiction
        · exact List.mem_cons_of_mem b (ih hs ha)
      · obtain ⟨t, more, heq⟩ := List.exists_cons_of_ne_nil (segments_ne_nil isSep rest)
        rw [segments_cons_of_eq (by simpa using hb) heq, List.mem_cons] at hs
        obtain rfl | hs := hs
        · obtain rfl | ha := List.mem_cons.1 ha
          · exact List.mem_cons_self
          · exact List.mem_cons_of_mem b (ih (by rw [heq]; exact List.mem_cons_self) ha)
        · exact List.mem_cons_of_mem b (ih (by rw [heq]; exact List.mem_cons_of_mem t hs) ha)

/-- A list without separators is its own only segment. -/
theorem segments_of_forall_not_sep {isSep : α → Bool} {l : List α}
    (h : ∀ a ∈ l, isSep a = false) : segments isSep l = [l] := by
  rw [segments_eq_splitOnP, List.splitOnP_eq_singleton h]

end BatchMailer
