import BatchMailer.Diagnostic

/-!
# BatchMailer.Proofs.FileTree.Usable

Paths that can be used at all: those whose code points have bytes, none of them NUL
(`RawText.IsPath`).

A directory that could be made has such a path (`isPath_of_ensureDirectories`), and one
with such a path is made or refused (`exists_refused_of_ensureDirectories`).  Every file
in it has such a path as well if its name can be used (`Path.isPath_child`), which the
names of diagnostic files can (`Diagnostic.isPath_fileName`).  So opening one may be
refused but is never a misuse (`FileTree.exists_refused_of_openFile`).
-/

namespace BatchMailer

/-! ## texts -/

/-- A code point that may stand in a path: it has bytes, and is not NUL. -/
def CodePoint.FitsPath (c : CodePoint) : Prop :=
  c ≠ .char '\x00' ∧ (Text.pathCoding c).isSome = true

/-- A text that can be used as a path. -/
def RawText.IsPath (t : RawText) : Prop := ∀ c ∈ t, c.FitsPath

theorem RawText.isPath_append {t u : RawText} : (t ++ u).IsPath ↔ t.IsPath ∧ u.IsPath :=
  List.forall_mem_append

/-- All characters but NUL may stand in a path. -/
theorem RawText.isPath_ofChars {cs : List Char} : (ofChars cs).IsPath ↔ '\x00' ∉ cs := by
  constructor
  · exact fun h hnul => (h _ (mem_ofChars_iff.2 ⟨_, hnul, rfl⟩)).1 rfl
  · rintro h c hc
    obtain ⟨d, hd, rfl⟩ := mem_ofChars_iff.1 hc
    exact ⟨fun heq => h (CodePoint.char.inj heq ▸ hd), rfl⟩

theorem RawText.isPath_ofString {s : String} : IsPath s ↔ '\x00' ∉ s.toList := isPath_ofChars

theorem mem_of_mem_intercalate {sep : RawText} {texts : List RawText} {c : CodePoint}
    (h : c ∈ sep.intercalate texts) : c ∈ sep ∨ ∃ text ∈ texts, c ∈ text := by
  induction texts with
  | nil => contradiction
  | cons first rest ih =>
      cases rest with
      | nil => exact .inr ⟨first, List.mem_cons_self, by simpa [List.intercalate] using h⟩
      | cons second rest =>
          rw [List.intercalate_cons_cons, List.mem_append, List.mem_append] at h
          obtain (h | h) | h := h
          · exact .inr ⟨first, List.mem_cons_self, h⟩
          · exact .inl h
          · obtain h | ⟨text, htext, hc⟩ := ih h
            · exact .inl h
            · exact .inr ⟨text, List.mem_cons_of_mem first htext, hc⟩

/-! ## the directory above a path -/

theorem mem_splitLast {cs : RawText} {c : CodePoint} (h : c ∈ cs) :
    isSlash c = true ∨ c ∈ (splitLast cs).1 ∨ c ∈ (splitLast cs).2 := by
  have hparts : cs.reverse.takeWhile (!isSlash ·) ++ cs.reverse.dropWhile (!isSlash ·) =
      cs.reverse := List.takeWhile_append_dropWhile
  have hmem : c ∈ cs.reverse.takeWhile (!isSlash ·) ∨ c ∈ cs.reverse.dropWhile (!isSlash ·) := by
    rw [← List.mem_append, hparts, List.mem_reverse]
    exact h
  rw [splitLast]
  obtain hmem | hmem := hmem
  · exact .inr (.inr (List.mem_reverse.2 hmem))
  · generalize cs.reverse.dropWhile (!isSlash ·) = back at hmem
    simp only
    split
    · exact .inr (.inl (List.mem_reverse.2 hmem))
    · have htrim : back.takeWhile isSlash ++ back.dropWhile isSlash = back :=
        List.takeWhile_append_dropWhile
      rw [← htrim, List.mem_append] at hmem
      obtain hmem | hmem := hmem
      · exact .inl (List.all_eq_true.1 List.all_takeWhile c hmem)
      · refine .inr (.inl ?_)
        rw [Text.trimBack, List.reverse_reverse]
        exact List.mem_reverse.2 hmem

/-- Nothing but slashes is lost between a directory and a name in it. -/
theorem mem_parentOf {cs : RawText} {c : CodePoint} (h : c ∈ cs) :
    isSlash c = true ∨ c ∈ (parentOf cs).1 ∨ c ∈ (parentOf cs).2 := by
  rw [parentOf]
  obtain hslash | hhead | htail := mem_splitLast h
  · exact .inl hslash
  · simp only
    split
    · exact mem_splitLast hhead
    · exact .inr (.inl hhead)
  · simp only
    split
    · next hempty =>
        rw [List.isEmpty_iff.1 hempty] at htail
        contradiction
    · exact .inr (.inr htail)

theorem mem_of_mem_splitLast {cs : RawText} {c : CodePoint}
    (h : c ∈ (splitLast cs).1 ∨ c ∈ (splitLast cs).2) : c ∈ cs := by
  have hhead : ∀ c ∈ (cs.reverse.dropWhile (!isSlash ·)).reverse, c ∈ cs := fun c hc =>
    List.mem_reverse.1 ((List.dropWhile_sublist _).subset (List.mem_reverse.1 hc))
  rw [splitLast] at h
  obtain h | h := h
  · simp only at h
    split at h
    · exact hhead c h
    · rw [Text.trimBack] at h
      exact hhead c (List.mem_reverse.1 ((List.dropWhile_sublist _).subset (List.mem_reverse.1 h)))
  · exact List.mem_reverse.1 ((List.takeWhile_sublist _).subset (List.mem_reverse.1 h))

/-- The text of a directory holds nothing that a path in it does not. -/
theorem mem_of_mem_parentOf {cs : RawText} {c : CodePoint} (h : c ∈ (parentOf cs).1) : c ∈ cs := by
  rw [parentOf] at h
  simp only at h
  split at h
  · exact mem_of_mem_splitLast (.inl (mem_of_mem_splitLast (.inl h)))
  · exact mem_of_mem_splitLast (.inl h)

/-! ## operations -/

namespace FileTree

variable {α : Type} {path : RawText}

/-- With a path that can be used, nothing but the system stands in the way. -/
theorem guardPath_of_isPath (h : path.IsPath) (act : Except PathError α) :
    guardPath path act = act.mapError (FileError.refused · path) := by
  have hencode : Text.encode Text.pathCoding path = .ok (Text.bytes Text.pathCoding path) :=
    Text.encode_eq_ok_iff.2 ⟨fun c hc => (h c hc).2, rfl⟩
  have hnul : path.contains (.char '\x00') = false := by
    rw [Bool.eq_false_iff]
    exact fun hcontains => (h _ (List.contains_iff_mem.1 hcontains)).1 rfl
  rw [guardPath, hencode]
  simp only [hnul, Bool.false_eq_true, if_false]

/-- With any other, nothing is done. -/
theorem exists_misuse_of_not_isPath (h : ¬ path.IsPath) : ∃ e : FileError,
    (∀ cause at', e ≠ .refused cause at') ∧
      ∀ {β : Type} (act : Except PathError β), guardPath path act = .error e := by
  cases hencode : Text.encode Text.pathCoding path with
  | error e => exact ⟨.unencodable e, by simp, fun act => by rw [guardPath, hencode]⟩
  | ok content =>
      have hbytes := (Text.encode_eq_ok_iff.1 hencode).1
      have hnul : path.contains (.char '\x00') = true := by
        rw [List.contains_iff_mem]
        exact Classical.byContradiction fun hnone =>
          h fun c hc => ⟨fun heq => hnone (heq ▸ hc), hbytes c hc⟩
      refine ⟨.embeddedNul, by simp, fun act => ?_⟩
      rw [guardPath, hencode]
      simp only [hnul, if_true]

theorem exists_refused_of_guardPath (h : path.IsPath) {act : Except PathError α} {e : FileError}
    (hguard : guardPath path act = .error e) : ∃ cause at', e = .refused cause at' := by
  rw [guardPath_of_isPath h] at hguard
  cases act with
  | ok a => contradiction
  | error cause => exact ⟨cause, path, (Except.error.inj hguard).symm⟩

theorem exists_refused_of_openFile (h : path.IsPath) {t : FileTree} {e : FileError}
    (hopen : t.openFile path = .error e) : ∃ cause at', e = .refused cause at' :=
  exists_refused_of_guardPath h hopen

/-- A directory whose path cannot be used is not made. -/
theorem abortsMaking_ensureDirectory (h : ¬ path.IsPath) (t : FileTree) :
    abortsMaking (t.ensureDirectory path).1 = true := by
  obtain ⟨e, hmisuse, hguard⟩ := exists_misuse_of_not_isPath h
  have hdirectory : t.isDirectory path = false := by rw [isDirectory, hguard]
  rw [ensureDirectory, makeDirectory, hguard]
  simp only [hdirectory, Bool.false_eq_true, if_false]
  cases e with
  | refused cause at' => exact absurd rfl (hmisuse cause at')
  | unencodable e => rfl
  | embeddedNul => rfl

/-- Nor are those above it made, if it is they that cannot be used. -/
theorem abortsMaking_ensureDirectories (t : FileTree) (h : ¬ path.IsPath) :
    abortsMaking (t.ensureDirectories path).1 = true := by
  fun_induction ensureDirectories t path with
  | case1 path hmissing above haborts ih => exact haborts
  | case2 path hmissing above haborts hdot ih =>
      -- a dot at the end can be used, so the directory above is to blame
      refine absurd (ih fun habove => h fun c hc => ?_) haborts
      obtain hslash | hhead | htail := mem_parentOf hc
      · rw [beq_iff_eq.1 hslash]
        exact ⟨by decide, rfl⟩
      · exact habove c hhead
      · rw [hdot] at htail
        exact RawText.isPath_ofString.2 (by decide) c htail
  | case3 path hmissing above haborts hdot ih => exact abortsMaking_ensureDirectory h above.2
  | case4 path hthere => exact abortsMaking_ensureDirectory h _

theorem isPath_of_ensureDirectories {t : FileTree} (h : (t.ensureDirectories path).1 = .ok ()) :
    path.IsPath := by
  refine Classical.byContradiction fun hpath => ?_
  have haborts := abortsMaking_ensureDirectories t hpath
  rw [h] at haborts
  contradiction

theorem exists_refused_of_ensureDirectory (h : path.IsPath) {t : FileTree} {e : FileError}
    (hmake : (t.ensureDirectory path).1 = .error e) : ∃ cause at', e = .refused cause at' := by
  rw [ensureDirectory] at hmake
  cases hmade : t.makeDirectory path with
  | ok made => simp [hmade] at hmake
  | error first =>
      simp only [hmade] at hmake
      split at hmake
      · contradiction
      · obtain rfl := Except.error.inj hmake
        exact exists_refused_of_guardPath h hmade

/-- A directory whose path can be used is made, or the system refuses it. -/
theorem exists_refused_of_ensureDirectories {t : FileTree} {e : FileError} (h : path.IsPath)
    (hmake : (t.ensureDirectories path).1 = .error e) : ∃ cause at', e = .refused cause at' := by
  fun_induction ensureDirectories t path with
  | case1 path hmissing above haborts ih => exact ih (fun c hc => h c (mem_of_mem_parentOf hc)) hmake
  | case2 path hmissing above haborts hdot ih => contradiction
  | case3 path hmissing above haborts hdot ih => exact exists_refused_of_ensureDirectory h hmake
  | case4 path hthere => exact exists_refused_of_ensureDirectory h hmake

/-- In a fresh tree a directory is made at once. -/
theorem ensureDirectories_fresh : fresh.ensureDirectories "out" =
    (.ok (), fresh.put (.child .unnamed "out") .directory) := by
  rw [ensureDirectories, dif_neg (by decide)]
  rfl

end FileTree

/-! ## diagnostic files -/

theorem isDigit_of_mem_digits {width n : Nat} {c : Char} (h : c ∈ Text.digits 10 width n) :
    c.isDigit = true := by
  have hdigits : ∀ v : Fin 10, (Text.digit v).isDigit = true := by decide
  obtain ⟨value, hvalue, rfl⟩ := Text.exists_digit_of_mem_digits (by omega) h
  exact hdigits ⟨value, hvalue⟩

theorem isDigit_of_mem_repr {n : Nat} {c : Char} (h : c ∈ n.repr.toList) : c.isDigit = true := by
  rw [Nat.toList_repr] at h
  exact Nat.isDigit_of_mem_toDigits (by omega) (by omega) h

theorem isDigit_of_mem_repr_int {k : Int} {c : Char} (h : c ∈ k.repr.toList) :
    c.isDigit = true ∨ c = '-' := by
  rw [Int.repr_eq_if] at h
  split at h
  · exact .inl (isDigit_of_mem_repr h)
  · obtain hsign | h := List.mem_append.1 (String.toList_append ▸ h)
    · exact .inr (List.mem_singleton.1 hsign)
    · exact .inl (isDigit_of_mem_repr h)

namespace Diagnostic

/-- The instant in a file name is written in digits and a point. -/
theorem mem_stamp {m : Moment} {c : Char} (h : c ∈ stamp m) : c.isDigit = true ∨ c = '.' := by
  simp only [stamp, field, List.mem_append, List.mem_cons] at h
  obtain (((((hyear | h) | h) | h) | h) | h) | hpoint | h := h
  · exact .inl (isDigit_of_mem_repr hyear)
  all_goals first | exact .inl (isDigit_of_mem_digits h) | exact .inr hpoint

/-- What a file name is written in besides digits. -/
def nameMarks : List Char := ['s', 'e', '_', '.', '-', 'h', 't', 'p']

theorem mem_fileName {kindIndex : Int} {moment : Moment} {name : String}
    (h : fileName kindIndex moment = .ok name) {c : Char} (hc : c ∈ name.toList) :
    c.isDigit = true ∨ c ∈ nameMarks := by
  rw [fileName] at h
  split at h
  · contradiction
  · next utc _ =>
      obtain rfl := Except.ok.inj h
      have hfixed : ∀ text ∈ ["ses_", "_", ".http"], text.toList.all (nameMarks.contains ·) := by
        decide
      have hmem : ∀ text ∈ ["ses_", "_", ".http"], c ∈ text.toList → c ∈ nameMarks :=
        fun text htext hc => List.contains_iff_mem.1 (List.all_eq_true.1 (hfixed text htext) c hc)
      have hmarks : ∀ c, c = '.' ∨ c = '-' → c ∈ nameMarks := by simp [nameMarks]
      simp only [String.toList_append, String.toList_ofList, List.mem_append] at hc
      obtain (((h | h) | h) | h) | h := hc
      · exact .inr (hmem "ses_" (by decide) h)
      · exact (mem_stamp h).imp_right (hmarks c <| .inl ·)
      · exact .inr (hmem "_" (by decide) h)
      · exact (isDigit_of_mem_repr_int h).imp_right (hmarks c <| .inr ·)
      · exact .inr (hmem ".http" (by decide) h)

theorem isPath_fileName {kindIndex : Int} {moment : Moment} {name : String}
    (h : fileName kindIndex moment = .ok name) : RawText.IsPath name := by
  refine RawText.isPath_ofString.2 fun hnul => ?_
  obtain hdigit | hletter := mem_fileName h hnul
  · exact absurd hdigit (by decide)
  · exact absurd hletter (by decide)

end Diagnostic

theorem Path.isPath_root (dir : RawText) : (Path.ofText dir).root.IsPath := by
  rw [Path.ofText]
  simp only [Path.rootOf]
  split <;> exact RawText.isPath_ofString.2 (by decide)

/-- A file in a directory has a path that can be used if the directory has. -/
theorem Path.isPath_child {dir name : RawText} (hdir : dir.IsPath) (hname : name.IsPath) :
    ((Path.ofText dir).child name).text.IsPath := by
  rw [Path.text]
  split
  · exact RawText.isPath_ofString.2 (by decide)
  · refine RawText.isPath_append.2 ⟨Path.isPath_root dir, fun c hc => ?_⟩
    obtain hc | ⟨text, htext, hc⟩ := mem_of_mem_intercalate hc
    · exact RawText.isPath_ofString.2 (by decide : '\x00' ∉ "/".toList) c hc
    · obtain htext | htext := List.mem_append.1 htext
      · exact hdir c (mem_of_mem_segments (List.mem_filter.1 htext).1 hc)
      · rw [List.mem_singleton.1 htext] at hc
        exact hname c hc

end BatchMailer
