import BatchMailer.Proofs.EnvFile.Assigned
import BatchMailer.Proofs.Text.Encoding

/-!
# BatchMailer.Proofs.EnvFile.Loaded

What loading a file of assignments does to the variables.

One assignment gives a variable that is not set a value, or is refused, or does
nothing (`assign_cases`).  So variables that are set keep their values
(`get?_assignAll_of_some`), the others get the first value under their name
(`get?_assignAll`), and assignments that were made once change nothing any more
(`assignAll_again`).  What a file assigns is what its lines say, so this is known
of files too (`load_defaults`).
-/

namespace BatchMailer.EnvFile

open Text.Utf8 (encode)

/-- One load and then another, if the first goes through. -/
def inTurn (first second : Environment → Except EnvFileError Unit × Environment)
    (e : Environment) : Except EnvFileError Unit × Environment :=
  match first e with
  | (.error fault, e) => (.error fault, e)
  | (.ok (), e) => second e

/-! ## one assignment -/

/-- What cannot be assigned: a name or a value with a NUL character. -/
def HasNul (key value : List Char) : Prop := '\x00' ∈ key ∨ '\x00' ∈ value

/-- An assignment does nothing to a variable that is set; else it is refused, or the
variable has its value and all others are as before. -/
theorem assign_cases (e : Environment) (key value : List Char) :
    ((e.get? (String.ofList key)).isSome = true ∧ assign e key value = .ok e) ∨
    (e.get? (String.ofList key) = none ∧ HasNul key value ∧
      assign e key value = .error .embeddedNul) ∨
    (e.get? (String.ofList key) = none ∧ ¬ HasNul key value ∧ ∃ f, assign e key value = .ok f ∧
      ∀ name, f.get? name =
        if name = String.ofList key then some (String.ofList value) else e.get? name) := by
  have hnul : (key.contains '\x00' || value.contains '\x00') = true ↔ HasNul key value := by
    simp [HasNul]
  cases hkey : e.get? (String.ofList key) with
  | some v =>
      refine .inl ⟨rfl, ?_⟩
      rw [assign, hkey]
      rfl
  | none =>
      by_cases hfault : HasNul key value
      · refine .inr (.inl ⟨rfl, hfault, ?_⟩)
        rw [assign, hkey]
        exact if_pos (hnul.2 hfault)
      · refine .inr (.inr ⟨rfl, hfault, e.setDefault (String.ofList key) (String.ofList value), ?_,
          fun name => ?_⟩)
        · rw [assign, hkey]
          exact if_neg fun h => hfault (hnul.1 h)
        · rw [Environment.get?_setDefault, hkey]
          rfl

/-! ## assignments in turn -/

section

variable {e : Environment} {as : List (List Char × List Char)}

theorem assignAll_cons_of_ok {key value : List Char} {f : Environment}
    (h : assign e key value = .ok f) : assignAll e ((key, value) :: as) = assignAll f as := by
  rw [assignAll, h]

theorem assignAll_cons_of_error {key value : List Char} {fault : EnvFileError}
    (h : assign e key value = .error fault) :
    assignAll e ((key, value) :: as) = (.error fault, e) := by
  rw [assignAll, h]

/-- Variables that are set keep their values, even if an assignment is refused. -/
theorem get?_assignAll_of_some {name v : String} (h : e.get? name = some v) :
    (assignAll e as).2.get? name = some v := by
  induction as generalizing e with
  | nil => exact h
  | cons a rest ih =>
      rw [assignAll]
      split
      · exact h
      · next f hassign => exact ih (get?_assign hassign h)

/-- Assignments in front are made first, and a refusal among them is the end. -/
theorem assignAll_append (e : Environment) (as bs : List (List Char × List Char)) :
    assignAll e (as ++ bs) = inTurn (assignAll · as) (assignAll · bs) e := by
  induction as generalizing e with
  | nil => rfl
  | cons a rest ih =>
      rw [List.cons_append, assignAll, inTurn, assignAll]
      split
      · rfl
      · exact ih _

/-- Made once more, assignments change nothing, and are refused where they were. -/
theorem assignAll_again (e : Environment) (as : List (List Char × List Char)) :
    assignAll (assignAll e as).2 as = assignAll e as := by
  induction as generalizing e with
  | nil => rfl
  | cons a rest ih =>
      obtain ⟨key, value⟩ := a
      have hset : ∀ f : Environment, (f.get? (String.ofList key)).isSome = true →
          assignAll (assignAll f rest).2 ((key, value) :: rest) = assignAll f rest := by
        intro f hsome
        obtain ⟨v, hv⟩ := Option.isSome_iff_exists.1 hsome
        have hagain : assign (assignAll f rest).2 key value = .ok (assignAll f rest).2 := by
          rw [assign, get?_assignAll_of_some hv]
          rfl
        rw [assignAll_cons_of_ok hagain, ih]
      obtain ⟨hsome, hassign⟩ | ⟨-, -, hassign⟩ | ⟨-, -, f, hassign, hget⟩ :=
        assign_cases e key value
      · rw [assignAll_cons_of_ok hassign, hset e hsome]
      · rw [assignAll_cons_of_error hassign, assignAll_cons_of_error hassign]
      · rw [assignAll_cons_of_ok hassign, hset f (by rw [hget, if_pos rfl]; rfl)]

theorem lookup_cons_name (key value : List Char) (as : List (List Char × List Char))
    (name : String) : ((key, value) :: as).lookup name.toList =
      if name = String.ofList key then some value else as.lookup name.toList := by
  by_cases heq : name = String.ofList key
  · rw [if_pos heq, heq, String.toList_ofList, List.lookup_cons_self]
  · have hne : (name.toList == key) = false := by
      refine beq_eq_false_iff_ne.2 fun h => heq ?_
      rw [← h, String.ofList_toList]
    rw [if_neg heq, List.lookup_cons, hne]

/-- Assignments that are all made leave each variable as it was, or with the first
value under its name. -/
theorem get?_assignAll {f : Environment} (h : assignAll e as = (.ok (), f)) (name : String) :
    f.get? name = (e.get? name).or ((as.lookup name.toList).map String.ofList) := by
  induction as generalizing e with
  | nil =>
      obtain ⟨-, rfl⟩ := Prod.mk.inj h
      simp
  | cons a rest ih =>
      obtain ⟨key, value⟩ := a
      rw [lookup_cons_name]
      obtain ⟨hsome, hassign⟩ | ⟨-, -, hassign⟩ | ⟨hnone, -, g, hassign, hget⟩ :=
        assign_cases e key value
      · rw [assignAll_cons_of_ok hassign] at h
        rw [ih h]
        by_cases heq : name = String.ofList key
        · obtain ⟨v, hv⟩ := Option.isSome_iff_exists.1 hsome
          rw [heq, hv, Option.some_or, Option.some_or]
        · rw [if_neg heq]
      · rw [assignAll_cons_of_error hassign] at h
        cases h
      · rw [assignAll_cons_of_ok hassign] at h
        rw [ih h, hget]
        by_cases heq : name = String.ofList key
        · rw [if_pos heq, if_pos heq, heq, hnone]
          rfl
        · rw [if_neg heq, if_neg heq]

/-- Assignments are refused exactly for a first value, under a name that is not set,
that cannot be assigned. -/
theorem assignAll_eq_error_iff {fault : EnvFileError} :
    (assignAll e as).1 = .error fault ↔ fault = .embeddedNul ∧ ∃ (name : String) (value : List Char),
      e.get? name = none ∧ as.lookup name.toList = some value ∧ HasNul name.toList value := by
  induction as generalizing e with
  | nil => simp [assignAll]
  | cons a rest ih =>
      obtain ⟨key, value⟩ := a
      simp only [lookup_cons_name]
      obtain ⟨hsome, hassign⟩ | ⟨hnone, hnul, hassign⟩ | ⟨hnone, hnul, f, hassign, hget⟩ :=
        assign_cases e key value
      · rw [assignAll_cons_of_ok hassign, ih]
        refine and_congr_right fun _ => exists_congr fun name => exists_congr fun v =>
          and_congr_right fun hname => ?_
        have hne : name ≠ String.ofList key := by
          rintro rfl
          rw [hname] at hsome
          contradiction
        rw [if_neg hne]
      · rw [assignAll_cons_of_error hassign]
        constructor
        · intro h
          refine ⟨(Except.error.inj h).symm, String.ofList key, value, hnone, if_pos rfl, ?_⟩
          rwa [String.toList_ofList]
        · intro h
          rw [h.1]
      · rw [assignAll_cons_of_ok hassign, ih]
        refine and_congr_right fun _ => exists_congr fun name => exists_congr fun v => ?_
        rw [hget]
        by_cases heq : name = String.ofList key
        · -- the name is set by now, and its value could be assigned
          rw [if_pos heq, if_pos heq]
          constructor
          · intro h
            exact absurd h.1 (by simp)
          · intro h
            obtain ⟨-, hvalue, hfault⟩ := h
            rw [heq, String.toList_ofList, ← Option.some.inj hvalue] at hfault
            exact absurd hfault hnul
        · rw [if_neg heq, if_neg heq]

end

/-! ## files -/

theorem decode?_encode (text : List Char) : Text.Utf8.decode? (encode text) = some text := by
  rw [Text.Utf8.decode?, Text.Utf8.decodeLossy_encode, if_pos rfl]

section

variable {files : FileTree} {path : RawText} (e : Environment)

/-- A file that holds a text is loaded assignment by assignment. -/
theorem load_of_read {text : List Char} (hread : files.read path = .ok (encode text)) :
    load files path e = assignAll e (assignments text) := by
  rw [load, hread]
  simp only [loadBytes, decode?_encode]
  rfl

/-- Whatever comes of loading, variables that are set keep their values. -/
theorem get?_load_of_some {name v : String} (h : e.get? name = some v) :
    (load files path e).2.get? name = some v := by
  rw [load]
  split
  · rw [loadBytes]
    split
    · exact h
    · exact get?_assignAll_of_some h
  all_goals exact h

end

/-- The value of a variable behind a load that went through. -/
theorem get?_eq_some_iff_of_assignAll {e f : Environment} {text : List Char}
    (h : assignAll e (assignments text) = (.ok (), f)) {name v : String} :
    f.get? name = some v ↔ e.get? name = some v ∨ e.get? name = none ∧ FirstAssigns text name v := by
  rw [get?_assignAll h, firstAssigns_iff, Option.or_eq_some_iff, Option.map_eq_some_iff]
  refine or_congr_right (and_congr_right fun _ => ⟨fun hvalue => ?_, fun hvalue => ?_⟩)
  · obtain ⟨value, hvalue, rfl⟩ := hvalue
    rwa [String.toList_ofList]
  · exact ⟨v.toList, hvalue, String.ofList_toList⟩

theorem lookup_map_toList (pairs : List (String × String)) (name : String) :
    (pairs.map fun pair => (pair.1.toList, pair.2.toList)).lookup name.toList =
      (pairs.lookup name).map String.toList := by
  induction pairs with
  | nil => rfl
  | cons pair rest ih =>
      obtain ⟨key, value⟩ := pair
      rw [List.map_cons, lookup_cons_name, String.ofList_toList, ih]
      by_cases heq : name = key
      · rw [if_pos heq, heq, List.lookup_cons_self]
        rfl
      · rw [if_neg heq, List.lookup_cons, beq_eq_false_iff_ne.2 heq]

/-- Pairs that can be put on one line each are all assigned. -/
theorem assignAll_pairs {pairs : List (String × String)}
    (h : ∀ pair ∈ pairs, OneLine pair.1 pair.2) (e : Environment) :
    (assignAll e (pairs.map fun pair => (pair.1.toList, pair.2.toList))).1 = .ok () := by
  cases hresult : (assignAll e (pairs.map fun pair => (pair.1.toList, pair.2.toList))).1 with
  | ok _ => rfl
  | error fault =>
      obtain ⟨-, name, value, -, hvalue, hnul⟩ := assignAll_eq_error_iff.1 hresult
      rw [lookup_map_toList, Option.map_eq_some_iff] at hvalue
      obtain ⟨v, hv, rfl⟩ := hvalue
      obtain ⟨front, back, rfl, -⟩ := List.lookup_eq_some_iff.1 hv
      exact absurd (List.mem_append.2 hnul) (h (name, v) (by simp)).no_nul

/-- **A file of assignments only gives defaults.**  Whatever is loaded, and whether or
not it can be, the variables that are set keep their values.  Loading a file that
holds a text is refused exactly if the first line that assigns to some variable that
is not set holds a NUL character in its name or its value; otherwise each such
variable has the value of its first line, no other variable is there, and loading the
file again changes nothing.  Two files in turn are one file with a line feed between
their contents.  Values between quotes are loaded as they are, whatever they hold. -/
theorem load_defaults (files : FileTree) (e : Environment) :
    (∀ path name v, e.get? name = some v → (load files path e).2.get? name = some v) ∧
    (∀ path text, files.read path = .ok (encode text) →
      (∀ fault, (load files path e).1 = .error fault ↔ fault = .embeddedNul ∧ ∃ name v,
        e.get? name = none ∧ FirstAssigns text name v ∧ HasNul name.toList v.toList) ∧
      ((load files path e).1 = .ok () → ∀ name v, (load files path e).2.get? name = some v ↔
        e.get? name = some v ∨ e.get? name = none ∧ FirstAssigns text name v) ∧
      load files path (load files path e).2 = load files path e) ∧
    (∀ front back both a b, files.read front = .ok (encode a) → files.read back = .ok (encode b) →
      files.read both = .ok (encode a ++ 0x0A :: encode b) →
      load files both e = inTurn (load files front) (load files back) e) ∧
    ∀ path text pairs, (∀ pair ∈ pairs, OneLine pair.1 pair.2) →
      (text = quotedText pairs ∨ text ++ ['\n'] = quotedText pairs) →
      files.read path = .ok (encode text) →
      (load files path e).1 = .ok () ∧
      ∀ name, (load files path e).2.get? name = (e.get? name).or (pairs.lookup name) := by
  refine ⟨fun path name v => get?_load_of_some e, fun path text hread => ?_,
    fun front back both a b hfront hback hboth => ?_, fun path text pairs hpairs htext hread => ?_⟩
  · rw [load_of_read e hread, load_of_read _ hread]
    refine ⟨fun fault => ?_, fun hok name v => ?_, assignAll_again e _⟩
    · rw [assignAll_eq_error_iff]
      refine and_congr_right fun _ => exists_congr fun name => ⟨fun h => ?_, fun h => ?_⟩
      · obtain ⟨value, hname, hvalue, hnul⟩ := h
        refine ⟨String.ofList value, hname, firstAssigns_iff.2 ?_, ?_⟩
        · rwa [String.toList_ofList]
        · rwa [String.toList_ofList]
      · obtain ⟨v, hname, hvalue, hnul⟩ := h
        exact ⟨v.toList, hname, firstAssigns_iff.1 hvalue, hnul⟩
    · exact get?_eq_some_iff_of_assignAll (Prod.ext hok rfl)
  · have hencode : encode a ++ 0x0A :: encode b = encode (a ++ '\n' :: b) := by
      rw [Text.Utf8.encode_append, Text.Utf8.encode_cons]
      rfl
    rw [hencode] at hboth
    have hloads : load files front = (assignAll · (assignments a)) :=
      funext fun e => load_of_read e hfront
    have hloads' : load files back = (assignAll · (assignments b)) :=
      funext fun e => load_of_read e hback
    rw [load_of_read e hboth, assignments_append, assignAll_append, hloads, hloads']
  · have hok := assignAll_pairs hpairs e
    rw [load_of_read e hread, assignments_quotedText hpairs htext]
    refine ⟨hok, fun name => ?_⟩
    rw [get?_assignAll (Prod.ext hok rfl), lookup_map_toList, Option.map_map]
    have hback : String.ofList ∘ String.toList = id := funext fun s => String.ofList_toList
    rw [hback, Option.map_id, id]

/-- A value that holds both quotes, a number sign, an equals sign and blanks, under
names that are set to nothing, set by an earlier line, and new; and a file whose second
half is a file of its own. -/
theorem load_defaults_hostile_value :
    let pairs := [("NEW", "\x27 a=b # \x22"), ("EMPTY", "x"), ("NEW", "later")]
    let files := ((FileTree.fresh.seed "a" (.file (encode (quotedText pairs)))).seed "b"
      (.file (encode "# c\rOTHER = 1\u2028=2".toList))).seed "ab"
      (.file (encode (quotedText pairs) ++ 0x0A :: encode "# c\rOTHER = 1\u2028=2".toList))
    let e : Environment := ⟨[("EMPTY", "")]⟩
    (load files "a" e).1 = .ok () ∧
      (load files "a" e).2.get? "NEW" = some "\x27 a=b # \x22" ∧
      (load files "a" e).2.get? "EMPTY" = some "" ∧
      load files "ab" e = inTurn (load files "a") (load files "b") e ∧
      load files "b" (load files "b" e).2 = load files "b" e := by
  intro pairs files e
  have hpairs : ∀ pair ∈ pairs, OneLine pair.1 pair.2 := by decide
  have ha : files.read "a" = .ok (encode (quotedText pairs)) := by decide +kernel
  have hb : files.read "b" = .ok (encode "# c\rOTHER = 1\u2028=2".toList) := by decide +kernel
  have hab : files.read "ab" =
      .ok (encode (quotedText pairs) ++ 0x0A :: encode "# c\rOTHER = 1\u2028=2".toList) := by
    decide +kernel
  obtain ⟨hkept, htext, hjoined, hquoted⟩ := load_defaults files e
  obtain ⟨hok, hget⟩ := hquoted "a" _ pairs hpairs (.inl rfl) ha
  exact ⟨hok, hget "NEW", hkept "a" "EMPTY" "" rfl, hjoined "a" "b" "ab" _ _ ha hb hab,
    (htext "b" _ hb).2.2⟩

end BatchMailer.EnvFile
