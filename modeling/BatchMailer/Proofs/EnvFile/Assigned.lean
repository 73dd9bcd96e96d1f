import BatchMailer.EnvFile
import BatchMailer.Proofs.Text.Trimmed
import Mathlib.Data.List.Basic

/-!
# BatchMailer.Proofs.EnvFile.Assigned

What the lines of a file assign, by how they are written.

A line is a key, an equals sign and a value, with blanks around both (`Assigns`);
this decides what is read from it (`assignment?_eq_some_iff`).  Texts that are put
one behind the other, with a line feed between them, assign what each of them
does (`assignments_append`), and values between quotes are read as they are,
whatever they hold (`assignment?_quotedLine`).
-/

namespace BatchMailer

namespace Text

/-- A boundary ends a line, unless it makes one boundary with a line feed behind it. -/
theorem lines_cons_of_break {c : Char} {rest : List Char} (hc : isLineBreak c = true)
    (hpair : c = '\r' → rest.head? ≠ some '\n') : lines (c :: rest) = [] :: lines rest := by
  rw [lines.eq_def]
  split
  · contradiction
  · next more heq =>
      obtain ⟨hreturn, hmore⟩ := List.cons.inj heq
      exact absurd (by rw [hmore]; rfl) (hpair hreturn)
  · next d more _ heq =>
      obtain ⟨rfl, rfl⟩ := List.cons.inj heq
      rw [if_pos hc]

theorem lines_lineFeed (rest : List Char) : lines ('\n' :: rest) = [] :: lines rest :=
  lines_cons_of_break (by decide) fun h => absurd h (by decide)

theorem lines_ne_nil {cs : List Char} (h : cs ≠ []) : lines cs ≠ [] := by
  fun_cases lines cs
  · contradiction
  all_goals simp

/-- A line feed ends what stands in front of it.  If that has just been ended there
is an empty line, unless the two make one boundary. -/
theorem lines_append_lineFeed (front back : List Char) :
    ∃ blank, (∀ line ∈ blank, line = []) ∧
      lines (front ++ '\n' :: back) = lines front ++ blank ++ lines back := by
  fun_induction lines front with
  | case1 => exact ⟨[[]], by simp, lines_lineFeed back⟩
  | case2 rest ih =>
      obtain ⟨blank, hblank, hlines⟩ := ih
      exact ⟨blank, hblank, by simp [lines, hlines]⟩
  | case3 c rest hpair hbreak ih =>
      obtain ⟨blank, hblank, hlines⟩ := ih
      cases rest with
      | nil =>
          by_cases hc : c = '\r'
          · subst hc
            exact ⟨[], by simp, by simp [lines]⟩
          · refine ⟨[[]], by simp, ?_⟩
            rw [List.singleton_append, lines_cons_of_break hbreak fun h => absurd h hc,
              lines_lineFeed]
            rfl
      | cons d rest =>
          refine ⟨blank, hblank, ?_⟩
          rw [List.cons_append, lines_cons_of_break hbreak, hlines]
          · rfl
          · intro hc hd
            exact hpair rest hc (by rw [Option.some.inj hd])
  | case4 c rest hpair hbreak hnone ih =>
      have hrest : rest = [] := by
        by_contra hne
        exact lines_ne_nil hne hnone
      subst hrest
      refine ⟨[], by simp, ?_⟩
      rw [List.singleton_append, lines_cons_of_not_break (by simpa using hbreak), lines_lineFeed]
      rfl
  | case5 c rest hpair hbreak first more hlines ih =>
      obtain ⟨blank, hblank, happend⟩ := ih
      refine ⟨blank, hblank, ?_⟩
      rw [List.cons_append, lines_cons_of_not_break (by simpa using hbreak), happend, hlines]
      rfl

/-- What holds no boundary is one line. -/
theorem lines_line {line : List Char} (hline : ∀ c ∈ line, isLineBreak c = false)
    (rest : List Char) : lines (line ++ '\n' :: rest) = line :: lines rest := by
  induction line with
  | nil => exact lines_lineFeed rest
  | cons c more ih =>
      rw [List.cons_append, lines_cons_of_not_break (hline c List.mem_cons_self),
        ih fun d hd => hline d (List.mem_cons_of_mem c hd)]
      rfl

theorem lines_last_line {line : List Char} (hne : line ≠ [])
    (hline : ∀ c ∈ line, isLineBreak c = false) : lines line = [line] := by
  induction line with
  | nil => contradiction
  | cons c more ih =>
      rw [lines_cons_of_not_break (hline c List.mem_cons_self)]
      cases more with
      | nil => rfl
      | cons d more =>
          rw [ih (List.cons_ne_nil d more) fun e he => hline e (List.mem_cons_of_mem c he)]
          rfl

end Text

namespace EnvFile

open Text (Trimmed isBlank isLineBreak trimWhere trimBack trimWhere_eq_iff)

/-! ## values -/

/-- A value as it is written: between two quotes, or as it is if it does not stand
between two. -/
def Spells (written value : List Char) : Prop :=
  (∃ q r, isQuote q = true ∧ isQuote r = true ∧ written = q :: value ++ [r]) ∨
    written = value ∧ ∀ q r inner, isQuote q = true → isQuote r = true →
      written ≠ q :: inner ++ [r]

theorem unquote_quoted {q r : Char} (hq : isQuote q = true) (hr : isQuote r = true)
    (value : List Char) : unquote (q :: value ++ [r]) = value := by
  have hlast : (q :: value ++ [r]).getLast? = some r := List.getLast?_concat
  rw [unquote, if_pos]
  · rw [List.cons_append, List.drop_one, List.tail_cons, List.dropLast_concat]
  · refine ⟨by simp, by simpa using hq, ?_⟩
    rw [hlast]
    exact hr

theorem unquote_bare {written : List Char}
    (h : ∀ q r inner, isQuote q = true → isQuote r = true → written ≠ q :: inner ++ [r]) :
    unquote written = written := by
  rw [unquote, if_neg]
  intro hquoted
  obtain ⟨hlength, hhead, hlast⟩ := hquoted
  cases written with
  | nil => contradiction
  | cons q rest =>
      obtain rfl | ⟨inner, r, rfl⟩ := List.eq_nil_or_concat rest
      · simp at hlength
      · have hr : (q :: inner ++ [r]).getLast? = some r := List.getLast?_concat
        rw [List.concat_eq_append, ← List.cons_append, hr] at hlast
        exact h q r inner hhead hlast (by rw [List.concat_eq_append, List.cons_append])

/-- A value is read off as it is written. -/
theorem unquote_eq_iff {written value : List Char} :
    unquote written = value ↔ Spells written value := by
  constructor
  · rintro rfl
    by_cases hquoted : ∃ q r inner, isQuote q = true ∧ isQuote r = true ∧ written = q :: inner ++ [r]
    · obtain ⟨q, r, inner, hq, hr, rfl⟩ := hquoted
      rw [unquote_quoted hq hr]
      exact .inl ⟨q, r, hq, hr, rfl⟩
    · have hbare : ∀ q r inner, isQuote q = true → isQuote r = true → written ≠ q :: inner ++ [r] :=
        fun q r inner hq hr h => hquoted ⟨q, r, inner, hq, hr, h⟩
      exact .inr ⟨(unquote_bare hbare).symm, hbare⟩
  · intro h
    obtain ⟨q, r, hq, hr, rfl⟩ | ⟨rfl, hbare⟩ := h
    · exact unquote_quoted hq hr value
    · exact unquote_bare hbare

/-! ## lines -/

/-- What can be a key: it is not empty, no blanks surround it, it holds no equals
sign, and it does not make a comment of its line. -/
structure IsKey (key : List Char) : Prop where
  ne_nil : key ≠ []
  trimmed : Trimmed isBlank key
  no_equals : '=' ∉ key
  no_comment : key.head? ≠ some '#'

instance (key : List Char) : Decidable (IsKey key) :=
  decidable_of_iff (key ≠ [] ∧ Trimmed isBlank key ∧ '=' ∉ key ∧ key.head? ≠ some '#')
    ⟨fun ⟨ne_nil, trimmed, no_equals, no_comment⟩ => ⟨ne_nil, trimmed, no_equals, no_comment⟩,
      fun ⟨ne_nil, trimmed, no_equals, no_comment⟩ => ⟨ne_nil, trimmed, no_equals, no_comment⟩⟩

/-- A line that assigns a value to a key: the two, with an equals sign between them
and blanks around both. -/
def Assigns (line key value : List Char) : Prop :=
  ∃ left before after written right,
    line = left ++ key ++ before ++ '=' :: (after ++ written ++ right) ∧
    (∀ c ∈ left ++ before ++ after ++ right, isBlank c = true) ∧
    IsKey key ∧ Trimmed isBlank written ∧ Spells written value

section

variable {line key value : List Char}

theorem ne_equals_of_isBlank {c : Char} (h : isBlank c = true) : c ≠ '=' := by
  rintro rfl
  contradiction

/-- A text with an equals sign, taken apart at the first. -/
theorem eq_of_dropWhile {text tail : List Char} {c : Char}
    (h : text.dropWhile (· != '=') = c :: tail) :
    text = text.takeWhile (· != '=') ++ '=' :: tail := by
  have hhead := List.head?_dropWhile_not (· != '=') text
  rw [h] at hhead
  obtain rfl : c = '=' := by simpa using hhead
  rw [← h, List.takeWhile_append_dropWhile]

/-- The key of a text that is trimmed starts where the text does. -/
theorem exists_key {front tail : List Char} (htext : Trimmed isBlank (front ++ '=' :: tail)) :
    ∃ before, front = trimWhere isBlank front ++ before ∧ ∀ c ∈ before, isBlank c = true := by
  obtain ⟨left, before, hfront, hleft, hbefore⟩ := Text.exists_trimWhere isBlank front
  cases left with
  | nil => exact ⟨before, hfront, hbefore⟩
  | cons c more =>
      have hblank := hleft c List.mem_cons_self
      rw [htext.front c (by rw [hfront]; rfl)] at hblank
      contradiction

/-- What a line is read as, the blanks around it aside: its key ends at the first
equals sign. -/
theorem assignment?_eq_some_iff_trimmed : assignment? line = some (key, value) ↔
    ∃ before tail, trimWhere isBlank line = key ++ before ++ '=' :: tail ∧
      (∀ c ∈ before, isBlank c = true) ∧ IsKey key ∧
      unquote (trimWhere isBlank tail) = value := by
  have htrimmed := Text.trimmed_trimWhere isBlank line
  rw [assignment?]
  generalize trimWhere isBlank line = text at htrimmed
  simp only
  constructor
  · intro h
    split at h
    · contradiction
    · next hcomment =>
        split at h
        · contradiction
        · next c tail hrest =>
            have htext := eq_of_dropWhile hrest
            split at h
            · contradiction
            · next hkey =>
                obtain ⟨rfl, rfl⟩ := Prod.mk.inj (Option.some.inj h)
                have hne := fun hnil => hkey (List.isEmpty_iff.2 hnil)
                rw [htext] at htrimmed
                obtain ⟨before, hfront, hbefore⟩ := exists_key htrimmed
                refine ⟨before, tail, ?_, hbefore, ⟨hne, Text.trimmed_trimWhere _ _, ?_, ?_⟩, rfl⟩
                · rw [← hfront]
                  exact htext
                · intro hmem
                  have hpass := List.mem_takeWhile_imp
                    (hfront ▸ List.mem_append_left before hmem : '=' ∈ text.takeWhile (· != '='))
                  contradiction
                · intro hhead
                  refine hcomment ?_
                  rw [htext, List.head?_append, hfront, List.head?_append, hhead]
                  rfl
  · intro h
    obtain ⟨before, tail, rfl, hbefore, hkey, hvalue⟩ := h
    have hpass : ∀ c ∈ key ++ before, (c != '=') = true := by
      intro c hc
      refine bne_iff_ne.2 ?_
      obtain hc | hc := List.mem_append.1 hc
      · rintro rfl
        exact hkey.no_equals hc
      · exact ne_equals_of_isBlank (hbefore c hc)
    have hcomment : ((key ++ before) ++ '=' :: tail).head? ≠ some '#' := by
      cases key with
      | nil => exact absurd rfl hkey.ne_nil
      | cons c more => exact hkey.no_comment
    have hfront : (((key ++ before) ++ '=' :: tail).takeWhile (· != '=')) = key ++ before := by
      rw [List.takeWhile_append_of_pos hpass, List.takeWhile_cons_of_neg (by simp),
        List.append_nil]
    have hback : (((key ++ before) ++ '=' :: tail).dropWhile (· != '=')) = '=' :: tail := by
      rw [List.dropWhile_append_of_pos hpass, List.dropWhile_cons_of_neg (by simp)]
    have hname : trimWhere isBlank (key ++ before) = key :=
      Text.trimWhere_eq_iff.2 ⟨hkey.trimmed, [], before, rfl, fun c hc => by contradiction, hbefore⟩
    rw [if_neg hcomment, hfront, hback, hname]
    simp [hkey.ne_nil, hvalue]

/-- What a line assigns is decided by how it is written. -/
theorem assignment?_eq_some_iff : assignment? line = some (key, value) ↔ Assigns line key value := by
  rw [assignment?_eq_some_iff_trimmed]
  constructor
  · intro h
    obtain ⟨before, tail, htext, hbefore, hkey, hvalue⟩ := h
    obtain ⟨left, right, hline, hleft, hright⟩ := Text.exists_trimWhere isBlank line
    obtain ⟨after, last, htail, hafter, hlast⟩ := Text.exists_trimWhere isBlank tail
    refine ⟨left, before, after, trimWhere isBlank tail, last ++ right, ?_, ?_, hkey,
      Text.trimmed_trimWhere isBlank tail, unquote_eq_iff.1 hvalue⟩
    · calc line = left ++ (key ++ before ++ '=' :: tail) ++ right := by rw [← htext]; exact hline
        _ = left ++ key ++ before ++ '=' :: (tail ++ right) := by simp
        _ = left ++ key ++ before ++ '=' :: (after ++ trimWhere isBlank tail ++ (last ++ right)) := by
          rw [← List.append_assoc, ← htail]
    · intro c hc
      simp only [List.mem_append] at hc
      obtain ((hc | hc) | hc) | hc | hc := hc
      · exact hleft c hc
      · exact hbefore c hc
      · exact hafter c hc
      · exact hlast c hc
      · exact hright c hc
  · intro h
    obtain ⟨left, before, after, written, right, rfl, hblank, hkey, hwritten, hvalue⟩ := h
    have hleft : ∀ c ∈ left, isBlank c = true := fun c hc => hblank c (by simp [hc])
    have hafter : ∀ c ∈ after, isBlank c = true := fun c hc => hblank c (by simp [hc])
    have hright : ∀ c ∈ right, isBlank c = true := fun c hc => hblank c (by simp [hc])
    refine ⟨before, trimBack isBlank (after ++ written ++ right), ?_,
      fun c hc => hblank c (by simp [hc]), hkey, unquote_eq_iff.2 ?_⟩
    · obtain ⟨first, more, rfl⟩ := List.exists_cons_of_ne_nil hkey.ne_nil
      have hfirst : isBlank first = false := hkey.trimmed.front first rfl
      have hfront : ∀ c, (first :: more ++ before ++ '=' :: (after ++ written ++ right)).head? =
          some c → isBlank c = false := by
        intro c hc
        rw [← Option.some.inj hc]
        exact hfirst
      rw [trimWhere, List.append_assoc, List.append_assoc, Text.trimFront_append hleft,
        ← List.append_assoc, Text.trimFront_of_head hfront, Text.trimBack_append_cons (by decide)]
    · rwa [Text.trimWhere_trimBack, Text.trimWhere_append hwritten hafter hright]

end

/-! ## texts -/

/-- Texts with a line feed between them assign what the one does and then what the
other does. -/
theorem assignments_append (front back : List Char) :
    assignments (front ++ '\n' :: back) = assignments front ++ assignments back := by
  obtain ⟨blank, hblank, hlines⟩ := Text.lines_append_lineFeed front back
  have hnone : blank.filterMap assignment? = [] := by
    rw [List.filterMap_eq_nil_iff]
    intro line hline
    rw [hblank line hline]
    rfl
  rw [assignments, hlines, List.filterMap_append, List.filterMap_append, hnone, List.append_nil,
    assignments, assignments]

/-- The first line of a text that assigns to a name gives it a value. -/
def FirstAssigns (text : List Char) (name value : String) : Prop :=
  ∃ front line back, Text.lines text = front ++ line :: back ∧
    Assigns line name.toList value.toList ∧
    ∀ other ∈ front, ∀ v, ¬ Assigns other name.toList v

/-- The value that a name is given first is the first one under it. -/
theorem firstAssigns_iff {text : List Char} {name value : String} :
    FirstAssigns text name value ↔
      (assignments text).lookup name.toList = some value.toList := by
  rw [assignments, List.lookup_eq_some_iff]
  constructor
  · intro h
    obtain ⟨front, line, back, hlines, hline, hfirst⟩ := h
    refine ⟨front.filterMap assignment?, back.filterMap assignment?, ?_, fun a ha => ?_⟩
    · rw [hlines, List.filterMap_append,
        List.filterMap_cons_some (assignment?_eq_some_iff.2 hline)]
    · obtain ⟨other, hother, hassigned⟩ := List.mem_filterMap.1 ha
      refine bne_iff_ne.2 fun heq => hfirst other hother a.2 ?_
      rw [heq]
      exact assignment?_eq_some_iff.1 hassigned
  · intro h
    obtain ⟨front, back, hfilter, hfirst⟩ := h
    obtain ⟨before, rest, hlines, rfl, hrest⟩ := List.filterMap_eq_append_iff.1 hfilter
    obtain ⟨skipped, line, back', rfl, hskipped, hline, -⟩ := List.filterMap_eq_cons_iff.1 hrest
    refine ⟨before ++ skipped, line, back', by rw [hlines, List.append_assoc],
      assignment?_eq_some_iff.1 hline, fun other hother v hassigns => ?_⟩
    have hassigned := assignment?_eq_some_iff.2 hassigns
    obtain hother | hother := List.mem_append.1 hother
    · exact bne_iff_ne.1 (hfirst _ (List.mem_filterMap.2 ⟨other, hother, hassigned⟩)) rfl
    · rw [hskipped other hother] at hassigned
      contradiction

/-! ## values between quotes -/

/-- A line that assigns a value between quotes. -/
def quotedLine (key value : List Char) : List Char := key ++ '=' :: '\x22' :: (value ++ ['\x22'])

/-- A name and a value that can be put on one line: the name can be a key, and
neither holds a boundary or a NUL character. -/
structure OneLine (name value : String) : Prop where
  key : IsKey name.toList
  no_break : ∀ c ∈ name.toList ++ value.toList, isLineBreak c = false
  no_nul : '\x00' ∉ name.toList ++ value.toList

instance (name value : String) : Decidable (OneLine name value) :=
  decidable_of_iff (IsKey name.toList ∧
      (name.toList ++ value.toList).all (!isLineBreak ·) = true ∧
      '\x00' ∉ name.toList ++ value.toList) <| by
    simp only [List.all_eq_true, Bool.not_eq_true']
    exact ⟨fun ⟨key, no_break, no_nul⟩ => ⟨key, no_break, no_nul⟩,
      fun ⟨key, no_break, no_nul⟩ => ⟨key, no_break, no_nul⟩⟩

/-- The text with one line for each pair of a name and a value. -/
def quotedText (pairs : List (String × String)) : List Char :=
  pairs.flatMap fun pair => quotedLine pair.1.toList pair.2.toList ++ ['\n']

theorem trimmed_quoted (value : List Char) : Trimmed isBlank ('\x22' :: value ++ ['\x22']) := by
  have hquote : isBlank '\x22' = false := by decide
  constructor
  · intro c hc
    rw [← Option.some.inj hc]
    exact hquote
  · intro c hc
    rw [List.getLast?_concat] at hc
    rw [← Option.some.inj hc]
    exact hquote

/-- A value between quotes is read as it is, whatever it holds. -/
theorem assignment?_quotedLine {key : List Char} (hkey : IsKey key) (value : List Char) :
    assignment? (quotedLine key value) = some (key, value) := by
  refine assignment?_eq_some_iff.2 ⟨[], [], [], '\x22' :: value ++ ['\x22'], [], ?_, ?_, hkey,
    trimmed_quoted value, .inl ⟨'\x22', '\x22', by decide, by decide, rfl⟩⟩
  · simp [quotedLine]
  · intro c hc
    contradiction

theorem OneLine.not_break_quotedLine {name value : String} (h : OneLine name value) :
    ∀ c ∈ quotedLine name.toList value.toList, isLineBreak c = false := by
  intro c hc
  simp only [quotedLine, List.mem_append, List.mem_cons, List.not_mem_nil, or_false] at hc
  obtain hc | rfl | rfl | hc | rfl := hc
  · exact h.no_break c (List.mem_append_left _ hc)
  · decide
  · decide
  · exact h.no_break c (List.mem_append_right _ hc)
  · decide

theorem quotedLine_ne_nil (key value : List Char) : quotedLine key value ≠ [] := by
  simp [quotedLine]

/-- The lines of pairs, whatever stands behind them. -/
theorem lines_quotedText_append {pairs : List (String × String)}
    (h : ∀ pair ∈ pairs, OneLine pair.1 pair.2) (rest : List Char) :
    Text.lines (quotedText pairs ++ rest) =
      (pairs.map fun pair => quotedLine pair.1.toList pair.2.toList) ++ Text.lines rest := by
  induction pairs with
  | nil => rfl
  | cons pair more ih =>
      have hpair := (h pair List.mem_cons_self).not_break_quotedLine
      have hmore := ih fun other hother => h other (List.mem_cons_of_mem pair hother)
      rw [quotedText, List.flatMap_cons, ← quotedText, List.append_assoc, List.append_assoc,
        List.singleton_append, Text.lines_line hpair, hmore]
      rfl

/-- Whether or not the last line is ended, the lines of a text with one line for each
pair are those of the pairs. -/
theorem lines_quotedText {pairs : List (String × String)}
    (h : ∀ pair ∈ pairs, OneLine pair.1 pair.2) {text : List Char}
    (htext : text = quotedText pairs ∨ text ++ ['\n'] = quotedText pairs) :
    Text.lines text = pairs.map fun pair => quotedLine pair.1.toList pair.2.toList := by
  obtain rfl | hopen := htext
  · have hlines := lines_quotedText_append h []
    rwa [List.append_nil, Text.lines_nil, List.append_nil] at hlines
  · obtain rfl | ⟨front, last, rfl⟩ := List.eq_nil_or_concat pairs
    · simp [quotedText] at hopen
    · rw [List.concat_eq_append] at h hopen ⊢
      have hlast : OneLine last.1 last.2 := h last (by simp)
      have htext : text = quotedText front ++ quotedLine last.1.toList last.2.toList := by
        rw [quotedText, List.flatMap_append, List.flatMap_singleton, ← quotedText,
          ← List.append_assoc] at hopen
        exact List.append_cancel_right hopen
      rw [htext, lines_quotedText_append fun pair hpair => h pair (by simp [hpair]),
        Text.lines_last_line (quotedLine_ne_nil _ _) hlast.not_break_quotedLine, List.map_append]
      rfl

/-- Pairs that are written between quotes are read back. -/
theorem assignments_quotedText {pairs : List (String × String)}
    (h : ∀ pair ∈ pairs, OneLine pair.1 pair.2) {text : List Char}
    (htext : text = quotedText pairs ∨ text ++ ['\n'] = quotedText pairs) :
    assignments text = pairs.map fun pair => (pair.1.toList, pair.2.toList) := by
  rw [assignments, lines_quotedText h htext, List.filterMap_map,
    List.filterMap_eq_map_iff_forall_eq_some]
  exact fun pair hpair => assignment?_quotedLine (h pair hpair).key pair.2.toList

end EnvFile

end BatchMailer
