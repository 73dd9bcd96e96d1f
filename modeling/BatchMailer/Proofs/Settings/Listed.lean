import BatchMailer.Proofs.Settings.Switched
import BatchMailer.Proofs.Text.Trimmed
import Mathlib.Data.List.Induction

/-!
# BatchMailer.Proofs.Settings.Listed

Lists of texts on their way through a variable.

A list is written with commas between its items (`Text.Lists`): there may be blanks
around an item, and stretches of blanks alone count for nothing.  Every text is
written so for one list of items that can stand in a list, and this is what is read
from it (`Text.commaItems_eq_iff`).  That the whole text is trimmed before it is cut
makes no difference (`Text.commaItems_trimWhere`).  So a list that is put into a
variable, however it is written, comes out of it again (`items_of_lists`).
-/

namespace BatchMailer

namespace Text

/-- A text that can be an item of a list: there is something in it, no comma, and
no blank at either end. -/
structure ListItem (item : List Char) : Prop where
  ne_nil : item ≠ []
  no_comma : ',' ∉ item
  trimmed : Trimmed isBlank item

instance (item : List Char) : Decidable (ListItem item) :=
  decidable_of_iff (item ≠ [] ∧ ',' ∉ item ∧ Trimmed isBlank item)
    ⟨fun ⟨ne_nil, no_comma, trimmed⟩ => ⟨ne_nil, no_comma, trimmed⟩,
      fun ⟨ne_nil, no_comma, trimmed⟩ => ⟨ne_nil, no_comma, trimmed⟩⟩

/-- How stretches of text hold the items of a list, in order: in each there is one
item with blanks around it, or blanks alone. -/
inductive Hold : List (List Char) → List (List Char) → Prop where
  | nil : Hold [] []
  | blank {stretch : List Char} {stretches items : List (List Char)}
      (hblank : ∀ c ∈ stretch, isBlank c = true) (rest : Hold stretches items) :
      Hold (stretch :: stretches) items
  | item {left item right : List Char} {stretches items : List (List Char)}
      (hleft : ∀ c ∈ left, isBlank c = true) (hright : ∀ c ∈ right, isBlank c = true)
      (rest : Hold stretches items) : Hold ((left ++ item ++ right) :: stretches) (item :: items)

/-- How a list is written: with commas between stretches that hold its items. -/
def Lists (text : List Char) (items : List (List Char)) : Prop :=
  ∃ stretches, text = [','].intercalate stretches ∧ Hold stretches items

/-! ## stretches and what they hold -/

theorem ne_comma_of_isBlank {c : Char} (h : isBlank c = true) : c ≠ ',' := by
  rintro rfl
  exact absurd h (by decide)

/-- The items that are read from stretches of text. -/
def itemsOf (stretches : List (List Char)) : List (List Char) :=
  (stretches.map (trimWhere isBlank)).filter (!·.isEmpty)

theorem commaItems_eq_itemsOf (cs : List Char) : commaItems cs = itemsOf (cs.splitOn ',') := by
  rw [commaItems, segments_eq_splitOnP]
  rfl

/-- Any stretches hold the items that are read from them. -/
theorem hold_itemsOf (stretches : List (List Char)) : Hold stretches (itemsOf stretches) := by
  induction stretches with
  | nil => exact .nil
  | cons stretch rest ih =>
      obtain ⟨left, right, hstretch, hleft, hright⟩ := exists_trimWhere isBlank stretch
      rw [itemsOf, List.map_cons]
      generalize trimWhere isBlank stretch = item at hstretch
      subst hstretch
      cases item with
      | nil =>
          rw [List.append_nil]
          exact .blank (fun c hc => (List.mem_append.1 hc).elim (hleft c) (hright c)) ih
      | cons c more => exact .item hleft hright ih

/-- What stretches hold is read from them, if it can stand in a list. -/
theorem Hold.itemsOf_eq {stretches items : List (List Char)} (h : Hold stretches items)
    (hitems : ∀ item ∈ items, ListItem item) : itemsOf stretches = items := by
  induction h with
  | nil => rfl
  | blank hblank rest ih =>
      rw [itemsOf, List.map_cons, trimWhere_eq_nil_iff.2 hblank]
      exact ih hitems
  | item hleft hright rest ih =>
      rw [List.forall_mem_cons] at hitems
      obtain ⟨hitem, hitems⟩ := hitems
      rw [itemsOf, List.map_cons, trimWhere_append hitem.trimmed hleft hright,
        List.filter_cons_of_pos (by simp [hitem.ne_nil]), ← itemsOf, ih hitems]

theorem Hold.no_comma {stretches items : List (List Char)} (h : Hold stretches items)
    (hitems : ∀ item ∈ items, ListItem item) : ∀ stretch ∈ stretches, ',' ∉ stretch := by
  have hblanks : ∀ {cs : List Char}, (∀ c ∈ cs, isBlank c = true) → ',' ∉ cs :=
    fun hcs hc => ne_comma_of_isBlank (hcs _ hc) rfl
  induction h with
  | nil => exact fun _ h => absurd h List.not_mem_nil
  | blank hblank rest ih => exact List.forall_mem_cons.2 ⟨hblanks hblank, ih hitems⟩
  | item hleft hright rest ih =>
      rw [List.forall_mem_cons] at hitems
      refine List.forall_mem_cons.2 ⟨?_, ih hitems.2⟩
      simp [hblanks hleft, hblanks hright, hitems.1.no_comma]

/-- Items that stand alone in their stretches. -/
theorem hold_self (items : List (List Char)) : Hold items items := by
  induction items with
  | nil => exact .nil
  | cons item rest ih =>
      have hnone : ∀ c ∈ ([] : List Char), isBlank c = true := fun _ hc => absurd hc List.not_mem_nil
      have halone : Hold (([] ++ item ++ []) :: rest) (item :: rest) := .item hnone hnone ih
      simpa using halone

/-- Stretches of blanks hold nothing. -/
theorem hold_nil {stretches : List (List Char)}
    (h : ∀ stretch ∈ stretches, ∀ c ∈ stretch, isBlank c = true) : Hold stretches [] := by
  induction stretches with
  | nil => exact .nil
  | cons stretch rest ih =>
      rw [List.forall_mem_cons] at h
      exact .blank h.1 (ih h.2)

/-! ## lists as they are written -/

theorem listItem_of_mem_commaItems {cs item : List Char} (h : item ∈ commaItems cs) :
    ListItem item := by
  refine ⟨ne_nil_of_mem_commaItems h, fun hcomma => ?_, fun c hc => ends_of_mem_commaItems h (.inl hc),
    fun c hc => ends_of_mem_commaItems h (.inr hc)⟩
  obtain ⟨stretch, hstretch, rfl⟩ := List.mem_map.1 (List.mem_filter.1 h).1
  obtain ⟨left, right, hcs, -, -⟩ := exists_trimWhere isBlank stretch
  have hmem : ',' ∈ stretch := by
    rw [hcs]
    simp [hcomma]
  exact absurd (not_sep_of_mem_segments hstretch hmem) (by decide)

/-- **What is read from a text** is the one list of items that can stand in a list and
that the text is written for. -/
theorem commaItems_eq_iff {cs : List Char} {items : List (List Char)} :
    commaItems cs = items ↔ (∀ item ∈ items, ListItem item) ∧ Lists cs items := by
  constructor
  · rintro rfl
    refine ⟨fun item hitem => listItem_of_mem_commaItems hitem, cs.splitOn ',',
      (List.intercalate_splitOn ',').symm, ?_⟩
    rw [commaItems_eq_itemsOf]
    exact hold_itemsOf _
  · intro h
    obtain ⟨hitems, stretches, rfl, hhold⟩ := h
    by_cases hne : stretches = []
    · subst hne
      cases hhold
      rfl
    · rw [commaItems_eq_itemsOf, List.splitOn_intercalate ',' (hhold.no_comma hitems) hne,
        hhold.itemsOf_eq hitems]

/-- Items with commas between them are a list as it is written. -/
theorem lists_join (items : List String) :
    Lists (",".intercalate items).toList (items.map String.toList) := by
  refine ⟨items.map String.toList, ?_, hold_self _⟩
  rw [String.toList_intercalate]
  rfl

/-- Commas and blanks alone are a list of no items. -/
theorem lists_nil {cs : List Char} (h : ∀ c ∈ cs, c = ',' ∨ isBlank c = true) : Lists cs [] := by
  refine ⟨cs.splitOn ',', (List.intercalate_splitOn ',').symm, hold_nil fun stretch hstretch c hc => ?_⟩
  rw [List.splitOn_eq_splitOnP, ← segments_eq_splitOnP] at hstretch
  have hcomma := not_sep_of_mem_segments hstretch hc
  exact (h c (mem_of_mem_segments hstretch hc)).resolve_left fun heq => by simp [heq] at hcomma

/-! ## blanks around a list -/

theorem commaItems_cons_blank {c : Char} (hc : isBlank c = true) (cs : List Char) :
    commaItems (c :: cs) = commaItems cs := by
  have hcomma : isComma c = false := beq_false_of_ne (ne_comma_of_isBlank hc)
  obtain ⟨stretch, more, heq⟩ := List.exists_cons_of_ne_nil (segments_ne_nil isComma cs)
  have htrim : trimWhere isBlank ([c] ++ stretch ++ []) = trimWhere isBlank stretch :=
    trimWhere_pad (by simpa using hc) (by simp) stretch
  rw [List.singleton_append, List.append_nil] at htrim
  rw [commaItems, commaItems, segments_cons_of_eq hcomma heq, heq, List.map_cons, List.map_cons,
    htrim]

theorem commaItems_concat_blank {c : Char} (hc : isBlank c = true) (cs : List Char) :
    commaItems (cs ++ [c]) = commaItems cs := by
  have hcomma : isComma c = false := beq_false_of_ne (ne_comma_of_isBlank hc)
  obtain ⟨front, last, heq⟩ : ∃ front last, segments isComma cs = front ++ [last] :=
    ⟨_, _, (List.dropLast_concat_getLast (segments_ne_nil isComma cs)).symm⟩
  have htrim : trimWhere isBlank ([] ++ last ++ [c]) = trimWhere isBlank last :=
    trimWhere_pad (by simp) (by simpa using hc) last
  rw [List.nil_append] at htrim
  rw [commaItems, commaItems, segments_append_not_sep hcomma, heq, List.dropLast_concat,
    List.getLastD_concat, List.map_append, List.map_append, List.map_singleton, htrim,
    List.map_singleton]

theorem commaItems_append_left {left : List Char} (hleft : ∀ c ∈ left, isBlank c = true)
    (cs : List Char) : commaItems (left ++ cs) = commaItems cs := by
  induction left with
  | nil => rfl
  | cons c left ih =>
      rw [List.forall_mem_cons] at hleft
      rw [List.cons_append, commaItems_cons_blank hleft.1, ih hleft.2]

theorem commaItems_append_right {right : List Char} (hright : ∀ c ∈ right, isBlank c = true)
    (cs : List Char) : commaItems (cs ++ right) = commaItems cs := by
  induction right using List.reverseRecOn with
  | nil => rw [List.append_nil]
  | append_singleton right c ih =>
      rw [List.forall_mem_append, List.forall_mem_singleton] at hright
      rw [← List.append_assoc, commaItems_concat_blank hright.2, ih hright.1]

/-- Trimming a list before it is cut makes no difference. -/
theorem commaItems_trimWhere (cs : List Char) :
    commaItems (trimWhere isBlank cs) = commaItems cs := by
  obtain ⟨left, right, hcs, hleft, hright⟩ := exists_trimWhere isBlank cs
  conv => rhs; rw [hcs]
  rw [commaItems_append_right hright, commaItems_append_left hleft]

end Text

namespace Environment

open Text (ListItem Lists commaItems)

variable {e : Environment} {name : String}

theorem items_of_get?_eq_none (h : e.get? name = none) : e.items name = [] := by
  rw [items, trimmed?, h]
  rfl

/-- The items of a variable are those of its value as it is. -/
theorem items_of_get?_eq_some {value : String} (h : e.get? name = some value) :
    e.items name = (commaItems value.toList).map String.ofList := by
  have hitems : commaItems (Text.trim value).toList = commaItems value.toList := by
    rw [Text.trim, String.toList_ofList, Text.commaItems_trimWhere]
  rw [items, trimmed?, h, Option.map_some, ← hitems]
  by_cases hempty : Text.trim value = ""
  · rw [hempty]
    rfl
  · rw [Option.filter_some, if_pos (by simpa using hempty)]

/-- A variable holds a list exactly if its value is written for it. -/
theorem items_eq_iff {value : String} (h : e.get? name = some value) {items : List String} :
    e.items name = items ↔ (∀ item ∈ items, ListItem item.toList) ∧
      Lists value.toList (items.map String.toList) := by
  have htexts : (commaItems value.toList).map String.ofList = items ↔
      commaItems value.toList = items.map String.toList := by
    constructor
    · rintro rfl
      simp [Function.comp_def]
    · intro heq
      simp [heq, Function.comp_def]
  rw [items_of_get?_eq_some h, htexts, Text.commaItems_eq_iff, List.forall_mem_map]

end Environment

/-- **A list survives its written form.**  What is read from a variable are items
that can stand in a list, for which its value is written, in this order; a variable
that is not set has none.  Set to its own items with commas between them, it has the
same items again.  Set to any value that is written for items that can stand in a
list, with whatever blanks around them and whatever stretches of blanks between them,
it has these items, and none if there are only commas and blanks.  The addresses for
replies of a configuration are read in this way. -/
theorem items_of_lists (e : Environment) (name : String) :
    (∀ item ∈ e.items name, Text.ListItem item.toList) ∧
      (e.get? name = none → e.items name = []) ∧
      (∀ value, e.get? name = some value →
        Text.Lists value.toList ((e.items name).map String.toList)) ∧
      (e.set name (",".intercalate (e.items name))).items name = e.items name ∧
      (∀ items : List String, (∀ item ∈ items, Text.ListItem item.toList) →
        ∀ value, Text.Lists value.toList (items.map String.toList) →
          (e.set name value).items name = items) ∧
      (∀ value, (∀ c ∈ value.toList, c = ',' ∨ Text.isBlank c = true) →
        (e.set name value).items name = []) ∧
      ∀ s, Settings.load e = .ok s → s.replyTo = e.items "MF_SES_REPLY_TO" := by
  have hlisted : ∀ item ∈ e.items name, Text.ListItem item.toList := by
    cases hvalue : e.get? name with
    | none => simp [Environment.items_of_get?_eq_none hvalue]
    | some value => exact ((Environment.items_eq_iff hvalue).1 rfl).1
  have hset : ∀ items : List String, (∀ item ∈ items, Text.ListItem item.toList) →
      ∀ value, Text.Lists value.toList (items.map String.toList) →
        (e.set name value).items name = items := by
    intro items hitems value hlists
    have hvalue : (e.set name value).get? name = some value := by simp
    exact (Environment.items_eq_iff hvalue).2 ⟨hitems, hlists⟩
  refine ⟨hlisted, Environment.items_of_get?_eq_none, ?_, ?_, hset, ?_, ?_⟩
  · exact fun value hvalue => ((Environment.items_eq_iff hvalue).1 rfl).2
  · exact hset _ hlisted _ (Text.lists_join _)
  · exact fun value hblank => hset [] (by simp) value (Text.lists_nil hblank)
  · intro s hload
    obtain ⟨-, -, -, hs⟩ := Settings.eq_of_load hload
    rw [hs]

/-- Two items among blank stretches, on every side of them; the same two with a comma
between them; and commas and blanks alone. -/
theorem items_of_lists_blank_stretches :
    let name := "MF_SES_REPLY_TO"
    let value := " \t, a b ,\u3000,c\u2003,,"
    let e := Environment.empty
    (e.set name value).items name = ["a b", "c"] ∧
      ((e.set name value).set name "a b,c").items name = ["a b", "c"] ∧
      (e.set name ", \n,").items name = [] := by
  intro name value e
  have hlists : Text.Lists value.toList (["a b", "c"].map String.toList) := by
    have hblank : ∀ {cs : List Char}, cs.all Text.isBlank = true →
        ∀ c ∈ cs, Text.isBlank c = true := List.all_eq_true.1
    have htexts : ["a b", "c"].map String.toList = [['a', ' ', 'b'], ['c']] := by decide
    rw [htexts]
    refine ⟨[[' ', '\t'], [' '] ++ ['a', ' ', 'b'] ++ [' '], ['\u3000'], [] ++ ['c'] ++ ['\u2003'],
      [], []], by decide, .blank (hblank (by decide)) ?_⟩
    refine .item (hblank (by decide)) (hblank (by decide)) (.blank (hblank (by decide)) ?_)
    refine .item (hblank (by decide)) (hblank (by decide)) (.blank (hblank (by decide)) ?_)
    exact .blank (hblank (by decide)) .nil
  obtain ⟨-, -, -, -, hset, hnone, -⟩ := items_of_lists e name
  have hitems : (e.set name value).items name = ["a b", "c"] :=
    hset ["a b", "c"] (by decide) value hlists
  obtain ⟨-, -, -, hjoined, -⟩ := items_of_lists (e.set name value) name
  rw [hitems] at hjoined
  refine ⟨hitems, hjoined, hnone ", \n," fun c hc => ?_⟩
  have hall : ", \n,".toList.all (fun c => c == ',' || Text.isBlank c) = true := by decide
  simpa using List.all_eq_true.1 hall c hc

end BatchMailer
