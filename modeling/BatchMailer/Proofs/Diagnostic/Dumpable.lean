import BatchMailer.Diagnostic

/-!
# BatchMailer.Proofs.Diagnostic.Dumpable

Responses that have no dump.

A dump is put together before its file is opened, and there are two things in a response
that cannot be written: an integer of more than 4300 digits, however deep in a value
(`Value.HoldsLong`), and a surrogate in a text that is written as it is.  A text inside a
list or a table is quoted, and quoting leaves no surrogate.  So there are six ways for a
response to have no dump (`HttpResponse.Undumpable`, `HttpResponse.not_dumps_iff`).
-/

namespace BatchMailer

/-! ## long integers -/

/-- A value in which an integer of more than 4300 digits stands. -/
inductive Value.HoldsLong : Value → Prop where
  | int {n : Int} (hlong : 4300 < (Nat.toDigits 10 n.natAbs).length) : HoldsLong (.int n)
  | item {items : List Value} {v : Value} (hv : v ∈ items) (hlong : v.HoldsLong) :
      HoldsLong (.list items)
  | entry {entries : List (String × Value)} {e : String × Value} (he : e ∈ entries)
      (hlong : e.2.HoldsLong) : HoldsLong (.table entries)

namespace Value

theorem isShort_eq_false_iff {n : Int} :
    isShort n = false ↔ 4300 < (Nat.toDigits 10 n.natAbs).length := by
  rw [isShort, decide_eq_false_iff_not, Nat.not_le, maxDigits]

mutual

/-- A value is written unless there is a long integer in it. -/
theorem isWritable_eq_false_iff (v : Value) : v.isWritable = false ↔ v.HoldsLong := by
  cases v with
  | int n =>
      rw [isWritable, isShort_eq_false_iff]
      exact ⟨.int, fun | .int hlong => hlong⟩
  | list items =>
      rw [isWritable, areWritable_eq_false_iff items]
      exact ⟨fun ⟨_, hv, hlong⟩ => .item hv hlong, fun | .item hv hlong => ⟨_, hv, hlong⟩⟩
  | table entries =>
      rw [isWritable, entriesWritable_eq_false_iff entries]
      exact ⟨fun ⟨_, he, hlong⟩ => .entry he hlong, fun | .entry he hlong => ⟨_, he, hlong⟩⟩
  | null => exact ⟨nofun, nofun⟩
  | bool b => exact ⟨nofun, nofun⟩
  | text s => exact ⟨nofun, nofun⟩

theorem areWritable_eq_false_iff (items : List Value) :
    areWritable items = false ↔ ∃ v ∈ items, v.HoldsLong := by
  cases items with
  | nil => simp [areWritable]
  | cons v rest =>
      rw [areWritable, Bool.and_eq_false_iff, isWritable_eq_false_iff v,
        areWritable_eq_false_iff rest]
      simp

theorem entriesWritable_eq_false_iff (entries : List (String × Value)) :
    entriesWritable entries = false ↔ ∃ e ∈ entries, e.2.HoldsLong := by
  cases entries with
  | nil => simp [entriesWritable]
  | cons e rest =>
      obtain ⟨key, v⟩ := e
      rw [entriesWritable, Bool.and_eq_false_iff, isWritable_eq_false_iff v,
        entriesWritable_eq_false_iff rest]
      simp

end

end Value

/-! ## surrogates -/

/-- A surrogate stands in a text. -/
def RawText.HoldsSurrogate (t : RawText) : Prop := ∃ n, .surrogate n ∈ t

namespace RawText

variable {t u : RawText}

theorem holdsSurrogate_iff : t.HoldsSurrogate ↔ ∃ c ∈ t, c.isSurrogate = true := by
  constructor
  · exact fun ⟨n, hn⟩ => ⟨.surrogate n, hn, rfl⟩
  · rintro ⟨c, hc, hsurrogate⟩
    cases c with
    | char c => contradiction
    | surrogate n => exact ⟨n, hc⟩

@[simp] theorem not_holdsSurrogate_nil : ¬ HoldsSurrogate [] := nofun

@[simp] theorem holdsSurrogate_append :
    (t ++ u).HoldsSurrogate ↔ t.HoldsSurrogate ∨ u.HoldsSurrogate := by
  simp only [HoldsSurrogate, List.mem_append, exists_or]

@[simp] theorem not_holdsSurrogate_ofChars (cs : List Char) : ¬ (ofChars cs).HoldsSurrogate := by
  rintro ⟨n, hn⟩
  obtain ⟨c, -, hc⟩ := mem_ofChars_iff.1 hn
  contradiction

@[simp] theorem not_holdsSurrogate_ofString (s : String) : ¬ HoldsSurrogate s :=
  not_holdsSurrogate_ofChars s.toList

theorem holdsSurrogate_flatten {texts : List RawText} :
    HoldsSurrogate texts.flatten ↔ ∃ text ∈ texts, text.HoldsSurrogate := by
  simp only [HoldsSurrogate, List.mem_flatten]
  exact ⟨fun ⟨n, text, htext, hn⟩ => ⟨text, htext, n, hn⟩,
    fun ⟨text, htext, n, hn⟩ => ⟨n, text, htext, hn⟩⟩

end RawText

/-- Only a text is written with the surrogates that are in it. -/
theorem Value.holdsSurrogate_display {v : Value} :
    v.display.HoldsSurrogate ↔ ∃ s, v = .text s ∧ s.HoldsSurrogate := by
  cases v with
  | text s => simp
  | _ => simp [display]

/-! ## responses -/

/-- A response that has no dump: a long integer or a surrogate stands in its status or in a
header, or a surrogate in its body. -/
inductive HttpResponse.Undumpable (r : HttpResponse) : Prop where
  | longStatus {v : Value} (hstatus : r.statusCode = some v) (hlong : v.HoldsLong)
  | longHeader {name : RawText} {v : Value} (hheader : (name, v) ∈ r.headerList)
      (hlong : v.HoldsLong)
  | status {s : RawText} (hstatus : r.statusCode = some (.text s)) (hs : s.HoldsSurrogate)
  | headerName {name : RawText} {v : Value} (hheader : (name, v) ∈ r.headerList)
      (hname : name.HoldsSurrogate)
  | headerValue {name s : RawText} (hheader : (name, .text s) ∈ r.headerList)
      (hs : s.HoldsSurrogate)
  | body {s : RawText} (hbody : r.body = some (some (.text s))) (hs : s.HoldsSurrogate)

namespace HttpResponse

variable {r : HttpResponse}

theorem isWritable_eq_false_iff : r.isWritable = false ↔
    (∃ v, r.statusCode = some v ∧ v.HoldsLong) ∨
      ∃ name v, (name, v) ∈ r.headerList ∧ v.HoldsLong := by
  have hstatus : (r.statusCode.getD .null).isWritable = false ↔
      ∃ v, r.statusCode = some v ∧ v.HoldsLong := by
    cases hcode : r.statusCode with
    | none => exact ⟨nofun, nofun⟩
    | some v => simp [Value.isWritable_eq_false_iff]
  rw [isWritable, Bool.and_eq_false_iff, hstatus, List.all_eq_false]
  simp [Value.isWritable_eq_false_iff]

theorem holdsSurrogate_statusLine : r.statusLine.HoldsSurrogate ↔
    ∃ s, r.statusCode = some (.text s) ∧ s.HoldsSurrogate := by
  cases hcode : r.statusCode <;>
    simp [statusLine, Value.displayOption, hcode, Value.holdsSurrogate_display]

theorem holdsSurrogate_headerLine {name : RawText} {v : Value} :
    (headerLine (name, v)).HoldsSurrogate ↔
      name.HoldsSurrogate ∨ ∃ s, v = .text s ∧ s.HoldsSurrogate := by
  simp [headerLine, Value.holdsSurrogate_display]

theorem holdsSurrogate_headerLines :
    RawText.HoldsSurrogate (r.headerList.map headerLine).flatten ↔
      ∃ name v, (name, v) ∈ r.headerList ∧
        (name.HoldsSurrogate ∨ ∃ s, v = .text s ∧ s.HoldsSurrogate) := by
  rw [RawText.holdsSurrogate_flatten]
  constructor
  · rintro ⟨line, hline, hs⟩
    obtain ⟨⟨name, v⟩, hheader, rfl⟩ := List.mem_map.1 hline
    exact ⟨name, v, hheader, holdsSurrogate_headerLine.1 hs⟩
  · rintro ⟨name, v, hheader, hs⟩
    exact ⟨_, List.mem_map_of_mem hheader, holdsSurrogate_headerLine.2 hs⟩

/-- Bytes are read as characters, so only a body that is a text can hold a surrogate. -/
theorem holdsSurrogate_bodyText : r.bodyText.HoldsSurrogate ↔
    ∃ s, r.body = some (some (.text s)) ∧ s.HoldsSurrogate := by
  rw [bodyText]
  rcases hbody : r.body with _ | _ | ⟨content | s⟩
  · simp
  · simp
  · by_cases hempty : content.isEmpty <;> simp [hempty]
  · by_cases hempty : s.isEmpty
    · obtain rfl := List.isEmpty_iff.1 hempty
      simp
    · simp [hempty]

/-- There is no other way for a response to have no dump. -/
theorem not_dumps_iff : ¬ r.Dumps ↔ r.Undumpable := by
  have hsurrogate : (¬ ∀ c ∈ r.text, c.isSurrogate = false) ↔ r.text.HoldsSurrogate := by
    simp [RawText.holdsSurrogate_iff]
  rw [Dumps, Decidable.not_and_iff_or_not, Bool.not_eq_true, isWritable_eq_false_iff, hsurrogate,
    text]
  simp only [RawText.holdsSurrogate_append, holdsSurrogate_statusLine,
    holdsSurrogate_headerLines, RawText.not_holdsSurrogate_ofString, or_false,
    holdsSurrogate_bodyText]
  constructor
  · rintro ((⟨v, hstatus, hlong⟩ | ⟨name, v, hheader, hlong⟩) |
      ((⟨s, hstatus, hs⟩ | ⟨name, v, hheader, hname | ⟨s, rfl, hs⟩⟩) | ⟨s, hbody, hs⟩))
    · exact .longStatus hstatus hlong
    · exact .longHeader hheader hlong
    · exact .status hstatus hs
    · exact .headerName hheader hname
    · exact .headerValue hheader hs
    · exact .body hbody hs
  · intro h
    cases h with
    | longStatus hstatus hlong => exact .inl (.inl ⟨_, hstatus, hlong⟩)
    | longHeader hheader hlong => exact .inl (.inr ⟨_, _, hheader, hlong⟩)
    | status hstatus hs => exact .inr (.inl (.inl ⟨_, hstatus, hs⟩))
    | headerName hheader hname => exact .inr (.inl (.inr ⟨_, _, hheader, .inl hname⟩))
    | headerValue hheader hs => exact .inr (.inl (.inr ⟨_, _, hheader, .inr ⟨_, rfl, hs⟩⟩))
    | body hbody hs => exact .inr (.inr ⟨_, hbody, hs⟩)

end HttpResponse

end BatchMailer
