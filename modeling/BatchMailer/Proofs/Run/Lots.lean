import BatchMailer.Proofs.Flush.Settled
import BatchMailer.Proofs.Wire.Grammar

/-!
# BatchMailer.Proofs.Run.Lots

What an input is sent as, line by line.

A record belongs to the line that its last delimiter lies on, and a line feed
ends the line it stands on.  At the end of a line its records go out in lots, one
for each kind (`Wire.lots`).  Batches need only have room for the records of one
line, so more inputs are accepted than without flushes (`Wire.AcceptedByLine`).

Everything here is read off the entries of an input, which come in the order of
their lines (`pairwise_entries`).
-/

namespace BatchMailer

namespace Wire

/-- The records that belong to the line with a given number. -/
def closedOn (input : List UInt8) (line : Nat) : List Record :=
  ((entries input).filter (·.line = line)).map (·.record)

/-- The records that belong to the lines with lower numbers. -/
def closedBefore (input : List UInt8) (line : Nat) : List Record :=
  ((entries input).filter (·.line < line)).map (·.record)

/-- The lots of all lines that have ended, in the order they go out. -/
def lots (input : List UInt8) : List Lot :=
  (List.range (input.count lineFeed)).flatMap fun line => Lot.ofRecords (closedOn input line)

/-- An input that fits and has no line with too many records for a batch. -/
structure AcceptedByLine (capacity : Nat) (input : List UInt8) : Prop where
  fits : Fits input
  room : ∀ (line : Nat) (kind : Kind), (kind.among (closedOn input line)).length ≤ capacity

/-! ## lines -/

theorem line_le_of_mem_entries {input : List UInt8} {e : Entry} (he : e ∈ entries input) :
    e.line ≤ input.count lineFeed := by
  obtain ⟨j, -, hj⟩ := List.mem_filterMap.1 he
  obtain ⟨r, -, rfl⟩ := Option.map_eq_some_iff.1 hj
  exact Nat.le_trans ((List.take_sublist _ _).count_le _) (List.filter_sublist.count_le _)

theorem pairwise_entries (input : List UInt8) : (entries input).Pairwise (·.line ≤ ·.line) := by
  have hlines : ∀ j k, j < k → lineOf input (5 * j + 4) ≤ lineOf input (5 * k + 4) := by
    intro j k hjk
    have hsub : ((input.filter isDelimiter).take (5 * j + 4)).Sublist
        ((input.filter isDelimiter).take (5 * k + 4)) :=
      (List.take_prefix_take_left (by omega)).sublist
    exact hsub.count_le _
  rw [entries, List.pairwise_filterMap]
  refine List.pairwise_lt_range.imp fun {j k} hjk e he f hf => ?_
  obtain ⟨-, -, rfl⟩ := Option.map_eq_some_iff.1 he
  obtain ⟨-, -, rfl⟩ := Option.map_eq_some_iff.1 hf
  exact hlines j k hjk

section

variable (input : List UInt8) (b : UInt8)

/-- A byte adds to the current line what it completes. -/
theorem closedOn_append (line : Nat) :
    closedOn (input ++ [b]) line = closedOn input line ++
      if line = input.count lineFeed then (completed? input b).toList else [] := by
  rw [closedOn, entries_append, List.filter_append, List.map_append, ← closedOn]
  congr 1
  cases completed? input b with
  | none => simp
  | some r =>
      by_cases hline : line = input.count lineFeed
      · simp [hline]
      · simp [hline, Ne.symm hline]

/-- Lines that have ended do not change any more. -/
theorem closedOn_append_of_lt {line : Nat} (h : line < input.count lineFeed) :
    closedOn (input ++ [b]) line = closedOn input line := by
  rw [closedOn_append, if_neg (Nat.ne_of_lt h), List.append_nil]

theorem closedOn_of_lt {line : Nat} (h : input.count lineFeed < line) : closedOn input line = [] := by
  rw [closedOn, List.map_eq_nil_iff, List.filter_eq_nil_iff]
  intro e he
  have hle := line_le_of_mem_entries he
  simp only [decide_eq_true_eq]
  omega

end

theorem filter_lt_append_filter_eq {es : List Entry} (h : es.Pairwise (·.line ≤ ·.line))
    (line : Nat) :
    es.filter (·.line < line) ++ es.filter (·.line = line) = es.filter (·.line < line + 1) := by
  induction es with
  | nil => rfl
  | cons e rest ih =>
      obtain ⟨hle, hrest⟩ := List.pairwise_cons.1 h
      have ih := ih hrest
      by_cases hline : e.line = line
      · -- no later entry lies on an earlier line
        have hnone : rest.filter (·.line < line) = [] := by
          rw [List.filter_eq_nil_iff]
          intro f hf
          have hlater := hle f hf
          simp only [decide_eq_true_eq]
          omega
        rw [hnone, List.nil_append] at ih
        rw [List.filter_cons_of_neg (by simp [hline]), hnone, List.filter_cons_of_pos (by simpa),
          List.filter_cons_of_pos (by simp [hline]), ← ih]
        rfl
      · by_cases hlt : e.line < line
        · have hlt' : e.line < line + 1 := Nat.lt_succ_of_lt hlt
          rw [List.filter_cons_of_pos (by simpa), List.filter_cons_of_neg (by simpa),
            List.filter_cons_of_pos (by simpa using hlt'), List.cons_append, ih]
        · have hgt : ¬ e.line < line + 1 := by omega
          rw [List.filter_cons_of_neg (by simpa using hlt), List.filter_cons_of_neg (by simpa),
            List.filter_cons_of_neg (by simpa using hgt), ih]

/-- Line by line, the records come in order. -/
theorem flatMap_closedOn (input : List UInt8) (line : Nat) :
    (List.range line).flatMap (closedOn input) = closedBefore input line := by
  induction line with
  | zero => simp [closedBefore]
  | succ line ih =>
      rw [List.range_succ, List.flatMap_append, List.flatMap_singleton, ih, closedBefore, closedOn,
        closedBefore, ← List.map_append, filter_lt_append_filter_eq (pairwise_entries input)]

/-! ## accepted inputs -/

section

variable {capacity : Nat} {input rest : List UInt8} {b : UInt8}

theorem acceptedByLine_nil : AcceptedByLine capacity [] := ⟨fits_nil, fun _ _ => Nat.zero_le _⟩

/-- A byte that fits takes room on the current line alone. -/
theorem acceptedByLine_append_iff (h : AcceptedByLine capacity input) (hfits : Fits (input ++ [b])) :
    AcceptedByLine capacity (input ++ [b]) ↔ ∀ kind : Kind,
      (kind.among (closedOn input (input.count lineFeed) ++
        (completed? input b).toList)).length ≤ capacity := by
  constructor
  · intro hnext kind
    have hroom := hnext.room (input.count lineFeed) kind
    rwa [closedOn_append, if_pos rfl] at hroom
  · intro hroom
    refine ⟨hfits, fun line kind => ?_⟩
    rw [closedOn_append]
    by_cases hline : line = input.count lineFeed
    · rw [if_pos hline, hline]
      exact hroom kind
    · rw [if_neg hline, List.append_nil]
      exact h.room line kind

theorem acceptedByLine_of_append_singleton (h : AcceptedByLine capacity (input ++ [b])) :
    AcceptedByLine capacity input := by
  refine ⟨fits_of_append_singleton h.fits, fun line kind => ?_⟩
  have hroom := h.room line kind
  rw [closedOn_append, Kind.among_append, List.length_append] at hroom
  omega

theorem acceptedByLine_of_append (h : AcceptedByLine capacity (input ++ rest)) :
    AcceptedByLine capacity input :=
  of_append acceptedByLine_of_append_singleton h

/-- If the byte behind an accepted input is not accepted, no longer part is. -/
theorem acceptedByLine_iff_of_stop (h : AcceptedByLine capacity input)
    (hstop : ∀ byte, [byte] <+: rest → ¬ AcceptedByLine capacity (input ++ [byte]))
    {p : List UInt8} (hp : p <+: input ++ rest) : AcceptedByLine capacity p ↔ p <+: input := by
  constructor
  · intro haccepted
    obtain hle | ⟨more, rfl⟩ := List.prefix_or_prefix_of_prefix hp (List.prefix_append input rest)
    · exact hle
    · cases more with
      | nil => exact ⟨[], by rw [List.append_nil, List.append_nil]⟩
      | cons byte more =>
          have hbyte : [byte] <+: rest :=
            (List.prefix_append [byte] more).trans ((List.prefix_append_right_inj input).1 hp)
          rw [List.append_cons] at haccepted
          exact absurd (acceptedByLine_of_append haccepted) (hstop byte hbyte)
  · intro hfront
    obtain ⟨more, rfl⟩ := hfront
    exact acceptedByLine_of_append h

end

instance (capacity : Nat) (input : List UInt8) : Decidable (AcceptedByLine capacity input) :=
  decidable_of_iff (Fits input ∧ ∀ line < input.count lineFeed + 1, ∀ kind ∈ Kind.all,
      (kind.among (closedOn input line)).length ≤ capacity) <| by
    constructor
    · intro hboth
      obtain ⟨hfits, hroom⟩ := hboth
      refine ⟨hfits, fun line kind => ?_⟩
      by_cases hline : line < input.count lineFeed + 1
      · exact hroom line hline kind (Kind.mem_all kind)
      · rw [closedOn_of_lt input (by omega)]
        exact Nat.zero_le capacity
    · intro hboth
      obtain ⟨hfits, hroom⟩ := hboth
      exact ⟨hfits, fun line _ kind _ => hroom line kind⟩

/-! ## lots -/

section

variable (input : List UInt8)

/-- A line feed sends off what belongs to its line. -/
theorem lots_append_lineFeed :
    lots (input ++ [lineFeed]) = lots input ++
      Lot.ofRecords (closedOn input (input.count lineFeed) ++ (completed? input lineFeed).toList) := by
  rw [lots, List.count_append, List.count_singleton_self, List.range_succ, List.flatMap_append,
    List.flatMap_singleton, closedOn_append, if_pos rfl, lots]
  congr 1
  exact List.flatMap_congr fun line hline =>
    congrArg Lot.ofRecords (closedOn_append_of_lt input _ (List.mem_range.1 hline))

theorem lots_append_of_ne {b : UInt8} (hb : b ≠ lineFeed) : lots (input ++ [b]) = lots input := by
  rw [lots, List.count_append, List.count_singleton, if_neg (by simpa using hb), Nat.add_zero, lots]
  exact List.flatMap_congr fun line hline =>
    congrArg Lot.ofRecords (closedOn_append_of_lt input _ (List.mem_range.1 hline))

end

/-- Each record that belongs to a line that has ended is in one lot of its kind,
once, and in order; no other record is in any. -/
theorem flatMap_records_lots (input : List UInt8) (kind : Kind) :
    ((lots input).filter (·.kind = kind)).flatMap (·.records) =
      kind.among (closedBefore input (input.count lineFeed)) := by
  rw [← flatMap_closedOn, lots, List.filter_flatMap, List.flatMap_assoc, Kind.among,
    List.filter_flatMap]
  exact List.flatMap_congr fun line _ => Lot.flatMap_records_ofRecords kind (closedOn input line)

/-- A lot of an accepted input is not empty, fits into a batch and is all of one
kind. -/
theorem lot_of_mem_lots {capacity : Nat} {input : List UInt8} (h : AcceptedByLine capacity input)
    {lot : Lot} (hlot : lot ∈ lots input) :
    1 ≤ lot.records.length ∧ lot.records.length ≤ capacity ∧ ∀ r ∈ lot.records, r.kind = lot.kind := by
  obtain ⟨line, -, hline⟩ := List.mem_flatMap.1 hlot
  obtain ⟨hrecords, hne⟩ := Lot.eq_of_mem_ofKinds hline
  refine ⟨List.length_pos_iff.2 hne, ?_, fun r hr => ?_⟩
  · rw [hrecords]
    exact h.room line lot.kind
  · rw [hrecords] at hr
    exact Kind.kind_of_mem_among hr

end Wire

end BatchMailer
