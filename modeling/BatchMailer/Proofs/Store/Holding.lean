import BatchMailer.Store

/-!
# BatchMailer.Proofs.Store.Holding

A store as the list of the records it was given, in the order in which they came.
`Store.holding` sorts such a list into the two batches; every store that was
filled from empty batches is one of these, so what an operation does to a store
can be said of one list.

* `add_holding_of_lt`, `add_holding_of_le` — a record joins the list, unless its
  batch has no room;
* `pending_holding` — a batch is the part of the list that is of its kind.
-/

namespace BatchMailer

namespace Kind

/-- The records of a kind among others, in order. -/
def among (kind : Kind) (records : List Record) : List Record := records.filter (·.kind = kind)

@[simp] theorem among_nil (kind : Kind) : kind.among [] = [] := rfl

theorem kind_of_mem_among {kind : Kind} {records : List Record} {r : Record}
    (h : r ∈ kind.among records) : r.kind = kind := by
  simpa using (List.mem_filter.1 h).2

theorem among_append (kind : Kind) (front back : List Record) :
    kind.among (front ++ back) = kind.among front ++ kind.among back :=
  List.filter_append front back

/-- One more record is among those of its own kind alone. -/
theorem among_append_singleton (kind : Kind) (records : List Record) (r : Record) :
    kind.among (records ++ [r]) = kind.among records ++ if r.kind = kind then [r] else [] := by
  rw [among_append]
  congr 1
  by_cases h : r.kind = kind <;> simp [among, h]

end Kind

namespace Store

/-- The store that holds the records of a list, each in the batch of its kind. -/
def holding (capacity : Int) (records : List Record) : Store where
  activation := { kind := .activation, capacity, records := Kind.activation.among records }
  passwordRecovery :=
    { kind := .passwordRecovery, capacity, records := Kind.passwordRecovery.among records }

section

variable (capacity : Int) (records : List Record)

theorem batch_holding (kind : Kind) :
    (holding capacity records).batch kind = { kind, capacity, records := kind.among records } := by
  cases kind <;> rfl

@[simp] theorem pending_holding (kind : Kind) :
    (holding capacity records).pending kind = kind.among records := by
  rw [pending, batch_holding]

/-- Two stores with the same batches are the same. -/
theorem ext_batch {s t : Store} (h : ∀ kind, s.batch kind = t.batch kind) : s = t := by
  obtain ⟨a, p⟩ := s
  obtain ⟨b, q⟩ := t
  have ha : a = b := h .activation
  have hp : p = q := h .passwordRecovery
  rw [ha, hp]

/-- A record joins the others if there are fewer of its kind than a batch may
hold. -/
theorem add_holding_of_lt {r : Record} (h : ((r.kind.among records).length : Int) < capacity) :
    (holding capacity records).add r = .ok (holding capacity (records ++ [r])) := by
  have hfull : ¬ capacity ≤ ((r.kind.among records).length : Int) := Int.not_le.2 h
  have happend : ((holding capacity records).batch r.kind).append r =
      .ok { kind := r.kind, capacity, records := r.kind.among records ++ [r] } := by
    rw [batch_holding]
    simp [Batch.append, Batch.isFull, Batch.size, hfull]
  rw [add, append, happend]
  refine congrArg Except.ok (ext_batch fun kind => ?_)
  rw [batch_withBatch, batch_holding, batch_holding, Kind.among_append_singleton]
  by_cases hkind : kind = r.kind
  · subst hkind
    simp
  · simp [hkind, Ne.symm hkind]

/-- Otherwise it is refused. -/
theorem add_holding_of_le {r : Record} (h : capacity ≤ ((r.kind.among records).length : Int)) :
    (holding capacity records).add r = .error (.batchFull r.kind capacity) := by
  rw [add, append, batch_holding]
  simp [Batch.append, Batch.isFull, Batch.size, h, Except.map]

/-- A store with one more record, if there is one. -/
def receive (s : Store) : Option Record → Except WireError Store
  | none => .ok s
  | some r => s.add r

/-- A store takes what there is while there is room for it. -/
theorem receive_holding_of_le (r? : Option Record)
    (h : ∀ kind : Kind, ((kind.among (records ++ r?.toList)).length : Int) ≤ capacity) :
    (holding capacity records).receive r? = .ok (holding capacity (records ++ r?.toList)) := by
  cases r? with
  | none => rw [Option.toList_none, List.append_nil, receive]
  | some r =>
      apply add_holding_of_lt
      have hlen := h r.kind
      rw [Option.toList_some, Kind.among_append_singleton, if_pos rfl, List.length_append,
        List.length_singleton] at hlen
      omega

/-- It refuses only a record for which there is none. -/
theorem receive_holding_of_lt (r? : Option Record) {kind : Kind}
    (hroom : ((kind.among records).length : Int) ≤ capacity)
    (h : capacity < ((kind.among (records ++ r?.toList)).length : Int)) :
    (holding capacity records).receive r? = .error (.batchFull kind capacity) := by
  cases r? with
  | none =>
      rw [Option.toList_none, List.append_nil] at h
      omega
  | some r =>
      rw [Option.toList_some, Kind.among_append_singleton] at h
      by_cases hkind : r.kind = kind
      · subst hkind
        apply add_holding_of_le
        rw [if_pos rfl, List.length_append, List.length_singleton] at h
        omega
      · rw [if_neg hkind, List.append_nil] at h
        omega

end

end Store

end BatchMailer
