import BatchMailer.Request
import BatchMailer.Store
import Mathlib.Data.List.Forall2

/-!
# BatchMailer.Proofs.Store.Veil

Stores that look the same through a veil.

A veil hides some fields of the records of a kind.  Records look the same if the
fields that can be seen are the same, and stores if their batches hold, in the
same order, records that do.  What a store does with a record depends on nothing
that a veil hides: kinds and how many records there are decide it
(`Store.SameUnder.add`).
-/

namespace BatchMailer

/-- Which fields of a kind's records are hidden; fields are numbered from one. -/
abbrev Veil : Type := Kind → Nat → Prop

/-- Two lists of fields of a kind that are equally long and differ in hidden fields
alone. -/
structure FieldsSameUnder (veil : Veil) (kind : Kind) (fields fields' : List (List UInt8)) :
    Prop where
  length : fields.length = fields'.length
  seen : ∀ j, ¬ veil kind (j + 1) → fields[j]? = fields'[j]?

namespace FieldsSameUnder

variable {veil : Veil} {kind : Kind} {fields fields' : List (List UInt8)}

theorem nil : FieldsSameUnder veil kind [] [] := ⟨rfl, fun _ _ => rfl⟩

/-- One more field may differ if it is hidden. -/
theorem append (h : FieldsSameUnder veil kind fields fields') {field field' : List UInt8}
    (hfield : ¬ veil kind (fields.length + 1) → field = field') :
    FieldsSameUnder veil kind (fields ++ [field]) (fields' ++ [field']) := by
  refine ⟨by simp [h.length], fun j hj => ?_⟩
  have hseen := h.seen j hj
  by_cases hlast : j = fields.length
  · subst hlast
    rw [hfield hj, List.getElem?_concat_length, h.length, List.getElem?_concat_length]
  · have hlast' : j ≠ fields'.length := by rwa [← h.length]
    rw [List.getElem?_append, List.getElem?_append]
    grind

end FieldsSameUnder

/-- Two records of a kind that differ in hidden fields alone. -/
structure Record.SameUnder (veil : Veil) (r r' : Record) : Prop where
  kind : r.kind = r'.kind
  fields : FieldsSameUnder veil r.kind r.fields r'.fields

/-- A record that four fields make up. -/
theorem Record.exists_ofFields?_eq (kind : Kind) {fields : List (List UInt8)}
    (h : fields.length = Record.fieldCount) :
    ∃ r, Record.ofFields? kind fields = some r ∧ r.kind = kind ∧ r.fields = fields := by
  match fields, h with
  | [toAddress, login, secret, code], _ =>
      exact ⟨⟨kind, toAddress, login, secret, code⟩, rfl, rfl, rfl⟩

/-- Two batches that hold the same through a veil. -/
structure Batch.SameUnder (veil : Veil) (b b' : Batch) : Prop where
  kind : b.kind = b'.kind
  capacity : b.capacity = b'.capacity
  records : List.Forall₂ (Record.SameUnder veil) b.records b'.records

/-- Two stores whose batches do. -/
def Store.SameUnder (veil : Veil) (s s' : Store) : Prop :=
  ∀ kind, (s.batch kind).SameUnder veil (s'.batch kind)

section

variable {veil : Veil}

theorem Batch.SameUnder.refl (b : Batch) : b.SameUnder veil b :=
  ⟨rfl, rfl, List.forall₂_same.2 fun _ _ => ⟨rfl, rfl, fun _ _ => rfl⟩⟩

theorem Batch.SameUnder.clear {b b' : Batch} (h : b.SameUnder veil b') :
    b.clear.SameUnder veil b'.clear :=
  ⟨h.kind, h.capacity, .nil⟩

/-- A batch takes a record or refuses it, whatever is hidden of both. -/
theorem Batch.SameUnder.append {b b' : Batch} (h : b.SameUnder veil b') {r r' : Record}
    (hr : r.SameUnder veil r') :
    (∃ e, b.append r = .error e ∧ b'.append r' = .error e) ∨
      ∃ c c', b.append r = .ok c ∧ b'.append r' = .ok c' ∧ c.SameUnder veil c' := by
  have hfull : b.isFull = b'.isFull := by
    rw [isFull, isFull, h.capacity, size, size, h.records.length_eq]
  rw [Batch.append, Batch.append, ← hr.kind, ← h.kind, ← h.capacity, ← hfull]
  by_cases hkind : r.kind ≠ b.kind
  · exact .inl ⟨_, if_pos hkind, if_pos hkind⟩
  · rw [if_neg hkind, if_neg hkind]
    by_cases hroom : b.isFull = true
    · exact .inl ⟨_, if_pos hroom, if_pos hroom⟩
    · rw [if_neg hroom, if_neg hroom]
      exact .inr ⟨_, _, rfl, rfl, rfl, rfl, List.rel_append h.records (.cons hr .nil)⟩

namespace Store.SameUnder

variable {s s' : Store} (h : s.SameUnder veil s')
include h

theorem withBatch {kind : Kind} {b b' : Batch} (hb : b.SameUnder veil b') :
    (s.withBatch kind b).SameUnder veil (s'.withBatch kind b') := by
  intro other
  rw [batch_withBatch, batch_withBatch]
  split
  · exact hb
  · exact h other

theorem clearAll : s.clearAll.SameUnder veil s'.clearAll :=
  have hactivation := h.withBatch (h .activation).clear
  hactivation.withBatch (hactivation .passwordRecovery).clear

/-- A store takes a record or refuses it, whatever is hidden of both. -/
theorem add {r r' : Record} (hr : r.SameUnder veil r') :
    (∃ e, s.add r = .error e ∧ s'.add r' = .error e) ∨
      ∃ t t', s.add r = .ok t ∧ s'.add r' = .ok t' ∧ t.SameUnder veil t' := by
  have hkind := hr.kind
  rw [Store.add, Store.add, Store.append, Store.append, ← hkind]
  obtain ⟨e, he, he'⟩ | ⟨c, c', hc, hc', hsame⟩ := (h r.kind).append hr
  · rw [he, he']
    exact .inl ⟨e, rfl, rfl⟩
  · rw [hc, hc']
    exact .inr ⟨_, _, rfl, rfl, h.withBatch hsame⟩

end Store.SameUnder

theorem Store.SameUnder.refl (s : Store) : s.SameUnder veil s := fun kind => .refl (s.batch kind)

end

end BatchMailer
