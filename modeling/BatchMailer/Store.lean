import BatchMailer.Failure

/-!
# BatchMailer.Store

Records that wait to be sent, in one batch for each kind.  A batch keeps the
order in which records joined it and refuses a record that is one too many, or
of another kind; it never drops or overwrites one to make room.

The view of a store is `pending`, the records of one kind in order.  A record that joins
is described by `pending_append`, emptying by `pending_clear`.
-/

namespace BatchMailer

/-- The records of one kind that wait for the next flush. -/
structure Batch where
  kind : Kind
  capacity : Int
  records : List Record
  deriving DecidableEq, Repr

namespace Batch

/-- A batch with nothing in it. -/
def new (kind : Kind) (capacity : Int) : Batch := { kind, capacity, records := [] }

/-- How many records a batch holds. -/
def size (b : Batch) : Nat := b.records.length

/-- Whether a batch takes no more records. -/
def isFull (b : Batch) : Bool := b.capacity ≤ b.size

/-- Adds a record at the end. -/
def append (b : Batch) (r : Record) : Except WireError Batch :=
  if r.kind ≠ b.kind then .error (.wrongBatch r.kind b.kind)
  else if b.isFull then .error (.batchFull b.kind b.capacity)
  else .ok { b with records := b.records ++ [r] }

/-- The batch with nothing in it any more. -/
def clear (b : Batch) : Batch := { b with records := [] }

/-- A batch takes a record of its kind while there is room, and puts it last. -/
theorem append_eq_ok_iff {b c : Batch} {r : Record} :
    b.append r = .ok c ↔
      r.kind = b.kind ∧ b.isFull = false ∧ c = { b with records := b.records ++ [r] } := by
  unfold append
  by_cases hkind : r.kind = b.kind
  · by_cases hfull : b.isFull = true
    · simp [hkind, hfull]
    · simp [hkind, hfull, eq_comm (b := c)]
  · simp [hkind]

end Batch

/-- One batch for each kind. -/
structure Store where
  activation : Batch
  passwordRecovery : Batch
  deriving DecidableEq, Repr

namespace Store

/-- How many records a batch holds, unless told otherwise. -/
def defaultCapacity : Int := 10

/-- A store with empty batches. -/
def new (capacity : Int) : Store where
  activation := .new .activation capacity
  passwordRecovery := .new .passwordRecovery capacity

/-- The batch of a kind. -/
def batch (s : Store) : Kind → Batch
  | .activation => s.activation
  | .passwordRecovery => s.passwordRecovery

/-- The store with another batch for a kind. -/
def withBatch (s : Store) (kind : Kind) (b : Batch) : Store :=
  match kind with
  | .activation => { s with activation := b }
  | .passwordRecovery => { s with passwordRecovery := b }

/-- The records of a kind, in the order they joined. -/
def pending (s : Store) (kind : Kind) : List Record := (s.batch kind).records

/-- Adds a record to a given batch. -/
def append (s : Store) (kind : Kind) (r : Record) : Except WireError Store :=
  ((s.batch kind).append r).map (s.withBatch kind)

/-- Adds a record to the batch of its kind. -/
def add (s : Store) (r : Record) : Except WireError Store := s.append r.kind r

/-- Empties the batch of a kind. -/
def clear (s : Store) (kind : Kind) : Store := s.withBatch kind (s.batch kind).clear

/-- Empties the batch of a kind and gives what it held. -/
def drain (s : Store) (kind : Kind) : List Record × Store := (s.pending kind, s.clear kind)

/-- Empties both batches. -/
def clearAll (s : Store) : Store := (s.clear .activation).clear .passwordRecovery

/-- All records, batch by batch. -/
def records (s : Store) : List Record := Kind.all.flatMap s.pending

/-- How many records of each kind there are. -/
def counts (s : Store) : List (Kind × Nat) := Kind.all.map fun kind => (kind, (s.batch kind).size)

/-- Whether both batches are empty. -/
def isEmpty (s : Store) : Bool := Kind.all.all fun kind => (s.batch kind).size == 0

/-! ## the view of an operation -/

@[simp] theorem batch_withBatch (s : Store) (kind other : Kind) (b : Batch) :
    (s.withBatch kind b).batch other = if other = kind then b else s.batch other := by
  cases kind <;> cases other <;> rfl

@[simp] theorem pending_new (capacity : Int) (kind : Kind) : (new capacity).pending kind = [] := by
  cases kind <;> rfl

@[simp] theorem pending_clear (s : Store) (kind other : Kind) :
    (s.clear kind).pending other = if other = kind then [] else s.pending other := by
  unfold clear pending
  rw [batch_withBatch]
  split <;> simp_all [Batch.clear]

@[simp] theorem pending_clearAll (s : Store) (kind : Kind) : s.clearAll.pending kind = [] := by
  cases kind <;> simp [clearAll]

/-- A record that a store takes joins the batch it is meant for, behind all
others, and leaves the other batch alone. -/
theorem pending_append {s t : Store} {kind : Kind} {r : Record} (h : s.append kind r = .ok t)
    (other : Kind) :
    t.pending other = s.pending other ++ if other = kind then [r] else [] := by
  unfold append at h
  cases hb : (s.batch kind).append r with
  | error e => simp [hb, Except.map] at h
  | ok b =>
    simp only [hb, Except.map, Except.ok.injEq] at h
    subst h
    obtain ⟨_, _, rfl⟩ := Batch.append_eq_ok_iff.1 hb
    unfold pending
    rw [batch_withBatch]
    split <;> simp_all

end Store

end BatchMailer
