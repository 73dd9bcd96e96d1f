import BatchMailer.Proofs.Flush.InTurn

/-!
# BatchMailer.Proofs.Store.Ledger

The books of a store.

There is an entry for each record that joins a batch, and one for each batch that
is emptied, which says what became of its records: a drain handed them out, a
flush put them into a request, or they were thrown away.  Entries account for
what was done to a store if, kind by kind, what waited and what joined is what
left and what still waits, in this order (`Booked`).  Entries behind one another
account for operations in turn (`Booked.trans`), so each operation is looked at
by itself.

A flush may end at any request; `Flush.lots` are the lots it got to.
-/

namespace BatchMailer

namespace Ledger

/-- An entry in the books of a store. -/
inductive Entry where
  | accepted (kind : Kind) (r : Record)
  | drained (kind : Kind) (records : List Record)
  | sent (lot : Lot)
  | discarded (kind : Kind) (records : List Record)
  deriving DecidableEq, Repr

namespace Entry

/-- What joins the batch of a kind by an entry. -/
def joining (kind : Kind) : Entry → List Record
  | accepted other r => if other = kind then [r] else []
  | drained _ _ | sent _ | discarded _ _ => []

/-- What leaves the batch of a kind by an entry. -/
def leaving (kind : Kind) : Entry → List Record
  | accepted _ _ => []
  | drained other records | discarded other records | sent ⟨other, records⟩ =>
    if other = kind then records else []

end Entry

/-- The records that joined the batch of a kind, in order. -/
def joined (kind : Kind) (es : List Entry) : List Record := es.flatMap (Entry.joining kind)

/-- The records that left the batch of a kind, in order. -/
def left (kind : Kind) (es : List Entry) : List Record := es.flatMap (Entry.leaving kind)

section

variable (kind : Kind) (front back : List Entry)

@[simp] theorem joined_nil : joined kind [] = [] := rfl

@[simp] theorem left_nil : left kind [] = [] := rfl

@[simp] theorem joined_append : joined kind (front ++ back) = joined kind front ++ joined kind back :=
  List.flatMap_append

@[simp] theorem left_append : left kind (front ++ back) = left kind front ++ left kind back :=
  List.flatMap_append

@[simp] theorem joined_singleton (e : Entry) : joined kind [e] = e.joining kind :=
  List.flatMap_singleton _ _

@[simp] theorem left_singleton (e : Entry) : left kind [e] = e.leaving kind :=
  List.flatMap_singleton _ _

end

/-- Entries that account for what became of a store.  The records that joined a
batch are of its kind. -/
structure Booked (s : Store) (es : List Entry) (t : Store) : Prop where
  balance : ∀ kind, s.pending kind ++ joined kind es = left kind es ++ t.pending kind
  label : ∀ kind, (t.batch kind).kind = (s.batch kind).kind
  own : ∀ kind, ∀ r ∈ joined kind es, r.kind = (s.batch kind).kind

namespace Booked

variable {s t u : Store} {es fs : List Entry}

theorem nothing (s : Store) : Booked s [] s :=
  ⟨fun _ => List.append_nil _, fun _ => rfl, fun _ _ hr => absurd hr List.not_mem_nil⟩

theorem trans (h : Booked s es t) (h' : Booked t fs u) : Booked s (es ++ fs) u where
  balance kind := by
    rw [joined_append, left_append, ← List.append_assoc, h.balance, List.append_assoc, h'.balance,
      List.append_assoc]
  label kind := (h'.label kind).trans (h.label kind)
  own kind r hr := by
    rw [joined_append] at hr
    obtain hr | hr := List.mem_append.1 hr
    · exact h.own kind r hr
    · exact (h'.own kind r hr).trans (h.label kind)

/-! ## records that join -/

theorem append {kind : Kind} {r : Record} (h : s.append kind r = .ok t) :
    Booked s [.accepted kind r] t := by
  have hpending := Store.pending_append h
  unfold Store.append at h
  cases hb : (s.batch kind).append r with
  | error e => simp [hb, Except.map] at h
  | ok b =>
      obtain rfl : s.withBatch kind b = t := by simpa [hb, Except.map] using h
      obtain ⟨hkind, -, rfl⟩ := Batch.append_eq_ok_iff.1 hb
      refine ⟨fun other => ?_, fun other => ?_, fun other q hq => ?_⟩
      · rw [hpending other]
        simp [Entry.joining, Entry.leaving, eq_comm]
      · rw [Store.batch_withBatch]
        split
        · next heq => rw [heq]
        · rfl
      · simp only [joined_singleton, Entry.joining] at hq
        split at hq
        · next heq => rw [List.mem_singleton.1 hq, ← heq, hkind]
        · contradiction

theorem add {r : Record} (h : s.add r = .ok t) : Booked s [.accepted r.kind r] t := append h

/-! ## batches that are emptied -/

theorem label_clear (s : Store) (kind other : Kind) :
    ((s.clear kind).batch other).kind = (s.batch other).kind := by
  rw [Store.clear, Store.batch_withBatch]
  split
  · next heq => rw [heq, Batch.clear]
  · rfl

/-- Emptying a batch is accounted for by an entry that all its records leave by. -/
theorem clear (s : Store) (kind : Kind) {e : Entry} (hjoining : ∀ other, e.joining other = [])
    (hleaving : ∀ other, e.leaving other = if kind = other then s.pending kind else []) :
    Booked s [e] (s.clear kind) := by
  refine ⟨fun other => ?_, label_clear s kind, fun other r hr => ?_⟩
  · rw [joined_singleton, left_singleton, hjoining, hleaving, Store.pending_clear]
    by_cases heq : kind = other
    · subst heq
      simp
    · simp [heq, Ne.symm heq]
  · rw [joined_singleton, hjoining] at hr
    contradiction

/-- Nothing needs to be said of a batch that was empty before. -/
theorem clear_of_empty {kind : Kind} (h : s.pending kind = []) : Booked s [] (s.clear kind) := by
  refine ⟨fun other => ?_, label_clear s kind, fun other r hr => absurd hr List.not_mem_nil⟩
  rw [Store.pending_clear]
  split
  · next heq => simp [heq, h]
  · simp

theorem drain (s : Store) (kind : Kind) :
    Booked s [.drained kind (s.drain kind).1] (s.drain kind).2 :=
  clear s kind (fun _ => rfl) fun _ => rfl

theorem clearAll (s : Store) :
    Booked s (Kind.all.map fun kind => .discarded kind (s.pending kind)) s.clearAll := by
  have hother : (s.clear .activation).pending .passwordRecovery = s.pending .passwordRecovery := by
    rw [Store.pending_clear, if_neg (by decide)]
  have hfirst : Booked s [.discarded .activation (s.pending .activation)] (s.clear .activation) :=
    clear s .activation (fun _ => rfl) fun _ => rfl
  have hsecond : Booked (s.clear .activation)
      [.discarded .passwordRecovery (s.pending .passwordRecovery)] s.clearAll :=
    clear (s.clear .activation) .passwordRecovery (fun _ => rfl) fun _ => by
      rw [hother, Entry.leaving]
  exact hfirst.trans hsecond

end Booked

end Ledger

/-! ## flushes -/

namespace Flush

variable {σ : Type}

/-- The lots that a flush puts into requests.  The last one may be the one that
ends it. -/
def lots (send : Sender σ) (outputDir : RawText) : List Kind → Store → SendState σ → List Lot
  | [], _, _ => []
  | kind :: rest, s, o =>
    match s.drain kind with
    | ([], s) => lots send outputDir rest s o
    | (record :: more, s) =>
      ⟨kind, record :: more⟩ ::
        match dispatch send outputDir (.ofRecords kind (record :: more)) o with
        | (.error _, _) => []
        | (.ok _, o) => lots send outputDir rest s o

variable (send : Sender σ) (dir : RawText)

/-- The records of these lots leave their batches, and nothing else happens to the
store, also if the flush is ended by a fault. -/
theorem booked_flushKinds (kinds : List Kind) (s : Store) (o : SendState σ) :
    Ledger.Booked s ((lots send dir kinds s o).map .sent) (flushKinds send dir kinds s o).2.1 := by
  induction kinds generalizing s o with
  | nil => exact .nothing s
  | cons kind rest ih =>
      rw [flushKinds_cons, lots, Store.drain]
      cases hpending : s.pending kind with
      | nil => exact (Ledger.Booked.clear_of_empty hpending).trans (ih (s.clear kind) o)
      | cons record more =>
          have hclear : Ledger.Booked s [.sent ⟨kind, record :: more⟩] (s.clear kind) :=
            .clear s kind (fun _ => rfl) fun _ => by rw [hpending, Ledger.Entry.leaving]
          cases hdispatch : dispatch send dir (.ofRecords kind (record :: more)) o with
          | mk result o' =>
              cases result with
              | error f =>
                  simp only [hdispatch]
                  exact hclear
              | ok d =>
                  simp only [hdispatch]
                  exact hclear.trans (ih (s.clear kind) o')

/-- Keeping the requests changes nothing about a dispatch. -/
theorem dispatch_recording_eq (request : Request) (a : σ) (sent : List Request) (h : Host) :
    dispatch send.recording dir request ⟨(a, sent), h⟩ =
      ((dispatch send dir request ⟨a, h⟩).1,
        ⟨((dispatch send dir request ⟨a, h⟩).2.sender, sent ++ [request]),
          (dispatch send dir request ⟨a, h⟩).2.host⟩) :=
  dispatch_noting (fun sent request => sent ++ [request]) send dir request a sent h

/-- The requests of a flush are those for its lots. -/
theorem requests_flushKinds (kinds : List Kind) (s : Store) (a : σ) (sent : List Request)
    (h : Host) :
    (flushKinds send.recording dir kinds s ⟨(a, sent), h⟩).2.2.sender.2 =
      sent ++ (lots send dir kinds s ⟨a, h⟩).map Lot.request := by
  induction kinds generalizing s a sent h with
  | nil => exact (List.append_nil sent).symm
  | cons kind rest ih =>
      rw [flushKinds_cons, lots, Store.drain]
      cases hpending : s.pending kind with
      | nil => exact ih (s.clear kind) a sent h
      | cons record more =>
          simp only [dispatch_recording_eq]
          cases hdispatch : dispatch send dir (.ofRecords kind (record :: more)) ⟨a, h⟩ with
          | mk result o =>
              cases result with
              | error f => simp [Lot.request]
              | ok d => simp [Lot.request, ih]

end Flush

end BatchMailer
