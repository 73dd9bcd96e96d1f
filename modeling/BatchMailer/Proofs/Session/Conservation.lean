import BatchMailer.Proofs.Store.Ledger
import BatchMailer.Session

/-!
# BatchMailer.Proofs.Session.Conservation

No record is lost.

A decoder and its store are worked by operations in any order and any number
(`Operation`), each of which may fail; the next one goes on from what it left
behind.  Pieces of input may be fed with work to be done on the store at the end
of each line (`Plan`), which may raise a fault.  An operation makes its entries
in the books of the store, and each is accounted for by them
(`booked_perform`).  So over all operations, kind by kind, what joined is what
left and what still waits (`joined_eq_of_books`).  The steps of a session are
made up of such operations (`leads_of_mem_run`).
-/

namespace BatchMailer

namespace Ledger

/-! ## operations on a store -/

/-- An operation on a store.  A flush has whatever sender it is given, on
whatever host. -/
inductive StoreOp : Type 1 where
  | add (r : Record)
  | append (kind : Kind) (r : Record)
  | drain (kind : Kind)
  | clear (kind : Kind)
  | flush {σ : Type} (send : Sender σ) (outputDir : RawText) (sendState : SendState σ)
  | report

/-- The entries of an operation, and the store it leaves.  A record that is
refused makes no entry and leaves the store alone. -/
def StoreOp.perform (s : Store) : StoreOp → List Entry × Store
  | add r =>
    match s.add r with
    | .ok t => ([.accepted r.kind r], t)
    | .error _ => ([], s)
  | append kind r =>
    match s.append kind r with
    | .ok t => ([.accepted kind r], t)
    | .error _ => ([], s)
  | drain kind =>
    let (records, t) := s.drain kind
    ([.drained kind records], t)
  | clear kind => ([.discarded kind (s.pending kind)], s.clear kind)
  | flush send outputDir sendState =>
    ((Flush.lots send outputDir Kind.all s sendState).map .sent,
      (Flush.flush send outputDir s sendState).2.1)
  | report => (Kind.all.map fun kind => .discarded kind (s.pending kind), s.clearAll)

/-- The entries of operations in turn, and the store they leave. -/
def performAll (s : Store) : List StoreOp → List Entry × Store
  | [] => ([], s)
  | op :: rest =>
    let (es, t) := op.perform s
    let (fs, u) := performAll t rest
    (es ++ fs, u)

theorem booked_storeOp (op : StoreOp) (s : Store) : Booked s (op.perform s).1 (op.perform s).2 := by
  cases op with
  | add r =>
      cases hadd : s.add r with
      | error e => simpa only [StoreOp.perform, hadd] using Booked.nothing s
      | ok t => simpa only [StoreOp.perform, hadd] using Booked.add hadd
  | append kind r =>
      cases happend : s.append kind r with
      | error e => simpa only [StoreOp.perform, happend] using Booked.nothing s
      | ok t => simpa only [StoreOp.perform, happend] using Booked.append happend
  | drain kind => exact .drain s kind
  | clear kind => exact .clear s kind (fun _ => rfl) fun _ => rfl
  | flush send outputDir sendState => exact Flush.booked_flushKinds send outputDir Kind.all s sendState
  | report => exact .clearAll s

theorem booked_performAll (ops : List StoreOp) (s : Store) :
    Booked s (performAll s ops).1 (performAll s ops).2 := by
  induction ops generalizing s with
  | nil => exact .nothing s
  | cons op rest ih => exact (booked_storeOp op s).trans (ih (op.perform s).2)

/-! ## bytes -/

/-- The record that a byte completes if it closes the last field. -/
def completed? (s : Intake) (b : UInt8) : Option Record :=
  if Wire.isDelimiter b ∧ (Record.fieldCount : Int) ≤ s.decoder.index then
    s.decoder.kind.bind fun kind => Record.ofFields? kind (s.decoder.fields ++ [s.decoder.field])
  else none

/-- The entry of a byte that completes a record, unless it is refused. -/
def ofByte (s : Intake) (b : UInt8) : List Entry :=
  match (s.consume b).1 with
  | .ok _ => (completed? s b).toList.map fun r => .accepted r.kind r
  | .error _ => []

theorem store_closeField_of_lt {s : Intake} (h : s.decoder.index < Record.fieldCount) :
    s.closeField.2.store = s.store := by
  rw [Intake.closeField]
  split
  · rfl
  · rw [if_neg (by omega)]

/-- A record that has been read is added, or a fault is raised. -/
theorem finishRecord_cases (s : Intake) :
    (∃ e, s.finishRecord.1 = .error e ∧ s.finishRecord.2.store = s.store) ∨
      ∃ kind r, s.decoder.kind = some kind ∧ Record.ofFields? kind s.decoder.fields = some r ∧
        s.finishRecord.1 = .ok () ∧ s.store.add r = .ok s.finishRecord.2.store := by
  rw [Intake.finishRecord]
  split
  · exact .inl ⟨_, rfl, rfl⟩
  · next kind hkind =>
      split
      · exact .inl ⟨_, rfl, rfl⟩
      · next r hrecord =>
          split
          · exact .inl ⟨_, rfl, rfl⟩
          · next t hadd => exact .inr ⟨kind, r, hkind, hrecord, rfl, hadd⟩

/-- A decoder behind the delimiter that closes its current field. -/
def behindField (d : Decoder) : Decoder :=
  { d with index := d.index + 1, field := [], fields := d.fields ++ [d.field] }

/-- The last delimiter finishes the record with the field it closes. -/
theorem closeField_of_le {s : Intake} (h : (Record.fieldCount : Int) ≤ s.decoder.index) :
    s.closeField = Intake.finishRecord { s with decoder := behindField s.decoder } := by
  have hfields : Record.fieldCount = 4 := rfl
  have hindex : ¬ s.decoder.index = 0 := by omega
  rw [Intake.closeField, if_neg fun hboth => hindex hboth.1]
  simp only [hindex, if_false, behindField]
  rw [if_pos (by omega)]

/-- A byte makes no entry and leaves the store alone, or the record that it
completes is added. -/
theorem consume_cases (s : Intake) (b : UInt8) :
    (ofByte s b = [] ∧ (s.consume b).2.store = s.store) ∨
      ∃ r, ofByte s b = [.accepted r.kind r] ∧ s.store.add r = .ok (s.consume b).2.store := by
  by_cases hdelimiter : Wire.isDelimiter b = true
  · by_cases hlast : (Record.fieldCount : Int) ≤ s.decoder.index
    · have hcompleted : completed? s b = s.decoder.kind.bind fun kind =>
          Record.ofFields? kind (s.decoder.fields ++ [s.decoder.field]) := if_pos ⟨hdelimiter, hlast⟩
      rw [ofByte, hcompleted, Intake.consume, if_pos hdelimiter, Intake.report,
        closeField_of_le hlast]
      obtain ⟨e, herror, hstore⟩ | ⟨kind, r, hkind, hrecord, hok, hadd⟩ :=
        finishRecord_cases { s with decoder := behindField s.decoder }
      · rw [herror]
        exact .inl ⟨rfl, hstore⟩
      · have hread : s.decoder.kind = some kind := hkind
        have hfields : Record.ofFields? kind (s.decoder.fields ++ [s.decoder.field]) = some r :=
          hrecord
        rw [hok, hread]
        refine .inr ⟨r, ?_, hadd⟩
        simp [hfields, Except.map]
    · have hnone : completed? s b = none := if_neg fun h => hlast h.2
      refine .inl ⟨?_, ?_⟩
      · rw [ofByte, hnone]
        split <;> rfl
      · rw [Intake.consume, if_pos hdelimiter, Intake.report]
        exact store_closeField_of_lt (by omega)
  · have hnone : completed? s b = none := if_neg fun h => hdelimiter h.1
    refine .inl ⟨?_, ?_⟩
    · rw [ofByte, hnone]
      split <;> rfl
    · rw [Intake.consume, if_neg hdelimiter]
      split
      · exact Intake.store_takeKind s b
      · exact Intake.store_takeByte s b

theorem booked_consume (s : Intake) (b : UInt8) :
    Booked s.store (ofByte s b) (s.consume b).2.store := by
  obtain ⟨hentries, hstore⟩ | ⟨r, hentries, hadd⟩ := consume_cases s b
  · rw [hentries, hstore]
    exact .nothing s.store
  · rw [hentries]
    exact .add hadd

/-! ## pieces of input -/

/-- What is done at the end of a line, once decoder and store are seen: operations
on the store, and whether a fault is raised after them.  A state is kept from line
to line. -/
abbrev Plan (σ : Type) : Type 1 := Decoder → Store → σ → List StoreOp × Except Fault Unit × σ

namespace Plan

variable {σ : Type} (plan : Plan σ)

/-- The handler that goes by a plan. -/
def handler : LineHandler σ :=
  fun d store a =>
    let (ops, result, a) := plan d store a
    (result, (performAll store ops).2, a)

/-- The entries of a piece that is fed: those of its bytes, and those of what is
done at the end of its lines. -/
def entries : List UInt8 → Intake → σ → List Entry
  | [], _, _ => []
  | b :: rest, s, a =>
    ofByte s b ++
      match s.consume b with
      | (.error _, _) => []
      | (.ok .continues, t) => entries rest t a
      | (.ok .complete, t) =>
        let (ops, result, a) := plan t.decoder t.store a
        let (es, store) := performAll t.store ops
        es ++
          match result with
          | .error _ => []
          | .ok () => entries rest { t with store } a

theorem booked_feed (chunk : List UInt8) (s : Intake) (a : σ) :
    Booked s.store (plan.entries chunk s a) (feed plan.handler chunk s a).intake.store := by
  induction chunk generalizing s a with
  | nil => exact .nothing s.store
  | cons b rest ih =>
      have hbyte := booked_consume s b
      rw [entries, feed]
      refine hbyte.trans ?_
      cases hconsume : s.consume b with
      | mk result t =>
          cases result with
          | error e => exact .nothing t.store
          | ok event =>
              cases event with
              | continues => exact ih t a
              | complete =>
                  have hwork := booked_performAll (plan t.decoder t.store a).1 t.store
                  simp only [handler]
                  cases hplan : plan t.decoder t.store a with
                  | mk ops more =>
                      obtain ⟨result, a'⟩ := more
                      rw [hplan] at hwork
                      cases result with
                      | error f => simpa using hwork
                      | ok _ => exact hwork.trans (ih { t with store := (performAll t.store ops).2 } a')

end Plan

/-! ## sessions -/

/-- An operation on a decoder and its store.  A piece of input that is not taken
in at one go is consumed byte by byte. -/
inductive Operation : Type 1 where
  | consume (b : UInt8)
  | feed {σ : Type} (plan : Plan σ) (chunk : List UInt8) (a : σ)
  | reset
  | work (op : StoreOp)

/-- The entries of an operation, and what it leaves, whether it failed or not. -/
def Operation.perform (s : Intake) : Operation → List Entry × Intake
  | consume b => (ofByte s b, (s.consume b).2)
  | feed plan chunk a => (plan.entries chunk s a, (BatchMailer.feed plan.handler chunk s a).intake)
  | reset => ([], s.reset)
  | work op =>
    let (es, store) := op.perform s.store
    (es, { s with store })

/-- The books of operations in turn, and what they leave. -/
def books (s : Intake) : List Operation → List Entry × Intake
  | [] => ([], s)
  | op :: rest =>
    let (es, t) := op.perform s
    let (fs, u) := books t rest
    (es ++ fs, u)

theorem booked_perform (op : Operation) (s : Intake) :
    Booked s.store (op.perform s).1 (op.perform s).2.store := by
  cases op with
  | consume b => exact booked_consume s b
  | feed plan chunk a => exact plan.booked_feed chunk s a
  | reset => exact .nothing s.store
  | work op => exact booked_storeOp op s.store

theorem booked_books (ops : List Operation) (s : Intake) :
    Booked s.store (books s ops).1 (books s ops).2.store := by
  induction ops generalizing s with
  | nil => exact .nothing s.store
  | cons op rest ih => exact (booked_perform op s).trans (ih (op.perform s).2)

/-- **No record is lost, doubled, or moved.**  After any operations, each of which
may have failed, the records that joined the batch of a kind are those that were
drained, sent or discarded and those that still wait, in the order in which they
joined, and all are of this kind.  The lots that a flush is booked with are those
that its sender is given as requests. -/
theorem joined_eq_of_books (capacity : Int) (ops : List Operation) :
    let (es, s) := books (.new capacity) ops
    (∀ kind, joined kind es = left kind es ++ s.store.pending kind ∧
      ∀ r ∈ joined kind es, r.kind = kind) ∧
    ∀ (σ : Type) (send : Sender σ) (dir : RawText) (store : Store) (a : σ) (host : Host),
      (Flush.flush send.recording dir store ⟨(a, []), host⟩).2.2.sender.2 =
        (Flush.lots send dir Kind.all store ⟨a, host⟩).map Lot.request := by
  have hbooked := booked_books ops (.new capacity)
  refine ⟨fun kind => ⟨?_, fun r hr => ?_⟩, fun σ send dir store a host => ?_⟩
  · have hbalance := hbooked.balance kind
    have hnew : (Intake.new capacity).store.pending kind = [] := Store.pending_new capacity kind
    rwa [hnew, List.nil_append] at hbalance
  · rw [hbooked.own kind r hr]
    cases kind <;> rfl
  · exact Flush.requests_flushKinds send dir Kind.all store a [] host

/-- An interrupt ends a flush at its first request; the other batch still waits. -/
example (host : Host) :
    (books (.new 1) [.work (.add ⟨.activation, [], [], [], []⟩),
      .work (.add ⟨.passwordRecovery, [], [], [], []⟩),
      .work (.flush scripted "out" ⟨[.error ⟨.interrupt, "KeyboardInterrupt", ""⟩], host⟩)]).1 =
    [.accepted .activation ⟨.activation, [], [], [], []⟩,
      .accepted .passwordRecovery ⟨.passwordRecovery, [], [], [], []⟩,
      .sent ⟨.activation, [⟨.activation, [], [], [], []⟩]⟩] := rfl

/-! ## steps of a session -/

theorem books_append (s : Intake) (front back : List Operation) :
    (books s (front ++ back)).2 = (books (books s front).2 back).2 := by
  induction front generalizing s with
  | nil => rfl
  | cons op rest ih => exact ih (op.perform s).2

/-- What some operations lead to. -/
def Leads (s t : Intake) : Prop := ∃ ops, (books s ops).2 = t

namespace Leads

variable {s t u : Intake}

theorem nothing (s : Intake) : Leads s s := ⟨[], rfl⟩

theorem perform (s : Intake) (op : Operation) : Leads s (op.perform s).2 := ⟨[op], rfl⟩

theorem trans (h : Leads s t) (h' : Leads t u) : Leads s u := by
  obtain ⟨front, rfl⟩ := h
  obtain ⟨back, rfl⟩ := h'
  exact ⟨front ++ back, books_append s front back⟩

theorem consumeAll (bytes : List UInt8) (s : Intake) :
    Leads s (Session.consumeAll bytes s).2.2 := by
  induction bytes generalizing s with
  | nil => exact .nothing s
  | cons b rest ih =>
      have hbyte : Leads s (s.consume b).2 := perform s (.consume b)
      rw [Session.consumeAll]
      split
      · next hconsume => rwa [hconsume] at hbyte
      · next t hconsume =>
          rw [hconsume] at hbyte
          exact hbyte.trans (ih t)

theorem pumpReads {σ : Type} (plan : Plan σ) (onRead : Option Piece → σ → σ) (pieces : List Piece)
    (s : Intake) (a : σ) : Leads s (BatchMailer.pumpReads onRead plan.handler pieces s a).intake := by
  induction pieces generalizing s a with
  | nil => exact .nothing s
  | cons piece rest ih =>
      cases piece with
      | failure f => exact .nothing s
      | bytes content =>
          have hfeed : Leads s (feed plan.handler content s (onRead (some (.bytes content)) a)).intake :=
            perform s (.feed plan content (onRead (some (.bytes content)) a))
          rw [BatchMailer.pumpReads]
          cases hp : feed plan.handler content s (onRead (some (.bytes content)) a) with
          | mk result t b =>
              rw [hp] at hfeed
              cases result with
              | ok _ => exact hfeed.trans (ih t b)
              | error f => exact hfeed

end Leads

/-- A plan that leaves alone what is kept beside its state. -/
def Plan.beside {σ τ : Type} (plan : Plan σ) : Plan (τ × σ) :=
  fun d store (kept, a) =>
    let (ops, result, a) := plan d store a
    (ops, result, (kept, a))

end Ledger

namespace Session

open Ledger

/-- What the handler of a session does to the store. -/
def planOf (outputDir : RawText) (action : LineAction) : Plan LineState :=
  fun d store a =>
    let (result, _, b) := handler outputDir action d store a
    let ops : List StoreOp :=
      match action with
      | .observe => []
      | .clear | .tally => [.report]
      | .flush =>
        [.flush scripted.recording outputDir { a.scriptState with sender := (a.scriptState.sender.1, []) }]
    (ops, result, b)

theorem handler_planOf (outputDir : RawText) (action : LineAction) :
    (planOf outputDir action).handler = handler outputDir action := by
  funext d store a
  cases action with
  | observe => rfl
  | clear => rfl
  | tally => rfl
  | flush =>
      have hstore : (flushStore outputDir store a.scriptState).2.1 =
          (handler outputDir .flush d store a).2.1 := by
        rw [handler]
        split
        · next heq => rw [heq]
        · next heq => rw [heq]
      exact Prod.ext rfl (Prod.ext hstore rfl)

/-- The steps of a session are made up of operations, except that decoders may be
assigned to. -/
theorem leads_step (s : State) {action : Step} (h : ∀ index kind, action ≠ .assign index kind) :
    Leads s.intake (step s action).2.intake := by
  have hwork : ∀ op : StoreOp, Leads s.intake { s.intake with store := (op.perform s.intake.store).2 } :=
    fun op => .perform s.intake (.work op)
  cases action with
  | consume bytes => exact .consumeAll bytes s.intake
  | feed bytes maxLines onLine outlet =>
      have hfeed := Leads.perform s.intake (.feed (planOf outlet.outputDir onLine)
        (limitLines maxLines bytes) (beginLines outlet s.host))
      rwa [Operation.perform, handler_planOf] at hfeed
  | pump pieces size onLine outlet =>
      have hpump := Leads.pumpReads (planOf outlet.outputDir onLine).beside
        (fun _ (count, a) => (count + 1, a)) (reads size pieces) s.intake (0, beginLines outlet s.host)
      have hbeside : (planOf outlet.outputDir onLine).beside.handler =
          (planOf outlet.outputDir onLine).handler.beside (τ := Nat) := rfl
      rwa [hbeside, handler_planOf] at hpump
  | reset => exact .perform s.intake .reset
  | assign index kind => exact absurd rfl (h index kind)
  | add record =>
      have hadd := hwork (.add record)
      rw [step]
      cases hresult : s.intake.store.add record with
      | error e => exact .nothing s.intake
      | ok t => simpa only [withStore, StoreOp.perform, hresult] using hadd
  | append batch record =>
      have happend := hwork (.append batch record)
      rw [step]
      cases hresult : s.intake.store.append batch record with
      | error e => exact .nothing s.intake
      | ok t => simpa only [withStore, StoreOp.perform, hresult] using happend
  | ofFields kind fields =>
      rw [step]
      split <;> exact .nothing s.intake
  | drain batch => exact hwork (.drain batch)
  | clear batch => exact hwork (.clear batch)
  | report => exact hwork .report
  | flush outlet => exact hwork (.flush scripted.recording outlet.outputDir _)
  | records => exact .nothing s.intake
  | isFull => exact .nothing s.intake
  | isEmpty => exact .nothing s.intake
  | counts => exact .nothing s.intake

/-- A session that assigns nothing gets into no state that operations do not lead
to, so the books account for all its records. -/
theorem leads_of_mem_run {s : State} {steps : List Step}
    (hsteps : ∀ action ∈ steps, ∀ index kind, action ≠ .assign index kind)
    {result : Except Fault Result} {t : State} {added : List Log.Entry}
    (ht : (result, t, added) ∈ run s steps) : Leads s.intake t.intake := by
  induction steps generalizing s with
  | nil => contradiction
  | cons action rest ih =>
      have hnext := leads_step s (hsteps action List.mem_cons_self)
      rw [run, List.mem_cons] at ht
      obtain hhere | hlater := ht
      · cases hhere
        exact hnext
      · exact hnext.trans (ih (fun other hother => hsteps other (List.mem_cons_of_mem action hother))
          hlater)

end Session

end BatchMailer
