import BatchMailer.Proofs.Flush.Settled
import BatchMailer.Run

/-!
# BatchMailer.Proofs.Flush.InTurn

A flush as a list of requests that are dispatched in turn.

What a flush asks of its sender is decided by the batches alone
(`Store.requests`); the rest of it is to dispatch these requests one after the
other, up to the first fault (`dispatchAll`).  A flush without a fault leaves
empty batches (`flush_eq`).  So what a sender and a host go through in a flush
can be said by induction over a list of requests, without a word about batches.
`Sender.answers` is the sender's part in it, if it were asked all of them: on a host
in UTC, with an output directory whose path can be used, the first fault among them
decides what becomes of the requests (`dispatchAll_eq_concluded`).
-/

namespace BatchMailer

/-- The requests that a flush of a store makes, if nothing stops it. -/
def Store.requests (s : Store) : List Request := (Lot.ofKinds Kind.all s.pending).map Lot.request

/-- A sender that takes notes of its requests. -/
def Sender.noting {σ κ : Type} (note : κ → Request → κ) (send : Sender σ) : Sender (σ × κ) :=
  fun (a, kept) request =>
    let answer := send a request
    { result := answer.result
      printed := answer.printed
      state := (answer.state, note kept request) }

/-- What a sender makes of requests in turn. -/
def Sender.answers {σ : Type} (send : Sender σ) : σ → List Request → List (Except Failure Outcome)
  | _, [] => []
  | a, request :: rest =>
    (send a request).result :: answers send (send a request).state rest

section

variable {σ : Type}

/-- Requests that follow do not change the answers to those in front. -/
theorem Sender.answers_prefix (send : Sender σ) (a : σ) (front back : List Request) :
    send.answers a front <+: send.answers a (front ++ back) := by
  induction front generalizing a with
  | nil => exact List.nil_prefix
  | cons request rest ih => exact List.cons_prefix_cons.2 ⟨rfl, ih _⟩

/-- An answer to some requests is the answer to one of them. -/
theorem Sender.exists_of_mem_answers {send : Sender σ} {a : σ} {requests : List Request}
    {answer : Except Failure Outcome} (h : answer ∈ send.answers a requests) :
    ∃ b request, (send b request).result = answer := by
  induction requests generalizing a with
  | nil => exact absurd h List.not_mem_nil
  | cons request rest ih =>
      obtain heq | hlater := List.mem_cons.1 h
      · exact ⟨a, request, heq.symm⟩
      · exact ih hlater

/-- A sender whose reports on some requests can be settled.  It may give up instead, for
whatever reason, and it may be interrupted. -/
def Sender.ReportsTo (send : Sender σ) (a : σ) (requests : List Request) : Prop :=
  ∀ o, .ok o ∈ send.answers a requests → o.Fits

/-- A sender whose reports, from a state on, can be settled. -/
def Sender.Reports (send : Sender σ) (a : σ) : Prop := ∀ requests, send.ReportsTo a requests

section

variable {send : Sender σ} {a : σ} {request : Request} {rest : List Request}

theorem Sender.ReportsTo.head (h : send.ReportsTo a (request :: rest)) :
    send.ReportsTo a [request] := fun o ho =>
  h o (List.mem_cons.2 (.inl (List.mem_singleton.1 ho)))

theorem Sender.ReportsTo.next (h : send.ReportsTo a (request :: rest)) :
    send.ReportsTo (send a request).state rest := fun o ho => h o (List.mem_cons_of_mem _ ho)

end

/-- A script of such reports is answered by such reports. -/
theorem reports_scripted {script : List (Except Failure Outcome)}
    (h : ∀ o, .ok o ∈ script → o.Fits) : scripted.Reports script := by
  intro requests
  induction requests generalizing script with
  | nil => exact fun o ho => absurd ho List.not_mem_nil
  | cons request rest ih =>
      intro o ho
      cases script with
      | nil =>
          obtain heq | ho := List.mem_cons.1 ho
          · rw [Except.ok.inj heq]
            exact Outcome.fits_delivered _
          · exact ih (fun _ hmem => absurd hmem List.not_mem_nil) o ho
      | cons answer more =>
          obtain heq | ho := List.mem_cons.1 ho
          · exact h o (heq ▸ List.mem_cons_self)
          · exact ih (fun other hother => h other (List.mem_cons_of_mem _ hother)) o ho

end

namespace Flush

variable {σ : Type}

/-! ## one request -/

/-- The report that is settled of an answer: the sender's own, or that it gave up,
unless it was interrupted. -/
def reported : Except Failure Outcome → Option Outcome
  | .ok o => some o
  | .error f => if f.isInterrupt then none else some (gaveUp f)

theorem exists_interrupt_of_reported {answer : Except Failure Outcome}
    (h : reported answer = none) : ∃ f, answer = .error f ∧ f.isInterrupt = true := by
  cases answer with
  | ok o => contradiction
  | error f =>
      rw [reported] at h
      exact ⟨f, rfl, by simpa using h⟩

section

variable {send : Sender σ} {request : Request} {o : SendState σ}

/-- An interrupted request is not settled. -/
theorem dispatch_of_interrupt (dir : RawText) {f : Failure}
    (hresult : (send o.sender request).result = .error f) (hf : f.isInterrupt = true) :
    dispatch send dir request o = (.error (.outside f), ⟨(send o.sender request).state,
      o.host.readSteady.2.print (send o.sender request).printed⟩) := by
  simp only [dispatch, hresult, hf, if_true]

/-- Any other is settled by its report. -/
theorem dispatch_of_reported (dir : RawText) {outcome : Outcome}
    (hreported : reported (send o.sender request).result = some outcome) :
    let settled := Capture.settle request.kind outcome dir (some o.host.steady.now)
      (o.host.readSteady.2.print (send o.sender request).printed)
    dispatch send dir request o =
      (settled.1.map fun path => ⟨request.kind, request.destinations.length, outcome, path⟩,
        ⟨(send o.sender request).state, settled.2⟩) := by
  cases hresult : (send o.sender request).result with
  | ok answer =>
      rw [hresult] at hreported
      rw [← Option.some.inj hreported]
      simp only [dispatch, hresult]
      rfl
  | error f =>
      rw [hresult, reported] at hreported
      by_cases hf : f.isInterrupt = true
      · rw [if_pos hf] at hreported
        contradiction
      · rw [if_neg hf] at hreported
        rw [← Option.some.inj hreported]
        simp only [dispatch, hresult, hf]
        rfl

end

/-- Notes that a sender takes of its requests change nothing about a dispatch. -/
theorem dispatch_noting {κ : Type} (note : κ → Request → κ) (send : Sender σ) (dir : RawText)
    (request : Request) (a : σ) (kept : κ) (h : Host) :
    dispatch (send.noting note) dir request ⟨(a, kept), h⟩ =
      ((dispatch send dir request ⟨a, h⟩).1,
        ⟨((dispatch send dir request ⟨a, h⟩).2.sender, note kept request),
          (dispatch send dir request ⟨a, h⟩).2.host⟩) := by
  rw [dispatch, dispatch]
  simp only [Sender.noting]
  split
  · rfl
  · split
    · rfl
    · rfl

/-! ## requests in turn -/

/-- Dispatches requests one after the other, up to the first fault. -/
def dispatchAll (send : Sender σ) (outputDir : RawText) :
    List Request → SendState σ → Except Fault Unit × SendState σ
  | [], o => (.ok (), o)
  | request :: rest, o =>
    match dispatch send outputDir request o with
    | (.error f, o) => (.error f, o)
    | (.ok _, o) => dispatchAll send outputDir rest o

section

variable (send : Sender σ) (dir : RawText)

/-- What follows a dispatch: nothing, if there was a fault. -/
theorem dispatchAll_append (front back : List Request) (o : SendState σ) :
    dispatchAll send dir (front ++ back) o =
      match dispatchAll send dir front o with
      | (.error f, o) => (.error f, o)
      | (.ok _, o) => dispatchAll send dir back o := by
  induction front generalizing o with
  | nil => rfl
  | cons request rest ih =>
      rw [List.cons_append, dispatchAll, dispatchAll]
      split
      · rfl
      · exact ih _

/-- A flush of some batches dispatches their requests in turn. -/
theorem flushKinds_eq {kinds : List Kind} (hkinds : kinds.Nodup) (s : Store) (o : SendState σ) :
    let requests := (Lot.ofKinds kinds s.pending).map Lot.request
    ((flushKinds send dir kinds s o).1.map fun _ => ()) = (dispatchAll send dir requests o).1 ∧
      (flushKinds send dir kinds s o).2.2 = (dispatchAll send dir requests o).2 ∧
      ((dispatchAll send dir requests o).1 = .ok () →
        (flushKinds send dir kinds s o).2.1 = kinds.foldl Store.clear s) := by
  induction kinds generalizing s o with
  | nil => exact ⟨rfl, rfl, fun _ => rfl⟩
  | cons kind rest ih =>
      obtain ⟨hkind, hrest⟩ := List.nodup_cons.1 hkinds
      have hothers := Lot.ofKinds_clear hkind s
      rw [flushKinds_cons, Store.drain, Lot.ofKinds, List.flatMap_cons, ← Lot.ofKinds, List.foldl_cons,
        Lot.ofKind]
      cases hpending : s.pending kind with
      | nil =>
          have hflush := ih hrest (s.clear kind) o
          rw [hothers] at hflush
          exact hflush
      | cons record more =>
          have hrequests : (([⟨kind, record :: more⟩] : List Lot) ++
              Lot.ofKinds rest s.pending).map Lot.request =
                .ofRecords kind (record :: more) :: (Lot.ofKinds rest s.pending).map Lot.request :=
            rfl
          simp only [reduceCtorEq, if_false, hrequests, dispatchAll]
          cases dispatch send dir (.ofRecords kind (record :: more)) o with
          | mk result o' =>
              cases result with
              | error f => exact ⟨rfl, rfl, fun h => by contradiction⟩
              | ok d =>
                  obtain ⟨hresult, hsendState, hstore⟩ := ih hrest (s.clear kind) o'
                  rw [hothers] at hresult hsendState hstore
                  have hforget : ∀ ds : Except Fault (List Dispatch),
                      ((ds.map (d :: ·)).map fun _ => ()) = ds.map fun _ => () :=
                    fun ds => by cases ds <;> rfl
                  exact ⟨(hforget _).trans hresult, hsendState, hstore⟩

/-- A flush dispatches the requests of its store in turn. -/
theorem flush_eq (s : Store) (o : SendState σ) :
    ((flush send dir s o).1.map fun _ => ()) = (dispatchAll send dir s.requests o).1 ∧
      (flush send dir s o).2.2 = (dispatchAll send dir s.requests o).2 ∧
      ((dispatchAll send dir s.requests o).1 = .ok () → (flush send dir s o).2.1 = s.clearAll) :=
  flushKinds_eq send dir (by decide) s o

end

/-! ## faults -/

/-- The fault that an answer to a request ends a flush with, if it does: an interrupt, or
that of settling a report. -/
def fault? : Except Failure Outcome → Option Fault
  | .ok o => o.fault?
  | .error f => if f.isInterrupt then some (.outside f) else none

/-- What becomes of requests in turn, by the answers to them: the first fault, if there
is one. -/
def concluded (answers : List (Except Failure Outcome)) : Except Fault Unit :=
  match answers.findSome? fault? with
  | some f => .error f
  | none => .ok ()

section

variable {send : Sender σ} {dir : RawText}

theorem dispatch_of_fault (dir : RawText) {request : Request} {a : σ} {h : Host} {f : Fault}
    (hfault : fault? (send a request).result = some f) (hutc : h.InUtc) :
    ∃ after, dispatch send dir request ⟨a, h⟩ = (.error f, ⟨(send a request).state, after⟩) := by
  cases hresult : (send a request).result with
  | ok outcome =>
      rw [hresult] at hfault
      have hreported : reported (send a request).result = some outcome := by
        rw [hresult, reported]
      have hprinted : (h.readSteady.2.print (send a request).printed).InUtc := hutc
      have hdispatch := dispatch_of_reported (o := ⟨a, h⟩) dir hreported
      obtain ⟨after, hsettle, -⟩ := Capture.settle_of_fault hfault hprinted request.kind dir
        (some h.steady.now)
      simp only [hsettle] at hdispatch
      exact ⟨after, hdispatch⟩
  | error g =>
      rw [hresult, fault?] at hfault
      split at hfault
      · next hg =>
          rw [← Option.some.inj hfault]
          exact ⟨_, dispatch_of_interrupt (o := ⟨a, h⟩) dir hresult hg⟩
      · contradiction

/-- A request whose answer brings no fault goes through. -/
theorem dispatch_of_no_fault {request : Request} {a : σ}
    (hfault : fault? (send a request).result = none) (hdir : dir.IsPath) {h : Host}
    (hutc : h.InUtc) :
    ∃ outcome path after, reported (send a request).result = some outcome ∧
      Capture.settle request.kind outcome dir (some h.steady.now)
        (h.readSteady.2.print (send a request).printed) = (.ok path, after) ∧
      dispatch send dir request ⟨a, h⟩ =
        (.ok ⟨request.kind, request.destinations.length, outcome, path⟩,
          ⟨(send a request).state, after⟩) ∧
      after.InUtc := by
  obtain ⟨outcome, hreported, hsettles⟩ : ∃ outcome,
      reported (send a request).result = some outcome ∧ outcome.fault? = none := by
    cases hresult : (send a request).result with
    | ok outcome => exact ⟨outcome, rfl, by rwa [hresult] at hfault⟩
    | error f =>
        rw [hresult, fault?] at hfault
        split at hfault
        · contradiction
        · next hf =>
            exact ⟨gaveUp f, if_neg hf, Outcome.fault?_of_fits (Outcome.fits_failed _ f.described)⟩
  have hprinted : (h.readSteady.2.print (send a request).printed).InUtc := hutc
  have hdispatch := dispatch_of_reported (o := ⟨a, h⟩) dir hreported
  obtain ⟨path, after, hsettle, hafter⟩ := Capture.settle_of_no_fault hsettles hdir hprinted
    request.kind (some h.steady.now)
  simp only [hsettle] at hdispatch
  exact ⟨outcome, path, after, hreported, hsettle, hdispatch, hafter⟩

/-- Requests are dispatched up to the first fault among the answers to them. -/
theorem dispatchAll_eq_concluded (hdir : dir.IsPath) (requests : List Request) (a : σ)
    {h : Host} (hutc : h.InUtc) :
    (dispatchAll send dir requests ⟨a, h⟩).1 = concluded (send.answers a requests) := by
  induction requests generalizing a h with
  | nil => rfl
  | cons request rest ih =>
      rw [Sender.answers, dispatchAll, concluded, List.findSome?_cons]
      cases hfault : fault? (send a request).result with
      | some f =>
          obtain ⟨after, hdispatch⟩ := dispatch_of_fault dir hfault hutc
          rw [hdispatch]
      | none =>
          obtain ⟨outcome, path, after, -, -, hdispatch, hafter⟩ :=
            dispatch_of_no_fault hfault hdir hutc
          rw [hdispatch]
          exact ih _ hafter

end

/-! ## reports that can be settled -/

section

variable {send : Sender σ} {dir : RawText}

/-- The only fault that such reports leave is an interrupt. -/
theorem fault?_of_reports {a : σ} {requests : List Request} (hsend : send.ReportsTo a requests)
    {answer : Except Failure Outcome} (hanswer : answer ∈ send.answers a requests) {f : Fault}
    (hfault : fault? answer = some f) :
    ∃ g, answer = .error g ∧ g.cause = .interrupt ∧ f = .outside g := by
  cases answer with
  | ok o =>
      rw [fault?, Outcome.fault?_of_fits (hsend o hanswer)] at hfault
      contradiction
  | error g =>
      rw [fault?] at hfault
      split at hfault
      · next hg => exact ⟨g, rfl, beq_iff_eq.1 hg, (Option.some.inj hfault).symm⟩
      · contradiction

theorem cause_of_no_fault {f : Failure} (h : fault? (.error f) = none) : f.cause ≠ .interrupt := by
  intro hcause
  have hf : f.isInterrupt = true := beq_iff_eq.2 hcause
  rw [fault?, if_pos hf] at h
  contradiction

/-- A dispatch is interrupted or goes through. -/
theorem dispatch_of_reports {a : σ} {request : Request} (hsend : send.ReportsTo a [request])
    (hdir : dir.IsPath) {h : Host} (hutc : h.InUtc) :
    (∃ f after, (send a request).result = .error f ∧ f.cause = .interrupt ∧
      dispatch send dir request ⟨a, h⟩ =
        (.error (.outside f), ⟨(send a request).state, after⟩)) ∨
    (∀ f, (send a request).result = .error f → f.cause ≠ .interrupt) ∧
      ∃ outcome path after, reported (send a request).result = some outcome ∧
        Capture.settle request.kind outcome dir (some h.steady.now)
          (h.readSteady.2.print (send a request).printed) = (.ok path, after) ∧
        dispatch send dir request ⟨a, h⟩ =
          (.ok ⟨request.kind, request.destinations.length, outcome, path⟩,
            ⟨(send a request).state, after⟩) ∧
        after.InUtc := by
  have hanswer : (send a request).result ∈ send.answers a [request] := List.mem_cons_self
  cases hfault : fault? (send a request).result with
  | some f =>
      obtain ⟨g, hresult, hcause, rfl⟩ := fault?_of_reports hsend hanswer hfault
      obtain ⟨after, hdispatch⟩ := dispatch_of_fault dir hfault hutc
      exact .inl ⟨g, after, hresult, hcause, hdispatch⟩
  | none =>
      refine .inr ⟨fun f hf => ?_, dispatch_of_no_fault hfault hdir hutc⟩
      rw [hf] at hfault
      exact cause_of_no_fault hfault

/-- The answers in turn are an interrupt's, or there is none. -/
theorem concluded_of_reports {a : σ} {requests : List Request}
    (hsend : send.ReportsTo a requests) :
    (∃ f, .error f ∈ send.answers a requests ∧ f.cause = .interrupt ∧
      concluded (send.answers a requests) = .error (.outside f)) ∨
    (∀ f, .error f ∈ send.answers a requests → f.cause ≠ .interrupt) ∧
      concluded (send.answers a requests) = .ok () := by
  rw [concluded]
  cases hfirst : (send.answers a requests).findSome? fault? with
  | some f =>
      obtain ⟨answer, hanswer, hfault⟩ := List.exists_of_findSome?_eq_some hfirst
      obtain ⟨g, rfl, hcause, rfl⟩ := fault?_of_reports hsend hanswer hfault
      exact .inl ⟨g, hanswer, hcause, rfl⟩
  | none =>
      exact .inr ⟨fun f hf => cause_of_no_fault (List.findSome?_eq_none_iff.1 hfirst _ hf), rfl⟩

end

end Flush

/-- At the end of a line the requests of the store are dispatched in turn. -/
theorem Run.flushing_eq {σ : Type} (send : Sender σ) (dir : RawText) (d : Decoder) (s : Store)
    (o : SendState σ) :
    ∃ left, flushing send dir d s o =
        ((Flush.dispatchAll send dir s.requests o).1, left,
          (Flush.dispatchAll send dir s.requests o).2) ∧
      ((Flush.dispatchAll send dir s.requests o).1 = .ok () → left = s.clearAll) := by
  obtain ⟨hresult, hsendState, hstore⟩ := Flush.flush_eq send dir s o
  refine ⟨(Flush.flush send dir s o).2.1, ?_, hstore⟩
  rw [← hresult, ← hsendState]
  rfl

end BatchMailer
