import BatchMailer.Proofs.Flush.InTurn

/-!
# BatchMailer.Proofs.Flush.Witnessed

A flush as its sender sees it.

A flush shows its sender the store (`flushKindsSeen`), but the senders of the mailer do
not look at it.  One that looks, and only notes what it sees
(`flushKindsSeen_observing`), is a witness of the order of things: its batch is emptied
before it is asked, and those behind it are not touched yet (`Store.calls`).

A flush goes through all batches, and its answer settles them in turn
(`Flush.Settled`), unless the sender is interrupted: then it ends there
(`flushKindsSeen_of_reports`).
-/

namespace BatchMailer

variable {σ : Type}

/-- What a flush of some kinds asks of its sender, if nothing stops it: each request,
with the store as it is by then. -/
def Store.calls : List Kind → Store → List (Store × Request)
  | [], _ => []
  | kind :: rest, s =>
    if s.pending kind = [] then calls rest (s.clear kind)
    else (s.clear kind, .ofRecords kind (s.pending kind)) :: calls rest (s.clear kind)

/-- A sender that notes the store and the request whenever it is asked. -/
def Sender.observing (send : Sender σ) (store : Store) : Sender (σ × List (Store × Request)) :=
  send.noting fun calls request => calls ++ [(store, request)]

namespace Flush

/-- Flushes both batches with a sender that sees the store. -/
def flushSeen (send : Store → Sender σ) (outputDir : RawText) (s : Store) (o : SendState σ) :
    Except Fault (List Dispatch) × Store × SendState σ :=
  flushKindsSeen send outputDir Kind.all s o

/-- What is settled of an answer: a report as it is, and of a sender that gave up without
being interrupted, that the status is unknown, with its name and its text for an error. -/
inductive Reported : Except Failure Outcome → Outcome → Prop where
  | answered (o : Outcome) : Reported (.ok o) o
  | gaveUp {f : Failure} (hcause : f.cause ≠ .interrupt) :
      Reported (.error f)
        { status := some (.text "unknown")
          error := some (.text (f.name ++ ": " ++ f.text))
          destinationStatuses := none
          http := none
          response := none }

theorem reported_of_eq_some {answer : Except Failure Outcome} {outcome : Outcome}
    (h : reported answer = some outcome) : Reported answer outcome := by
  cases answer with
  | ok o => exact Option.some.inj h ▸ .answered o
  | error f =>
      rw [reported] at h
      split at h
      · contradiction
      · next hf =>
          rw [← Option.some.inj h]
          exact .gaveUp fun hcause => hf (beq_iff_eq.2 hcause)

/-- Dispatches that settle requests in turn: each has the kind and the size of its
request, what is settled of the sender's answer, and the path that settling it came to. -/
inductive Settled (send : Sender σ) (outputDir : RawText) :
    List Request → SendState σ → List Dispatch → SendState σ → Prop where
  | nil (o : SendState σ) : Settled send outputDir [] o [] o
  | cons {request : Request} {rest : List Request} {o after : SendState σ} {outcome : Outcome}
      {path : Option RawText} {host : Host} {ds : List Dispatch}
      (hreported : Reported (send o.sender request).result outcome)
      (hsettle : Capture.settle request.kind outcome outputDir (some o.host.steady.now)
        (o.host.readSteady.2.print (send o.sender request).printed) = (.ok path, host))
      (hrest : Settled send outputDir rest ⟨(send o.sender request).state, host⟩ ds after) :
      Settled send outputDir (request :: rest) o
        (⟨request.kind, request.destinations.length, outcome, path⟩ :: ds) after

end Flush

/-! ## stores on the way -/

theorem Store.pending_foldl_clear (kinds : List Kind) (s : Store) (kind : Kind) :
    (kinds.foldl Store.clear s).pending kind = if kind ∈ kinds then [] else s.pending kind := by
  induction kinds generalizing s with
  | nil => simp
  | cons first rest ih =>
      rw [List.foldl_cons, ih, Store.pending_clear]
      by_cases hrest : kind ∈ rest <;> by_cases hfirst : kind = first <;> simp [hrest, hfirst]

/-- The kinds up to one of them, by index. -/
theorem Kind.mem_front_iff {front back : List Kind} {kind : Kind}
    (h : Kind.all = front ++ kind :: back) (other : Kind) :
    other ∈ front ++ [kind] ↔ other.index ≤ kind.index := by
  have hsorted : Kind.all.Pairwise (·.index < ·.index) := by decide
  have hall : other ∈ Kind.all := Kind.mem_all other
  rw [h] at hsorted hall
  obtain ⟨-, hback, hfront⟩ := List.pairwise_append.1 hsorted
  rw [List.mem_append, List.mem_singleton]
  constructor
  · rintro (hother | rfl)
    · exact Nat.le_of_lt (hfront other hother kind List.mem_cons_self)
    · exact Nat.le_refl _
  · intro hle
    rw [List.mem_append, List.mem_cons] at hall
    obtain hother | rfl | hother := hall
    · exact .inl hother
    · exact .inr rfl
    · exact absurd ((List.pairwise_cons.1 hback).1 other hother) (Nat.not_lt.2 hle)

/-- With the kinds up to one of them emptied, those behind it are as they were. -/
theorem Store.pending_clear_front {front back : List Kind} {kind : Kind} (s : Store)
    (h : Kind.all = front ++ kind :: back) (other : Kind) :
    ((front ++ [kind]).foldl clear s).pending other =
      if other.index ≤ kind.index then [] else s.pending other := by
  rw [pending_foldl_clear]
  simp only [Kind.mem_front_iff h]

theorem Lot.ofKinds_append (front back : List Kind) (waiting : Kind → List Record) :
    ofKinds (front ++ back) waiting = ofKinds front waiting ++ ofKinds back waiting :=
  List.flatMap_append

theorem Lot.ofKinds_cons_of_ne_nil {kind : Kind} {waiting : Kind → List Record}
    (h : waiting kind ≠ []) (rest : List Kind) :
    ofKinds (kind :: rest) waiting = ⟨kind, waiting kind⟩ :: ofKinds rest waiting := by
  rw [ofKinds, List.flatMap_cons, ofKind, if_neg h]
  rfl

theorem Lot.ofKinds_append_cons {kind : Kind} {waiting : Kind → List Record}
    (h : waiting kind ≠ []) (front rest : List Kind) :
    ofKinds (front ++ kind :: rest) waiting =
      ofKinds front waiting ++ ⟨kind, waiting kind⟩ :: ofKinds rest waiting := by
  rw [ofKinds_append, ofKinds_cons_of_ne_nil h]

theorem Lot.ofKinds_cons_of_eq_nil {kind : Kind} {waiting : Kind → List Record}
    (h : waiting kind = []) (rest : List Kind) :
    ofKinds (kind :: rest) waiting = ofKinds rest waiting := by
  rw [ofKinds, List.flatMap_cons, ofKind, if_pos h]
  rfl

namespace Store

theorem calls_append (front back : List Kind) (s : Store) :
    s.calls (front ++ back) = s.calls front ++ (front.foldl clear s).calls back := by
  induction front generalizing s with
  | nil => rfl
  | cons kind rest ih =>
      rw [List.cons_append, calls, calls, List.foldl_cons, ih]
      split
      · rfl
      · rfl

/-- The requests of these calls are those for the lots. -/
theorem map_snd_calls {kinds : List Kind} (hkinds : kinds.Nodup) (s : Store) :
    (calls kinds s).map Prod.snd = (Lot.ofKinds kinds s.pending).map Lot.request := by
  induction kinds generalizing s with
  | nil => rfl
  | cons kind rest ih =>
      obtain ⟨hkind, hrest⟩ := List.nodup_cons.1 hkinds
      have hmore := ih hrest (s.clear kind)
      rw [Lot.ofKinds_clear hkind] at hmore
      rw [calls]
      split
      · next hempty => rw [hmore, Lot.ofKinds_cons_of_eq_nil hempty]
      · next hfull =>
          rw [Lot.ofKinds_cons_of_ne_nil hfull, List.map_cons, List.map_cons, hmore]
          rfl

/-- In each of them the batches up to that of the request have been emptied, and no
others. -/
theorem exists_of_mem_calls {kinds : List Kind} {s store : Store} {request : Request}
    (h : (store, request) ∈ calls kinds s) :
    ∃ front back, kinds = front ++ request.kind :: back ∧
      store = (front ++ [request.kind]).foldl Store.clear s := by
  induction kinds generalizing s with
  | nil => exact absurd h List.not_mem_nil
  | cons kind rest ih =>
      have hlater : (store, request) ∈ calls rest (s.clear kind) →
          ∃ front back, kind :: rest = front ++ request.kind :: back ∧
            store = (front ++ [request.kind]).foldl Store.clear s := by
        intro hmem
        obtain ⟨front, back, hrest, hstore⟩ := ih hmem
        exact ⟨kind :: front, back, by rw [hrest, List.cons_append], hstore⟩
      rw [calls] at h
      split at h
      · exact hlater h
      · obtain heq | hmem := List.mem_cons.1 h
        · obtain ⟨rfl, rfl⟩ := Prod.mk.inj heq
          exact ⟨[], rest, rfl, rfl⟩
        · exact hlater hmem

end Store

namespace Flush

/-! ## striking out what was seen -/

theorem dispatch_observing (send : Sender σ) (dir : RawText) (store : Store) (request : Request)
    (a : σ) (calls : List (Store × Request)) (h : Host) :
    dispatch (send.observing store) dir request ⟨(a, calls), h⟩ =
      ((dispatch send dir request ⟨a, h⟩).1,
        ⟨((dispatch send dir request ⟨a, h⟩).2.sender, calls ++ [(store, request)]),
          (dispatch send dir request ⟨a, h⟩).2.host⟩) :=
  dispatch_noting _ send dir request a calls h

/-- A sender that only notes what it sees makes the flush itself. -/
theorem flushKindsSeen_observing (send : Sender σ) (dir : RawText) (kinds : List Kind) (s : Store)
    (a : σ) (calls : List (Store × Request)) (h : Host) :
    let seen := flushKindsSeen send.observing dir kinds s ⟨(a, calls), h⟩
    flushKinds send dir kinds s ⟨a, h⟩ =
      (seen.1, seen.2.1, ⟨seen.2.2.sender.1, seen.2.2.host⟩) := by
  induction kinds generalizing s a calls h with
  | nil => rfl
  | cons kind rest ih =>
      rw [flushKindsSeen, flushKinds_cons, Store.drain]
      cases hpending : s.pending kind with
      | nil => exact ih (s.clear kind) a calls h
      | cons record more =>
          simp only [dispatch_observing]
          cases hdispatch : dispatch send dir (.ofRecords kind (record :: more)) ⟨a, h⟩ with
          | mk result o =>
              cases result with
              | error f => rfl
              | ok d =>
                  obtain ⟨b, after⟩ := o
                  have hrest := ih (s.clear kind) b
                    (calls ++ [(s.clear kind, .ofRecords kind (record :: more))]) after
                  simp only [hrest]

/-! ## flushes to their end -/

/-- The first interrupt among a sender's answers to requests. -/
def FirstInterrupt (send : Sender σ) (a : σ) (requests : List Request) (f : Failure) : Prop :=
  ∃ earlier, send.answers a requests = earlier ++ [.error f] ∧ f.cause = .interrupt ∧
    ∀ g, .error g ∈ earlier → g.cause ≠ .interrupt

theorem FirstInterrupt.cons {send : Sender σ} {a : σ} {request : Request} {requests : List Request}
    {f : Failure} (hnone : ∀ g, (send a request).result = .error g → g.cause ≠ .interrupt)
    (h : FirstInterrupt send (send a request).state requests f) :
    FirstInterrupt send a (request :: requests) f := by
  obtain ⟨earlier, hanswers, hcause, hearlier⟩ := h
  refine ⟨(send a request).result :: earlier, ?_, hcause, fun g hg => ?_⟩
  · rw [Sender.answers, hanswers, List.cons_append]
  · obtain heq | hg := List.mem_cons.1 hg
    · exact hnone g heq.symm
    · exact hearlier g hg

theorem FirstInterrupt.mem {send : Sender σ} {a : σ} {front : List Kind} {kind : Kind}
    {s : Store} {f : Failure}
    (h : FirstInterrupt send a ((s.calls (front ++ [kind])).map Prod.snd) f) (back : List Kind) :
    .error f ∈ send.answers a ((s.calls (front ++ kind :: back)).map Prod.snd) ∧
      f.cause = .interrupt := by
  obtain ⟨earlier, hanswers, hcause, -⟩ := h
  refine ⟨?_, hcause⟩
  rw [List.append_cons, Store.calls_append, List.map_append]
  refine (send.answers_prefix a _ _).subset ?_
  rw [hanswers]
  exact List.mem_append_right _ List.mem_cons_self

variable {send : Sender σ} {dir : RawText}

/-- A flush settles all its requests, or it ends with the first interrupt. -/
theorem flushKindsSeen_of_reports {a : σ} {kinds : List Kind} {s : Store}
    (hsend : send.ReportsTo a ((s.calls kinds).map Prod.snd)) (hdir : dir.IsPath)
    (calls : List (Store × Request)) {h : Host} (hutc : h.InUtc) :
    (∃ ds b after,
      flushKindsSeen send.observing dir kinds s ⟨(a, calls), h⟩ =
        (.ok ds, kinds.foldl Store.clear s, ⟨(b, calls ++ s.calls kinds), after⟩) ∧
      Settled send dir ((s.calls kinds).map Prod.snd) ⟨a, h⟩ ds ⟨b, after⟩ ∧
      ∀ f, .error f ∈ send.answers a ((s.calls kinds).map Prod.snd) → f.cause ≠ .interrupt) ∨
    ∃ front kind back f b after, kinds = front ++ kind :: back ∧
      (front.foldl Store.clear s).pending kind ≠ [] ∧
      flushKindsSeen send.observing dir kinds s ⟨(a, calls), h⟩ =
        (.error (.outside f), (front ++ [kind]).foldl Store.clear s,
          ⟨(b, calls ++ s.calls (front ++ [kind])), after⟩) ∧
      FirstInterrupt send a ((s.calls (front ++ [kind])).map Prod.snd) f := by
  induction kinds generalizing s a calls h with
  | nil =>
      exact .inl ⟨[], a, h, by rw [flushKindsSeen, Store.calls, List.append_nil]; rfl, .nil _,
        fun f hf => absurd hf List.not_mem_nil⟩
  | cons kind rest ih =>
      rw [flushKindsSeen, Store.drain]
      cases hpending : s.pending kind with
      | nil =>
          have hcalls : ∀ kinds, s.calls (kind :: kinds) = (s.clear kind).calls kinds :=
            fun kinds => by rw [Store.calls, if_pos hpending]
          rw [hcalls] at hsend
          obtain ⟨ds, b, after, hseen⟩ | ⟨front, other, back, f, b, after, rfl, hseen⟩ :=
            ih hsend calls hutc
          · rw [← hcalls] at hseen
            exact .inl ⟨ds, b, after, hseen⟩
          · rw [← hcalls] at hseen
            exact .inr ⟨kind :: front, other, back, f, b, after, rfl, hseen⟩
      | cons record more =>
          have hfull : s.pending kind ≠ [] := by
            rw [hpending]
            exact List.cons_ne_nil record more
          obtain ⟨request, hrequest⟩ : ∃ q, q = Request.ofRecords kind (record :: more) := ⟨_, rfl⟩
          have hcalls : ∀ kinds, s.calls (kind :: kinds) =
              (s.clear kind, request) :: (s.clear kind).calls kinds :=
            fun kinds => by rw [Store.calls, if_neg hfull, hpending, hrequest]
          rw [hcalls, List.map_cons] at hsend
          simp only [dispatch_observing, ← hrequest]
          obtain ⟨f, after, hresult, hcause, hdispatch⟩ |
            ⟨hnone, outcome, path, between, hreported, hsettle, hdispatch, hbetween⟩ :=
            dispatch_of_reports hsend.head hdir hutc
          · simp only [hdispatch]
            refine .inr ⟨[], kind, rest, f, (send a request).state, after, rfl, hfull, ?_,
              [], ?_, hcause, fun g hg => absurd hg List.not_mem_nil⟩
            · rw [List.nil_append, hcalls]
              rfl
            · rw [List.nil_append, List.nil_append, hcalls, ← hresult]
              rfl
          · simp only [hdispatch]
            obtain ⟨ds, b, after, hseen, hsettled, hmore⟩ |
              ⟨front, other, back, f, b, after, rfl, hother, hseen, hfirst⟩ :=
              ih hsend.next (calls ++ [(s.clear kind, request)]) hbetween
            · rw [List.append_assoc, List.singleton_append, ← hcalls] at hseen
              refine .inl ⟨⟨request.kind, request.destinations.length, outcome, path⟩ :: ds, b, after,
                ?_, ?_, fun f hf => ?_⟩
              · rw [hseen]
                rfl
              · rw [hcalls]
                exact .cons (reported_of_eq_some hreported) hsettle hsettled
              · rw [hcalls] at hf
                obtain heq | hf := List.mem_cons.1 hf
                · exact hnone f heq.symm
                · exact hmore f hf
            · rw [List.append_assoc, List.singleton_append, ← hcalls] at hseen
              refine .inr ⟨kind :: front, other, back, f, b, after, rfl, hother, ?_, ?_⟩
              · rw [hseen]
                rfl
              · rw [List.cons_append, hcalls]
                exact hfirst.cons hnone

/-- A flush whose sender is not interrupted settles the requests of the store. -/
theorem flush_of_reports {a : σ} {s : Store} (hsend : send.ReportsTo a s.requests)
    (hdir : dir.IsPath) {h : Host} (hutc : h.InUtc)
    (hnone : ∀ f, .error f ∈ send.answers a s.requests → f.cause ≠ .interrupt) :
    ∃ ds b after, flush send dir s ⟨a, h⟩ = (.ok ds, s.clearAll, ⟨b, after⟩) ∧
      Settled send dir s.requests ⟨a, h⟩ ds ⟨b, after⟩ := by
  have hrequests : (s.calls Kind.all).map Prod.snd = s.requests := Store.map_snd_calls (by decide) s
  obtain ⟨ds, b, after, hseen, hsettled, -⟩ |
    ⟨front, kind, back, f, b, after, hsplit, -, -, hfirst⟩ :=
    flushKindsSeen_of_reports (hrequests ▸ hsend) hdir [] hutc
  · rw [hrequests] at hsettled
    refine ⟨ds, b, after, ?_, hsettled⟩
    rw [flush, flushKindsSeen_observing send dir Kind.all s a [] h, hseen]
    rfl
  · have hmem := hfirst.mem back
    rw [← hsplit, hrequests] at hmem
    exact absurd hmem.2 (hnone f hmem.1)

/-- Every dispatch has the kind and the size of its request. -/
theorem Settled.map_eq {requests : List Request} {o after : SendState σ} {ds : List Dispatch}
    (h : Settled send dir requests o ds after) :
    ds.map (fun d => (d.kind, d.destinations)) =
      requests.map fun request => (request.kind, request.destinations.length) := by
  induction h with
  | nil o => rfl
  | cons hreported hsettle hrest ih => rw [List.map_cons, List.map_cons, ih]

end Flush

end BatchMailer
