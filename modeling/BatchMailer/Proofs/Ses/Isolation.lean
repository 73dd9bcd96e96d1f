import BatchMailer.Ses.Sender

/-!
# BatchMailer.Proofs.Ses.Isolation

Calls through one sender do not influence each other.

A sender is used again and again, and between its calls responses are shown to it
that belong to none of them (`serve`).  The service may answer each call by all
that went before; the report of a call is nevertheless the one that a new sender
makes of this request and this exchange (`alone`).  A raw response in a report
was shown during the very call, or comes from the error itself
(`exists_of_http_reportOf`).
-/

namespace BatchMailer

namespace Ses

variable {τ : Type}

/-- One use of a sender: the responses that are shown to it before the call, and
the request it is then given. -/
structure Use where
  before : List (Option HttpResponse)
  request : Request

/-- Responses are shown to a sender in turn. -/
def State.showAll (s : State τ) (responses : List (Option HttpResponse)) : State τ :=
  responses.foldl State.show s

/-- What a sender makes of its uses, one after the other, and the state it is left
in.  A call that fails or is interrupted is followed by the next. -/
def serve (service : Service τ) (identity : Identity) :
    State τ → List Use → List (Except Failure Outcome) × State τ
  | s, [] => ([], s)
  | s, use :: rest =>
    let answer := send service identity (s.showAll use.before) use.request
    let (results, last) := serve service identity answer.state rest
    (answer.result :: results, last)

/-- The exchanges that a service makes of calls in turn. -/
def exchanges (service : Service τ) : τ → List Parameters → List Exchange
  | _, [] => []
  | t, parameters :: rest =>
    let (exchange, next) := service t parameters
    exchange :: exchanges service next rest

/-- A service whose every call is the same exchange. -/
def Exchange.always (e : Exchange) : Service Unit := fun _ _ => (e, ())

/-- What a new sender makes of a request whose call is a given exchange. -/
def alone (identity : Identity) (request : Request) (e : Exchange) : Except Failure Outcome :=
  (send e.always identity (.start ()) request).result

/-! ## responses between the calls -/

section

variable (s : State τ) (responses : List (Option HttpResponse))

theorem service_showAll : (s.showAll responses).service = s.service := by
  induction responses generalizing s with
  | nil => rfl
  | cons response rest ih => exact ih (s.show response)

theorem calls_showAll : (s.showAll responses).calls = s.calls := by
  induction responses generalizing s with
  | nil => rfl
  | cons response rest ih => exact ih (s.show response)

end

/-! ## calls -/

section

variable (service : Service τ) (identity : Identity)

@[simp] theorem length_exchanges (t : τ) (calls : List Parameters) :
    (exchanges service t calls).length = calls.length := by
  induction calls generalizing t with
  | nil => rfl
  | cons parameters rest ih => simp [exchanges, ih]

/-- A call takes nothing from the state it finds but the service. -/
theorem result_send (s : State τ) (request : Request) :
    (send service identity s request).result =
      alone identity request (service s.service (.ofRequest identity request)).1 :=
  rfl

/-- Each result is that of a new sender, whatever state the first use finds. -/
theorem serve_eq (s : State τ) (uses : List Use) :
    let calls := uses.map fun use => Parameters.ofRequest identity use.request
    (serve service identity s uses).1 = List.zipWith (alone identity) (uses.map Use.request)
      (exchanges service s.service calls) ∧
    (serve service identity s uses).2.calls = s.calls ++ calls := by
  induction uses generalizing s with
  | nil => simp [serve]
  | cons use rest ih =>
      have hservice := service_showAll s use.before
      have hcalls := calls_showAll s use.before
      obtain ⟨hresults, hlast⟩ :=
        ih (send service identity (s.showAll use.before) use.request).state
      constructor
      · simp only [serve, hresults, result_send, hservice, List.map_cons, exchanges,
          List.zipWith_cons_cons]
        simp only [send, hservice]
      · simp only [serve, hlast, List.map_cons]
        simp only [send, hcalls, List.append_assoc, List.singleton_append]

end

/-! ## evidence -/

/-- What is remembered was there before, or was shown. -/
theorem mem_of_rememberAll {last : Option HttpResponse} {shown : List (Option HttpResponse)}
    {r : HttpResponse} (h : rememberAll last shown = some r) :
    last = some r ∨ ∃ response, some response ∈ shown ∧ r = evidenceOf response := by
  induction shown generalizing last with
  | nil => exact .inl h
  | cons response rest ih =>
      have hrest : rememberAll (remember last response) rest = some r := h
      obtain hlast | ⟨later, hlater, hr⟩ := ih hrest
      · cases response with
        | none => exact .inl hlast
        | some response =>
            exact .inr ⟨response, List.mem_cons_self, (Option.some.inj hlast).symm⟩
      · exact .inr ⟨later, List.mem_cons_of_mem _ hlater, hr⟩

/-- What becomes of a call that failed: the trouble is passed on, or it is a
service error, of a refusal or by what was remembered, or it is reported without
a raw response. -/
theorem failedReport_cases (evidence : Option HttpResponse) (t : Trouble) :
    failedReport evidence t = .error t.failure ∨
      (∃ error metadata text, t = .refused error metadata ∧ failedReport evidence t =
        .ok (serviceError (evidence.getD (metadata.getD .absent).evidence) text)) ∨
      (∃ r text, evidence = some r ∧ failedReport evidence t = .ok (serviceError r text)) ∨
      ∃ standing text, failedReport evidence t = .ok (.failed standing text) := by
  unfold failedReport
  split
  · exact .inl rfl
  · split
    · exact .inr (.inl ⟨_, _, _, rfl, rfl⟩)
    · split
      · exact .inr (.inr (.inr ⟨_, _, rfl⟩))
      · exact .inr (.inr (.inr ⟨_, _, rfl⟩))
      · split
        · next r hr =>
            exact .inr (.inr (.inl ⟨r, _, Option.eq_some_of_filter_eq_some hr, rfl⟩))
        · exact .inr (.inr (.inr ⟨_, _, rfl⟩))

/-- A raw response in a report was remembered, or is what a refusal tells of. -/
theorem exists_of_http_reportOf {evidence : Option HttpResponse} {result : Except Trouble Value}
    {o : Outcome} {r : HttpResponse} (h : reportOf evidence result = .ok o)
    (hr : o.http = some (.response r)) :
    evidence = some r ∨ ∃ error metadata, result = .error (.refused error metadata) ∧
      r = (metadata.getD .absent).evidence := by
  cases result with
  | ok reply =>
      -- a report of statuses shows no response
      cases hstatuses : statusesOf reply with
      | error f => simp [reportOf, hstatuses, Except.map] at h
      | ok statuses =>
          obtain rfl : _ = o := by simpa [reportOf, hstatuses, Except.map] using h
          simp [Outcome.delivered, Outcome.ofStanding] at hr
  | error t =>
      rw [reportOf] at h
      obtain hfail | ⟨error, metadata, text, rfl, hfail⟩ | ⟨shown, text, hshown, hfail⟩ |
        ⟨standing, text, hfail⟩ := failedReport_cases evidence t
      · rw [hfail] at h
        cases h
      · obtain rfl : serviceError (evidence.getD (metadata.getD .absent).evidence) text = o :=
          Except.ok.inj (hfail.symm.trans h)
        obtain rfl : evidence.getD (metadata.getD .absent).evidence = r := by
          simpa [serviceError] using hr
        cases evidence with
        | none => exact .inr ⟨error, metadata, rfl, rfl⟩
        | some r => exact .inl rfl
      · obtain rfl : serviceError shown text = o := Except.ok.inj (hfail.symm.trans h)
        obtain rfl : shown = r := by simpa [serviceError] using hr
        exact .inl hshown
      · obtain rfl : Outcome.failed standing text = o := Except.ok.inj (hfail.symm.trans h)
        simp [Outcome.failed, Outcome.ofStanding] at hr

/-! ## isolation -/

/-- Whatever a sender was used for before, whatever became of it and whatever was
shown in between, the report of a call is that of a new sender.  The calls
themselves come from the requests alone, and a raw response in a report was
shown in its own call or is told of by the refusal that ended it. -/
theorem results_serve (service : Service τ) (identity : Identity) (start : τ) (uses : List Use) :
    let calls := uses.map fun use => Parameters.ofRequest identity use.request
    let (results, last) := serve service identity (.start start) uses
    results.length = uses.length ∧ last.calls = calls ∧
    ∀ (i : Nat) (use : Use), uses[i]? = some use →
      ∃ e, (exchanges service start calls)[i]? = some e ∧
        results[i]? = some (alone identity use.request e) ∧
        ∀ o r, alone identity use.request e = .ok o → o.http = some (.response r) →
          (∃ response, some response ∈ e.shown ∧ r = evidenceOf response) ∨
          ∃ error metadata, e.result = .error (.refused error metadata) ∧
            r = (metadata.getD .absent).evidence := by
  intro calls
  obtain ⟨hresults, hlast⟩ := serve_eq service identity (.start start) uses
  have hlength : (exchanges service start calls).length = uses.length := by simp [calls]
  refine ⟨?_, ?_, ?_⟩
  · rw [hresults]
    simp
  · exact hlast
  · intro i use huse
    obtain ⟨hi, rfl⟩ := List.getElem?_eq_some_iff.mp huse
    have hexchange : (exchanges service start calls)[i]? =
        some (exchanges service start calls)[i] := List.getElem?_eq_getElem _
    refine ⟨_, hexchange, ?_, ?_⟩
    · rw [hresults, List.getElem?_eq_getElem (by simpa using hi), List.getElem_zipWith,
        List.getElem_map]
      rfl
    · intro o r ho hr
      obtain hremembered | hrefused := exists_of_http_reportOf ho hr
      · obtain hnone | hshown := mem_of_rememberAll hremembered
        · cases hnone
        · exact .inl hshown
      · exact .inr hrefused

end Ses

end BatchMailer
