import BatchMailer.Proofs.Flush.Witnessed
import BatchMailer.Proofs.Ses.Isolation
import Mathlib.Data.List.ReduceOption

/-!
# BatchMailer.Proofs.Ses.Classified

What SES troubles are reported as, and with which evidence.

Troubles come in families that overlap: a timeout is a trouble of connecting or of
the HTTP client, and any trouble may come after responses were shown.  A report
goes by the first family that fits: refusals, timeouts, other troubles of the
connection, and the rest.  Of the responses that were shown the last one counts
(`LastKept`), for a refusal and for the rest.

A report has a raw response exactly if it is one of a service error
(`evidenced_reportOf`).  So a flush through SES always has something to put into
a diagnostic file, and never logs that there is nothing (`log_of_settled`).  It goes
through as long as what it has can be dumped, which not every header can
(`not_flushed_surrogate_header`).
-/

namespace BatchMailer

namespace Ses

namespace Trouble

/-- Whether a trouble is an answer of SES. -/
def isRefusal : Trouble → Bool
  | refused .. => true
  | _ => false

/-- Whether a trouble is one of connecting. -/
def isConnectionError : Trouble → Bool
  | connectTimeout _ | endpointConnection _ | proxyConnection _ | ssl .. | connection _ => true
  | _ => false

/-- Whether a trouble is one of the HTTP client. -/
def isHttpClientError : Trouble → Bool
  | readTimeout _ | connectionClosed _ | httpClient _ | responseStreaming _ => true
  | _ => false

/-- Whether time ran out. -/
def isTimeout : Trouble → Bool
  | connectTimeout _ | readTimeout _ => true
  | _ => false

theorem isInterrupt_failure {t : Trouble} (h : t.cause ≠ .interrupt) :
    t.failure.isInterrupt = false :=
  beq_eq_false_iff_ne.2 h

end Trouble

/-- What is kept of a response: its status, its headers, and its body if that is bytes and
not empty. -/
structure Kept (r kept : HttpResponse) : Prop where
  status : kept.statusCode = some (r.statusCode.getD .null)
  headers : kept.headers = some (some (r.headers.join.getD []))
  body : (∃ content, content ≠ [] ∧ r.body = some (some (.bytes content)) ∧
      kept.body = some (some (.bytes content))) ∨
    (∀ content, r.body = some (some (.bytes content)) → content = []) ∧ kept.body = some none

/-- What is kept of all that was shown: the last response, if there was any. -/
inductive LastKept (shown : List (Option HttpResponse)) : Option HttpResponse → Prop where
  | none (hshown : ∀ response ∈ shown, response = .none) : LastKept shown .none
  | some {front back : List (Option HttpResponse)} {r kept : HttpResponse}
      (hshown : shown = front ++ .some r :: back) (hback : ∀ response ∈ back, response = .none)
      (hkept : Kept r kept) : LastKept shown (.some kept)

/-- What a refusal tells of its own: the status and the headers in its metadata. -/
structure Told (metadata : Option Metadata) (r : HttpResponse) : Prop where
  status : r.statusCode = some ((metadata.bind (·.statusCode)).getD .null)
  headers : r.headers = some (some ((metadata.bind (·.headers.join)).getD []))
  body : r.body = some none

/-- A report with a status, an error in words, and the raw response for it, if any. -/
def reporting (status : String) (error : RawText) (http : Option HttpResponse) : Outcome where
  status := some (.text status)
  error := some (.text error)
  destinationStatuses := none
  http := http.map .response
  response := none

/-- A response whose status is a number that reports an error. -/
def ErrorShown (shown : Option HttpResponse) (r : HttpResponse) : Prop :=
  shown = some r ∧ ∃ code : Int, r.statusCode = some (.int code) ∧ 300 ≤ code

/-- A report that has a raw response, with pairs for headers, if it is one of a
service error, and none otherwise. -/
structure Evidenced (o : Outcome) : Prop where
  isSome_iff : o.http.isSome ↔ o.status = some (.text "service_error")
  headers : ∀ evidence ∈ o.http, ∃ r pairs, evidence = .response r ∧ r.headers = some (some pairs)

/-! ## what is remembered -/

/-- The last response that was shown, as far as it is kept. -/
def lastShown (shown : List (Option HttpResponse)) : Option HttpResponse :=
  shown.reduceOption.getLast?.map evidenceOf

theorem lastShown_cons (response : Option HttpResponse) (rest : List (Option HttpResponse)) :
    lastShown (response :: rest) = (lastShown rest).or (response.map evidenceOf) := by
  cases response with
  | none => exact Option.or_none.symm
  | some r =>
      rw [lastShown, lastShown, List.reduceOption_cons_of_some, List.getLast?_cons]
      cases rest.reduceOption.getLast? <;> rfl

theorem rememberAll_eq (last : Option HttpResponse) (shown : List (Option HttpResponse)) :
    rememberAll last shown = (lastShown shown).or last := by
  induction shown generalizing last with
  | nil => rfl
  | cons response rest ih =>
      have hrest : rememberAll last (response :: rest) = rememberAll (remember last response) rest :=
        rfl
      rw [hrest, ih, lastShown_cons, Option.or_assoc]
      cases response <;> rfl

theorem rememberAll_none (shown : List (Option HttpResponse)) :
    rememberAll none shown = lastShown shown := by
  rw [rememberAll_eq, Option.or_none]

theorem exists_pairs_lastShown {shown : List (Option HttpResponse)} {r : HttpResponse}
    (h : lastShown shown = some r) : ∃ pairs, r.headers = some (some pairs) := by
  obtain ⟨response, -, rfl⟩ := Option.map_eq_some_iff.1 h
  exact ⟨_, rfl⟩

theorem kept_evidenceOf (r : HttpResponse) : Kept r (evidenceOf r) := by
  have hheaders : r.headerList = r.headers.join.getD [] := by
    rw [HttpResponse.headerList]
    rcases r.headers with _ | _ | pairs <;> rfl
  refine ⟨rfl, congrArg (some <| some ·) hheaders, ?_⟩
  rw [evidenceOf]
  rcases r.body with _ | _ | ⟨content | content⟩
  · exact .inr ⟨nofun, rfl⟩
  · exact .inr ⟨nofun, rfl⟩
  · cases content with
    | nil => exact .inr ⟨fun other heq => by simpa [eq_comm] using heq, rfl⟩
    | cons byte rest => exact .inl ⟨byte :: rest, List.cons_ne_nil _ _, rfl, rfl⟩
  · exact .inr ⟨nofun, rfl⟩

theorem lastKept_lastShown (shown : List (Option HttpResponse)) :
    LastKept shown (lastShown shown) := by
  induction shown with
  | nil => exact .none fun response hmem => absurd hmem List.not_mem_nil
  | cons response rest ih =>
      rw [lastShown_cons]
      generalize lastShown rest = last at ih
      cases ih with
      | @some front back r kept hshown hback hkept =>
          have hsplit : response :: rest = (response :: front) ++ some r :: back := by
            rw [hshown, List.cons_append]
          exact .some hsplit hback hkept
      | none hvoid =>
          cases response with
          | none => exact .none (List.forall_mem_cons.2 ⟨rfl, hvoid⟩)
          | some r => exact .some (List.nil_append _).symm hvoid (kept_evidenceOf r)

theorem Kept.eq {r kept : HttpResponse} (h : Kept r kept) : kept = evidenceOf r := by
  have hother := kept_evidenceOf r
  have hbody : kept.body = (evidenceOf r).body := by
    obtain ⟨content, hne, hr, hkept⟩ | ⟨hempty, hkept⟩ := h.body <;>
      obtain ⟨content', hne', hr', hkept'⟩ | ⟨hempty', hkept'⟩ := hother.body
    · rw [hkept, hkept', ← hr, hr']
    · exact absurd (hempty' content hr) hne
    · exact absurd (hempty content' hr') hne'
    · rw [hkept, hkept']
  exact HttpResponse.ext (h.status.trans hother.status.symm)
    (h.headers.trans hother.headers.symm) hbody

/-- There is only one way to keep the last response. -/
theorem LastKept.eq {shown : List (Option HttpResponse)} {last : Option HttpResponse}
    (h : LastKept shown last) : last = lastShown shown := by
  have hvoid : ∀ {responses : List (Option HttpResponse)}, (∀ response ∈ responses, response = .none) →
      responses.reduceOption = [] := by
    intro responses hresponses
    exact List.filterMap_eq_nil_iff.2 hresponses
  cases h with
  | none hshown => rw [lastShown, hvoid hshown]; rfl
  | some hshown hback hkept =>
      rw [lastShown, hshown, List.reduceOption_append, List.reduceOption_cons_of_some, hvoid hback,
        List.getLast?_concat, hkept.eq]
      rfl

theorem told_evidence (metadata : Option Metadata) : Told metadata (metadata.getD .absent).evidence := by
  cases metadata with
  | none => exact ⟨rfl, rfl, rfl⟩
  | some m =>
      refine ⟨rfl, ?_, rfl⟩
      rw [Option.getD_some, Metadata.evidence, Option.bind_some]
      rcases m.headers with _ | _ | pairs <;> rfl

/-! ## reports of troubles -/

section

variable {t : Trouble} (evidence : Option HttpResponse)

theorem failedReport_of_refused (error : Option ErrorDetail) (metadata : Option Metadata) :
    failedReport evidence (.refused error metadata) = .ok (reporting "service_error"
      (error.getD .absent).text (some (evidence.getD (metadata.getD .absent).evidence))) := rfl

theorem failedReport_of_isTimeout (h : t.isTimeout = true) :
    failedReport evidence t = .ok (reporting "timeout" t.text none) := by
  cases t <;> first | rfl | contradiction

theorem failedReport_of_connection (htimeout : t.isTimeout = false)
    (h : t.isConnectionError = true ∨ t.isHttpClientError = true) :
    failedReport evidence t = .ok (reporting "transport_failure" t.text none) := by
  cases t <;>
    first | rfl | contradiction | simp [Trouble.isConnectionError, Trouble.isHttpClientError] at h

/-- Any other trouble goes by the response that was remembered. -/
theorem failedReport_of_other (hrefusal : t.isRefusal = false) (hconnection : t.isConnectionError = false)
    (hclient : t.isHttpClientError = false) (hinterrupt : t.cause ≠ .interrupt) :
    failedReport evidence t = match evidence.filter hasErrorStatus with
      | some r => .ok (reporting "service_error" (t.name ++ ": " ++ t.text) (some r))
      | none => .ok (reporting "unknown" (t.name ++ ": " ++ t.text) none) := by
  unfold failedReport
  rw [Trouble.isInterrupt_failure hinterrupt]
  cases t <;> first | rfl | contradiction

end

theorem hasErrorStatus_iff {r : HttpResponse} :
    hasErrorStatus r = true ↔ ∃ code : Int, r.statusCode = some (.int code) ∧ 300 ≤ code := by
  rw [hasErrorStatus]
  split
  · next code hcode => simp [hcode]
  · next hother =>
      simp only [Bool.false_eq_true, false_iff, not_exists, not_and]
      exact fun code hcode => absurd hcode (hother code)

/-- Every trouble is of one of four families. -/
theorem Trouble.family (t : Trouble) :
    (∃ error metadata, t = .refused error metadata) ∨ t.isTimeout = true ∨
      (t.isTimeout = false ∧ (t.isConnectionError = true ∨ t.isHttpClientError = true)) ∨
      (t.isRefusal = false ∧ t.isConnectionError = false ∧ t.isHttpClientError = false) := by
  cases t <;> simp [isRefusal, isTimeout, isConnectionError, isHttpClientError]

/-! ## evidence in reports -/

theorem Evidenced.exists_response {o : Outcome} (h : Evidenced o)
    (hstanding : o.standing = .serviceError) : ∃ r, o.http = some (.response r) := by
  have hstatus := (Outcome.standing_eq_iff (by decide)).1 hstanding
  obtain ⟨evidence, hevidence⟩ := Option.isSome_iff_exists.1 (h.isSome_iff.2 hstatus)
  obtain ⟨r, -, rfl, -⟩ := h.headers evidence hevidence
  exact ⟨r, hevidence⟩

theorem evidenced_of_no_response {o : Outcome} (hstatus : o.status ≠ some (.text "service_error"))
    (hhttp : o.http = none) : Evidenced o := by
  refine ⟨?_, fun evidence hevidence => ?_⟩
  · simp [hhttp, hstatus]
  · rw [hhttp] at hevidence
    contradiction

/-- A report of another status has no raw response. -/
theorem evidenced_reporting {status : String} (h : status ≠ "service_error") (error : RawText) :
    Evidenced (reporting status error none) := by
  refine evidenced_of_no_response (fun hstatus => h ?_) rfl
  exact RawText.ofString_injective (Value.text.inj (Option.some.inj hstatus))

theorem evidenced_serviceError {r : HttpResponse} (h : ∃ pairs, r.headers = some (some pairs))
    (error : RawText) : Evidenced (reporting "service_error" error (some r)) := by
  obtain ⟨pairs, hpairs⟩ := h
  refine ⟨by simp [reporting], fun evidence hevidence => ?_⟩
  exact ⟨r, pairs, (Option.some.inj hevidence).symm, hpairs⟩

/-- A trouble that is no interrupt is reported. -/
theorem exists_failedReport {evidence : Option HttpResponse}
    (hevidence : ∀ r, evidence = some r → ∃ pairs, r.headers = some (some pairs)) {t : Trouble}
    (hinterrupt : t.cause ≠ .interrupt) :
    ∃ o, failedReport evidence t = .ok o ∧ Evidenced o ∧ o.Listed := by
  obtain ⟨error, metadata, rfl⟩ | htimeout | ⟨htimeout, hconnection⟩ |
    ⟨hrefusal, hconnection, hclient⟩ := t.family
  · refine ⟨_, failedReport_of_refused evidence error metadata, evidenced_serviceError ?_ _, trivial⟩
    cases evidence with
    | none => exact ⟨_, rfl⟩
    | some r => exact hevidence r rfl
  · exact ⟨_, failedReport_of_isTimeout evidence htimeout, evidenced_reporting (by decide) _, trivial⟩
  · exact ⟨_, failedReport_of_connection evidence htimeout hconnection,
      evidenced_reporting (by decide) _, trivial⟩
  · rw [failedReport_of_other evidence hrefusal hconnection hclient hinterrupt]
    split
    · next r hr =>
        have hshown := hevidence r (Option.eq_some_of_filter_eq_some hr)
        exact ⟨_, rfl, evidenced_serviceError hshown _, trivial⟩
    · exact ⟨_, rfl, evidenced_reporting (by decide) _, trivial⟩

theorem evidenced_reportOf {shown : List (Option HttpResponse)} {result : Except Trouble Value}
    {o : Outcome} (h : reportOf (lastShown shown) result = .ok o) : Evidenced o ∧ o.Listed := by
  cases result with
  | ok reply =>
      cases hstatuses : statusesOf reply with
      | error f => simp [reportOf, hstatuses, Except.map] at h
      | ok statuses =>
          obtain rfl : _ = o := by simpa [reportOf, hstatuses, Except.map] using h
          refine ⟨evidenced_of_no_response (fun hstatus => ?_) rfl, trivial⟩
          exact absurd (RawText.ofString_injective (Value.text.inj (Option.some.inj hstatus)))
            (by decide)
  | error t =>
      rw [reportOf] at h
      by_cases hinterrupt : t.cause = .interrupt
      · have hpassed : failedReport (lastShown shown) t = .error t.failure :=
          if_pos (beq_iff_eq.2 hinterrupt)
        rw [hpassed] at h
        cases h
      · obtain ⟨o', ho', hreport⟩ :=
          exists_failedReport (fun r hr => exists_pairs_lastShown hr) hinterrupt
        cases h.symm.trans ho'
        exact hreport

/-! ## calls -/

theorem statusOf_error {v : Value} {f : Failure} (h : statusOf v = .error f) : f.cause = .other := by
  cases v with
  | table entries => cases h
  | _ => exact Except.error.inj h ▸ rfl

theorem mapM_statusOf_error {items : List Value} {f : Failure}
    (h : items.mapM statusOf = .error f) : f.cause = .other := by
  induction items with
  | nil => cases h
  | cons item rest ih =>
      rw [List.mapM_cons] at h
      cases hitem : statusOf item with
      | error g =>
          rw [hitem] at h
          exact Except.error.inj h ▸ statusOf_error hitem
      | ok status =>
          rw [hitem] at h
          cases hrest : rest.mapM statusOf with
          | error g =>
              rw [hrest] at h
              exact ih (hrest.trans h)
          | ok statuses =>
              rw [hrest] at h
              cases h

/-- A reply that cannot be read is no interrupt. -/
theorem statusesOf_error {reply : Value} {f : Failure} (h : statusesOf reply = .error f) :
    f.cause = .other := by
  unfold statusesOf at h
  split at h
  · next entries =>
      simp only at h
      split at h
      · exact mapM_statusOf_error h
      · exact Except.error.inj h ▸ rfl
  · exact Except.error.inj h ▸ rfl

section

variable {τ : Type} (service : Service τ) (identity : Identity)

/-- The answer to a request is a report of its own exchange. -/
theorem result_send_eq (s : State τ) (request : Request) :
    let e := (service s.service (.ofRequest identity request)).1
    (send service identity s request).result = reportOf (lastShown e.shown) e.result := by
  intro e
  rw [← rememberAll_none]
  rfl

theorem evidenced_send {s : State τ} {request : Request} {o : Outcome}
    (h : (send service identity s request).result = .ok o) : Evidenced o ∧ o.Listed := by
  rw [result_send_eq] at h
  exact evidenced_reportOf h

/-- Reports on requests can be settled if the responses in them can be dumped. -/
theorem reportsTo_send {s : State τ} {requests : List Request}
    (hdumps : ∀ o r, .ok o ∈ (send service identity).answers s requests →
      o.http = some (.response r) → r.Dumps) :
    (send service identity).ReportsTo s requests := by
  intro o ho
  obtain ⟨s', request, hresult⟩ := Sender.exists_of_mem_answers ho
  exact ⟨(evidenced_send service identity hresult).2, fun _ r hr => hdumps o r ho hr⟩

/-- The answers to requests are reports of the exchanges they lead to. -/
theorem exists_exchange_of_mem_answers {s : State τ} {requests : List Request}
    {answer : Except Failure Outcome} (h : answer ∈ (send service identity).answers s requests) :
    ∃ e ∈ exchanges service s.service (requests.map (.ofRequest identity)),
      answer = reportOf (lastShown e.shown) e.result := by
  induction requests generalizing s with
  | nil => exact absurd h List.not_mem_nil
  | cons request rest ih =>
      obtain rfl | hlater := List.mem_cons.1 h
      · exact ⟨_, List.mem_cons_self, result_send_eq service identity s request⟩
      · obtain ⟨e, he, hreport⟩ := ih hlater
        exact ⟨e, List.mem_cons_of_mem _ he, hreport⟩

end

/-- The report of an exchange that was not interrupted is no interrupt. -/
theorem cause_of_reportOf {e : Exchange}
    (hcalm : ∀ trouble, e.result = .error trouble → trouble.cause ≠ .interrupt) {f : Failure}
    (h : reportOf (lastShown e.shown) e.result = .error f) : f.cause ≠ .interrupt := by
  cases hresult : e.result with
  | ok reply =>
      rw [hresult, reportOf] at h
      cases hstatuses : statusesOf reply with
      | ok statuses =>
          rw [hstatuses] at h
          cases h
      | error g =>
          rw [hstatuses] at h
          rw [← Except.error.inj h, statusesOf_error hstatuses]
          decide
  | error trouble =>
      obtain ⟨o, ho, -⟩ := exists_failedReport (fun r hr => exists_pairs_lastShown hr)
        (hcalm trouble hresult)
      rw [hresult, reportOf] at h
      cases h.symm.trans ho

end Ses

/-! ## what is logged -/

namespace Capture

/-- What is logged of a service error without a raw response. -/
def noResponseMessage : RawText := "ERROR: service error carried no raw HTTP response"

/-- The log entry of a service error without a raw response. -/
def noResponse : Log.Entry := ⟨.error, some noResponseMessage⟩

/-- A host that has logged more, and nothing of this kind. -/
def Quiet (h after : Host) : Prop := ∃ added, after.log = h.log ++ added ∧ noResponse ∉ added

theorem Quiet.refl (h : Host) : Quiet h h := ⟨[], (List.append_nil _).symm, List.not_mem_nil⟩

theorem Quiet.trans {h between after : Host} (hfirst : Quiet h between)
    (hsecond : Quiet between after) : Quiet h after := by
  obtain ⟨first, hlog, hnone⟩ := hfirst
  obtain ⟨second, hlog', hnone'⟩ := hsecond
  refine ⟨first ++ second, by rw [hlog', hlog, List.append_assoc], fun hmem => ?_⟩
  obtain hmem | hmem := List.mem_append.1 hmem
  · exact hnone hmem
  · exact hnone' hmem

theorem quiet_of_log {h after : Host} (hlog : after.log = h.log) : Quiet h after :=
  ⟨[], by rw [hlog, List.append_nil], List.not_mem_nil⟩

theorem quiet_note {h : Host} {severity : Log.Severity} {message : Option RawText}
    (hne : ⟨severity, message⟩ ≠ noResponse) : Quiet h (h.note severity message) :=
  ⟨[⟨severity, message⟩], rfl, fun hmem => hne (List.mem_singleton.1 hmem).symm⟩

theorem quiet_note_info (h : Host) (message : Option RawText) : Quiet h (h.note .info message) :=
  quiet_note fun heq => nomatch congrArg Log.Entry.severity heq

/-- A message that begins otherwise is another. -/
theorem quiet_error {h : Host} {message : RawText} (front : String)
    (hfront : ¬ RawText.ofString front <+: noResponseMessage)
    (hmessage : RawText.ofString front <+: message) : Quiet h (h.error message) := by
  refine quiet_note fun heq => hfront ?_
  rwa [Option.some.inj (Log.Entry.mk.inj heq).2] at hmessage

/-- So is the line of an error behind other words, whatever the error is. -/
theorem quiet_errorLine {words : String}
    (hwords : ¬ RawText.ofString ("ERROR: " ++ words) <+: noResponseMessage) (o : Outcome)
    (h : Host) : Quiet h (h.note .error (errorLine words o)) := by
  refine quiet_note fun heq => hwords ?_
  obtain ⟨error, -, hmessage⟩ := Option.map_eq_some_iff.1 (Log.Entry.mk.inj heq).2
  rw [← hmessage, RawText.ofString_append, List.append_assoc _ _ error]
  exact List.prefix_append _ _

theorem quiet_noteStatuses (kind : Kind) (first : Nat) (statuses : List Value) (h : Host) :
    Quiet h (noteStatuses kind first statuses h) := by
  induction statuses generalizing first h with
  | nil => exact .refl h
  | cons status rest ih => exact (quiet_note_info h _).trans (ih (first + 1) _)

theorem quiet_elapsed (startedAt : Option Binary64) (h : Host) :
    Quiet h (Diagnostic.elapsed startedAt h).2 := by
  cases startedAt <;> exact quiet_of_log rfl

theorem quiet_failureMessage (path : RawText) (cause : String) (h : Host) :
    Quiet h (h.error (Diagnostic.failureMessage path cause)) := by
  refine quiet_error "ERROR: failed to write to file " (by decide) ?_
  rw [Diagnostic.failureMessage, List.append_assoc, List.append_assoc]
  exact List.prefix_append _ _

theorem quiet_writeFile (path : RawText) (content : List UInt8) (startedAt : Option Binary64)
    (h : Host) : Quiet h (Diagnostic.writeFile path content startedAt h).2 := by
  rw [Diagnostic.writeFile]
  split
  · exact quiet_failureMessage path _ h
  · exact .refl h
  · next place _ =>
      have hstored : Quiet h (h.store place content).2 := by
        rw [Host.store]
        split <;> exact quiet_of_log rfl
      split
      · next after hstore =>
          rw [hstore] at hstored
          exact hstored.trans (quiet_failureMessage path _ after)
      · next after hstore =>
          rw [hstore] at hstored
          exact (hstored.trans (quiet_elapsed startedAt _)).trans (quiet_note_info _ _)

theorem quiet_writeAt (moment : Moment) (r : HttpResponse) (dir : RawText) (kindIndex : Int)
    (startedAt : Option Binary64) (h : Host) :
    Quiet h (Diagnostic.writeAt moment r dir kindIndex startedAt h).2 := by
  rw [Diagnostic.writeAt]
  split
  · exact .refl h
  · split
    · exact .refl h
    · exact quiet_writeFile _ _ startedAt h

/-- A report that has a raw response, if it is one of a service error, is settled
without this entry. -/
theorem quiet_settle {o : Outcome}
    (ho : o.standing = .serviceError → ∃ r, o.http = some (.response r)) (kind : Kind)
    (dir : RawText) (startedAt : Option Binary64) (h : Host) :
    Quiet h (settle kind o dir startedAt h).2 := by
  rw [settle]
  cases hstanding : o.standing with
  | success =>
      simp only
      split
      · exact .refl h
      · exact quiet_noteStatuses kind 0 _ h
  | serviceError =>
      obtain ⟨r, hr⟩ := ho hstanding
      simp only [hr]
      have hwords : ¬ RawText.ofString ("ERROR: " ++ serviceErrorWords kind) <+:
          noResponseMessage := by
        cases kind <;> decide
      exact (quiet_errorLine hwords o h).trans (quiet_writeAt _ r dir kind.index startedAt _)
  | timeout => exact quiet_errorLine (by decide) o h
  | transportFailure => exact quiet_errorLine (by decide) o h
  | unexpected => exact quiet_errorLine (by decide) o h

end Capture

namespace Ses

variable {τ : Type}

/-- What is settled of requests through SES has a raw response for each service error,
and the log does not miss one. -/
theorem log_of_settled {service : Service τ} {identity : Identity} {dir : RawText}
    {requests : List Request} {o after : SendState (State τ)} {ds : List Dispatch}
    (h : Flush.Settled (send service identity) dir requests o ds after) :
    (∀ d ∈ ds, d.outcome.standing = .serviceError → ∃ r, d.outcome.http = some (.response r)) ∧
      Capture.Quiet o.host after.host := by
  induction h with
  | nil o => exact ⟨fun d hd => absurd hd List.not_mem_nil, .refl _⟩
  | @cons request rest o after outcome path host ds hreported hsettle hrest ih =>
      have houtcome : outcome.standing = .serviceError → ∃ r, outcome.http = some (.response r) := by
        generalize hanswer : (send service identity o.sender request).result = answer at hreported
        cases hreported with
        | answered report => exact (evidenced_send service identity hanswer).1.exists_response
        | gaveUp hcause =>
            have hunknown : Standing.ofWord "unknown" ≠ .serviceError := by decide
            exact fun hstanding => absurd hstanding hunknown
      refine ⟨fun d hd => ?_, ?_⟩
      · obtain rfl | hd := List.mem_cons.1 hd
        · exact houtcome
        · exact ih.1 d hd
      · have hquiet := Capture.quiet_settle houtcome request.kind dir (some o.host.steady.now)
          (o.host.readSteady.2.print (send service identity o.sender request).printed)
        rw [hsettle] at hquiet
        exact (Capture.Quiet.trans (Capture.quiet_of_log rfl) hquiet).trans ih.2

end Ses

end BatchMailer
