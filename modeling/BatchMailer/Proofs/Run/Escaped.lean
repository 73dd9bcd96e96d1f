import BatchMailer.Proofs.Diagnostic.Dumpable
import BatchMailer.Proofs.Run.Ending

/-!
# BatchMailer.Proofs.Run.Escaped

Reports that nothing gets over.

There are two kinds of report that are not settled (`Outcome.Unsettled`): that of a success
which has, where its statuses should be listed, a value that is something but has no items
(`Outcome.Unlistable`), and that of a service error whose response has no dump
(`HttpResponse.Undumpable`).  All others are settled, whatever is in them
(`Outcome.fault?_eq_none_iff`).  A report that is not ends the flush it is made in, so that
the batches behind it are not sent, and then the run, which does not handle the fault
(`Run.escapes_finish_iff`).  Of what a sender answers, an interrupt is all else that
ends a flush.
-/

namespace BatchMailer

/-- A report of a success with a value for its statuses that is something but has no
items: true, or a number other than zero. -/
def Outcome.Unlistable (o : Outcome) : Prop :=
  o.status = some (.text "success") ∧
    (o.destinationStatuses = some (.bool true) ∨
      ∃ n : Int, n ≠ 0 ∧ o.destinationStatuses = some (.int n))

/-- A report that is not settled: its statuses cannot be listed, or it is one of a service
error whose response has no dump. -/
inductive Outcome.Unsettled (o : Outcome) : Prop where
  | unlistable (h : o.Unlistable)
  | undumpable {r : HttpResponse} (hstatus : o.status = some (.text "service_error"))
      (hresponse : o.http = some (.response r)) (h : r.Undumpable)

/-! ## one report -/

theorem Capture.destinationStatuses_eq_error_iff {o : Outcome} :
    (∃ f, destinationStatuses o = .error f) ↔
      o.destinationStatuses = some (.bool true) ∨
        ∃ n : Int, n ≠ 0 ∧ o.destinationStatuses = some (.int n) := by
  rw [destinationStatuses]
  cases o.destinationStatuses with
  | none => simp [Value.isBlank]
  | some statuses =>
      cases statuses with
      | bool b => cases b <;> simp [Value.isBlank, Value.items?]
      | int n => by_cases hn : n = 0 <;> simp [Value.isBlank, Value.items?, hn]
      | null => simp [Value.isBlank]
      | text s => by_cases hs : s.isEmpty <;> simp [Value.isBlank, Value.items?, hs]
      | list items => by_cases hitems : items.isEmpty <;> simp [Value.isBlank, Value.items?, hitems]
      | table entries =>
          by_cases hentries : entries.isEmpty <;> simp [Value.isBlank, Value.items?, hentries]

/-- The fault of a response without a dump is about what cannot be written. -/
theorem HttpResponse.fault_of_renderBytes {r : HttpResponse} {f : Fault}
    (h : r.renderBytes = .error f) : f = .longInteger ∨ ∃ e, f = .unencodable e := by
  rw [renderBytes, render] at h
  by_cases hwritable : r.isWritable = true
  · simp only [hwritable, if_true] at h
    cases hencode : Text.encode Text.contentCoding r.text with
    | ok content =>
        rw [hencode] at h
        contradiction
    | error e =>
        rw [hencode] at h
        exact .inr ⟨e, (Except.error.inj h).symm⟩
  · simp only [hwritable, if_false, Bool.false_eq_true] at h
    exact .inl (Except.error.inj h).symm

theorem HttpResponse.exists_error_renderBytes_iff {r : HttpResponse} :
    (∃ f, r.renderBytes = .error f) ↔ r.Undumpable := by
  rw [← not_dumps_iff]
  constructor
  · rintro ⟨f, hf⟩ hdumps
    rw [renderBytes_eq_ok_iff.2 ⟨hdumps, rfl⟩] at hf
    contradiction
  · exact exists_error_of_not_dumps

namespace Outcome

variable {o : Outcome} {f : Fault}

theorem fault?_eq_none_iff : o.fault? = none ↔ ¬ o.Unsettled := by
  rw [← not_iff_not, not_not, ← ne_eq, Option.ne_none_iff_exists']
  simp only [fault?_eq_some_iff, standing_eq_iff (s := .success) (by decide),
    standing_eq_iff (s := .serviceError) (by decide)]
  constructor
  · rintro ⟨f, ⟨hstatus, hstatuses⟩ | ⟨hstatus, r, hresponse, hbytes⟩⟩
    · exact .unlistable ⟨hstatus, Capture.destinationStatuses_eq_error_iff.1 ⟨f, hstatuses⟩⟩
    · exact .undumpable hstatus hresponse (HttpResponse.exists_error_renderBytes_iff.1 ⟨f, hbytes⟩)
  · intro h
    cases h with
    | unlistable h =>
        obtain ⟨f, hstatuses⟩ := Capture.destinationStatuses_eq_error_iff.2 h.2
        exact ⟨f, .inl ⟨h.1, hstatuses⟩⟩
    | undumpable hstatus hresponse h =>
        obtain ⟨f, hbytes⟩ := HttpResponse.exists_error_renderBytes_iff.2 h
        exact ⟨f, .inr ⟨hstatus, _, hresponse, hbytes⟩⟩

/-- The fault of statuses that cannot be listed says that there are no items. -/
theorem notIterable_of_destinationStatuses (h : Capture.destinationStatuses o = .error f) :
    ∃ name, f = .notIterable name := by
  rw [Capture.destinationStatuses] at h
  split at h
  · contradiction
  · split at h
    · contradiction
    · exact ⟨_, (Except.error.inj h).symm⟩

/-- No fault of a report is one that a run handles. -/
theorem cause_of_fault? (h : o.fault? = some f) : f.cause = .other := by
  obtain ⟨-, hstatuses⟩ | ⟨-, r, -, hbytes⟩ := fault?_eq_some_iff.1 h
  · obtain ⟨name, rfl⟩ := notIterable_of_destinationStatuses hstatuses
    rfl
  · obtain rfl | ⟨e, rfl⟩ := HttpResponse.fault_of_renderBytes hbytes
    · rfl
    · rfl

end Outcome

namespace Capture

variable {o : Outcome} {h : Host}

/-- Nothing at all is done about statuses that cannot be listed. -/
theorem settle_of_unlistable (ho : o.Unlistable) (kind : Kind) (dir : RawText)
    (startedAt : Option Binary64) (h : Host) :
    ∃ name, settle kind o dir startedAt h = (.error (.notIterable name), h) := by
  have hstanding : o.standing = .success := (Outcome.standing_eq_iff (by decide)).2 ho.1
  obtain ⟨f, hstatuses⟩ := destinationStatuses_eq_error_iff.2 ho.2
  obtain ⟨name, rfl⟩ := Outcome.notIterable_of_destinationStatuses hstatuses
  exact ⟨name, by simp only [settle, hstanding, hstatuses]⟩

/-- A response without a dump is not written anywhere. -/
theorem settle_of_undumpable {r : HttpResponse} (hstatus : o.status = some (.text "service_error"))
    (hresponse : o.http = some (.response r)) (hr : r.Undumpable) (hutc : h.InUtc) (kind : Kind)
    (dir : RawText) (startedAt : Option Binary64) :
    ∃ f after, settle kind o dir startedAt h = (.error f, after) ∧ after.files = h.files ∧
      (f = .longInteger ∨ ∃ e, f = .unencodable e) := by
  have hstanding : o.standing = .serviceError := (Outcome.standing_eq_iff (by decide)).2 hstatus
  obtain ⟨f, hbytes⟩ := HttpResponse.exists_error_renderBytes_iff.2 hr
  obtain ⟨after, hsettle, hfiles⟩ := settle_of_fault
    (Outcome.fault?_eq_some_iff.2 (.inr ⟨hstanding, r, hresponse, hbytes⟩)) hutc kind dir startedAt
  exact ⟨f, after, hsettle, hfiles, HttpResponse.fault_of_renderBytes hbytes⟩

end Capture

/-! ## answers in turn -/

namespace Flush

/-- An answer that ends a flush: a report that is not settled, or an interrupt. -/
def Stops : Except Failure Outcome → Prop
  | .ok o => o.Unsettled
  | .error f => f.cause = .interrupt

/-- Answers of which the first that ends a flush is a report. -/
def StoppedByReport (answers : List (Except Failure Outcome)) : Prop :=
  ∃ front o back, answers = front ++ .ok o :: back ∧ o.Unsettled ∧
    ∀ answer ∈ front, ¬ Stops answer

variable {answers : List (Except Failure Outcome)}

theorem fault?_eq_none_iff {answer : Except Failure Outcome} :
    fault? answer = none ↔ ¬ Stops answer := by
  cases answer with
  | ok o => exact Outcome.fault?_eq_none_iff
  | error f => simp [fault?, Stops, Failure.isInterrupt]

theorem concluded_eq_ok_iff :
    concluded answers = .ok () ↔ ∀ answer ∈ answers, ¬ Stops answer := by
  simp only [← fault?_eq_none_iff, ← List.findSome?_eq_none_iff, concluded]
  cases answers.findSome? fault? <;> simp

/-- The fault of a report comes first exactly if no answer before it ends the flush. -/
theorem stoppedByReport_iff :
    StoppedByReport answers ↔ ∃ f, answers.findSome? fault? = some f ∧ f.cause = .other := by
  constructor
  · rintro ⟨front, o, back, rfl, ho, hfront⟩
    obtain ⟨f, hf⟩ := Option.ne_none_iff_exists'.1 (mt Outcome.fault?_eq_none_iff.1 (not_not.2 ho))
    exact ⟨f, List.findSome?_eq_some_iff.2 ⟨front, .ok o, back, rfl, hf,
      fun answer hanswer => fault?_eq_none_iff.2 (hfront answer hanswer)⟩, Outcome.cause_of_fault? hf⟩
  · rintro ⟨f, hfirst, hcause⟩
    obtain ⟨front, answer, back, rfl, hfault, hfront⟩ := List.findSome?_eq_some_iff.1 hfirst
    cases answer with
    | ok o =>
        have ho : o.Unsettled := by
          by_contra hsettled
          rw [fault?, Outcome.fault?_eq_none_iff.2 hsettled] at hfault
          contradiction
        exact ⟨front, o, back, rfl, ho,
          fun answer hanswer => fault?_eq_none_iff.1 (hfront answer hanswer)⟩
    | error g =>
        -- an interrupt has a cause of its own
        rw [fault?] at hfault
        split at hfault
        · next hg =>
            obtain rfl := Option.some.inj hfault
            exact absurd ((beq_iff_eq.1 hg).symm.trans hcause) (by decide)
        · contradiction

/-- A fault among the answers is an interrupt or that of a report. -/
theorem cause_of_fault {f : Fault} (h : answers.findSome? fault? = some f) :
    f.cause = .interrupt ∨ f.cause = .other := by
  obtain ⟨answer, -, hfault⟩ := List.exists_of_findSome?_eq_some h
  cases answer with
  | ok o => exact .inr (Outcome.cause_of_fault? hfault)
  | error g =>
      rw [fault?] at hfault
      split at hfault
      · next hg =>
          rw [← Option.some.inj hfault]
          exact .inl (beq_iff_eq.1 hg)
      · contradiction

end Flush

/-! ## runs -/

namespace Run

/-- Of all that a sender answers and a stream brings, such a report alone is not
handled. -/
theorem escapes_finish_iff {answers : List (Except Failure Outcome)} {refused : Option WireError}
    (hrefused : ∀ e ∈ refused, e.cause = .malformedInput) {failure : Option Failure}
    (hfailure : ∀ f ∈ failure, f.cause = .interrupt ∨ f.cause = .inputOutput) (host : Host) :
    (∃ f, (finish (((Flush.concluded answers).bind fun _ => raised (refused.map .wire)).bind fun _ =>
        raised (failure.map .outside)) host).1 = .escaped f) ↔ Flush.StoppedByReport answers := by
  rw [Flush.stoppedByReport_iff]
  cases hfirst : answers.findSome? Flush.fault? with
  | none =>
      -- the stream decides, and all it can bring is handled
      have hok : Flush.concluded answers = .ok () := by rw [Flush.concluded, hfirst]
      have hnone : ∀ f, .error f ∈ answers → f.cause ≠ .interrupt := fun f hf =>
        Flush.cause_of_no_fault (List.findSome?_eq_none_iff.1 hfirst _ hf)
      have hfate := Fate.ofResult?_raised (.inr ⟨hnone, hok⟩) hrefused hfailure
      rw [finish_of_fate hfate]
      simp
  | some f =>
      have herror : Flush.concluded answers = .error f := by rw [Flush.concluded, hfirst]
      rw [herror]
      obtain hcause | hcause := Flush.cause_of_fault hfirst
      · simp [Except.bind, finish, hcause]
      · simp [Except.bind, finish, hcause]

variable {σ : Type}

end Run

end BatchMailer
