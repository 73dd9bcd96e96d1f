import BatchMailer.Proofs.Flush.InTurn
import BatchMailer.Proofs.Run.Counting
import BatchMailer.Proofs.Stream.Delivery

/-!
# BatchMailer.Proofs.Run.Ending

How a sending run ends, whatever its sender does.

Over its stream a run dispatches the requests of the lines it accepts, one after
the other, and then ends for a reason that lies in the stream
(`feed_inTurn`).  Of all that a sender may come up with, only an interrupt makes
a difference to that (`Flush.concluded_of_reports`): a sender that gives up
with an error of the same family as the errors of the input, or of a read, is
reported like any other and does not end the run.  So the exit status and the
last entry of the log follow from the accepted part of the stream, from how it
ends and from whether a request was interrupted (`Fate.of`).
-/

namespace BatchMailer

namespace Run

variable {σ : Type}

/-! ## bytes behind an accepted input -/

theorem requests_holding (capacity : Int) (records : List Record) :
    (Store.holding capacity records).requests = (Lot.ofRecords records).map Lot.request := by
  have hpending : (Store.holding capacity records).pending = fun kind => kind.among records :=
    funext (Store.pending_holding capacity records)
  rw [Store.requests, hpending, Lot.ofRecords]

/-- Bytes that follow an accepted input are taken up to the first that is not
accepted.  The requests of the lines they end are dispatched in turn, and if none
brings a fault that byte does, if there is one. -/
theorem feed_inTurn (send : Sender σ) (dir : RawText) {capacity : Nat} (rest front : List UInt8)
    (hfront : Wire.AcceptedByLine capacity front) :
    ∃ taken back lots refused,
      rest = taken ++ back ∧ Wire.AcceptedByLine capacity (front ++ taken) ∧
      Wire.lots (front ++ taken) = Wire.lots front ++ lots ∧
      (∀ byte, [byte] <+: back → ¬ Wire.AcceptedByLine capacity (front ++ taken ++ [byte])) ∧
      (refused = none ↔ back = []) ∧ (∀ e ∈ refused, e.cause = .malformedInput) ∧
      ∀ o, (feed (flushing send dir) rest (Wire.stateOnLine capacity front) o).result =
        (Flush.dispatchAll send dir (lots.map Lot.request) o).1.bind fun _ =>
          raised (refused.map .wire) := by
  induction rest generalizing front with
  | nil =>
      refine ⟨[], [], [], none, rfl, by rwa [List.append_nil], by simp, fun byte hbyte => ?_,
        by simp, by simp, fun o => rfl⟩
      rw [List.prefix_nil] at hbyte
      contradiction
  | cons byte rest ih =>
      obtain ⟨hnext, hconsume⟩ | ⟨hnext, e, t, hconsume, hcause⟩ :=
        Wire.consume_of_acceptedByLine_cases hfront byte
      · obtain ⟨taken, back, lots, refused, rfl, htaken, hlots, hstop, hback, hmalformed, hrest⟩ :=
          ih (front ++ [byte]) hnext
        rw [← List.append_cons] at htaken hlots hstop
        by_cases hbyte : byte = Wire.lineFeed
        · subst hbyte
          -- the lots of this line go out before any byte behind it is looked at
          rw [Wire.eventOf, if_pos rfl] at hconsume
          rw [Wire.lots_append_lineFeed, List.append_assoc] at hlots
          refine ⟨Wire.lineFeed :: taken, back, _, refused, rfl, htaken, hlots, hstop, hback,
            hmalformed, fun o => ?_⟩
          obtain ⟨left, hline, hleft⟩ := flushing_eq send dir
            (Wire.decoderAfter (front ++ [Wire.lineFeed])) (.holding capacity
              (Wire.closedOn front (front.count Wire.lineFeed) ++
                (Wire.completed? front Wire.lineFeed).toList)) o
          rw [requests_holding] at hline hleft
          rw [List.map_append, Flush.dispatchAll_append]
          generalize Flush.dispatchAll send dir _ o = dispatched at hline hleft ⊢
          obtain ⟨result, o'⟩ := dispatched
          cases result with
          | error f => rw [feed_of_complete_of_error hconsume hline]; rfl
          | ok _ =>
              rw [feed_of_complete_of_ok hconsume hline, hleft rfl, ← hrest o',
                Wire.stateOnLine_append_lineFeed]
              rfl
        · rw [Wire.eventOf, if_neg hbyte] at hconsume
          rw [Wire.lots_append_of_ne front hbyte] at hlots
          refine ⟨byte :: taken, back, lots, refused, rfl, htaken, hlots, hstop, hback, hmalformed,
            fun o => ?_⟩
          rw [feed_of_continues hconsume, ← Wire.stateOnLine_append_of_ne hbyte, hrest o]
      · refine ⟨[], byte :: rest, [], some e, rfl, by rwa [List.append_nil], by simp,
          fun first hfirst => ?_, by simp, by simpa using hcause, fun o => ?_⟩
        · rwa [List.append_nil, (List.cons_prefix_cons.1 hfirst).1]
        · rw [feed_of_error hconsume]
          rfl

/-! ## what ends a run -/

/-- What ends a run that takes in its stream: an interrupt, or a reason to stop. -/
inductive Fate where
  | interrupted
  | stopped (stop : Stop)
  deriving DecidableEq, Repr

namespace Fate

/-- The exit status of a run. -/
def status : Fate → Nat
  | interrupted => 0
  | stopped _ => 1

/-- The last entry of a run's log. -/
def entry : Fate → Log.Entry
  | interrupted => ⟨.info, some "received keyboard interrupt"⟩
  | stopped stop => ⟨.error, some stop.sendingMessage⟩

/-- Whether a request was interrupted. -/
def isInterrupted : Except Failure Outcome → Bool
  | .error f => f.isInterrupt
  | .ok _ => false

/-- The fate of a run, by what its sender answers to the requests of the accepted
lines, by the refusal of the byte behind them, if there is one, and by the failure
that ends the stream, if one does. -/
def of (answers : List (Except Failure Outcome)) (refused : Option WireError)
    (failure : Option Failure) : Fate :=
  if answers.any isInterrupted then interrupted
  else
    match refused with
    | some e => stopped (.malformed e.message)
    | none =>
      match failure with
      | none => stopped .endOfInput
      | some f => if f.isInterrupt then interrupted else stopped (.unreadable f.text)

theorem status_eq_zero_iff (fate : Fate) : fate.status = 0 ↔ fate = .interrupted := by
  cases fate <;> simp [status]

theorem status_eq_zero_or_one (fate : Fate) :
    Ending.exit fate.status = .exit 0 ∨ Ending.exit fate.status = .exit 1 := by
  cases fate <;> simp [status]

theorem entry_inj {a b : Fate} (h : a.entry = b.entry) : a = b := by
  cases a with
  | interrupted =>
      cases b with
      | interrupted => rfl
      | stopped stop => simp [entry] at h
  | stopped stop =>
      cases b with
      | interrupted => simp [entry] at h
      | stopped other =>
          simp only [entry, Log.Entry.mk.injEq, true_and, Option.some.injEq] at h
          rw [Stop.sendingMessage_inj h]

theorem any_isInterrupted_iff {answers : List (Except Failure Outcome)} :
    answers.any isInterrupted = true ↔ ∃ f, .error f ∈ answers ∧ f.cause = .interrupt := by
  rw [List.any_eq_true]
  constructor
  · rintro ⟨answer, hmem, hanswer⟩
    cases answer with
    | ok o => contradiction
    | error f => exact ⟨f, hmem, beq_iff_eq.1 hanswer⟩
  · rintro ⟨f, hmem, hcause⟩
    exact ⟨.error f, hmem, beq_iff_eq.2 hcause⟩

section

variable (answers : List (Except Failure Outcome)) (refused : Option WireError)
  (failure : Option Failure)

theorem of_eq_interrupted_iff :
    of answers refused failure = .interrupted ↔
      (∃ f, .error f ∈ answers ∧ f.cause = .interrupt) ∨
        refused = none ∧ ∃ f, failure = some f ∧ f.cause = .interrupt := by
  rw [← any_isInterrupted_iff]
  unfold of
  by_cases hany : answers.any isInterrupted = true
  · simp [hany]
  · cases refused <;> cases failure <;> simp [hany, Failure.isInterrupt]

theorem of_eq_malformed_iff (text : RawText) :
    of answers refused failure = .stopped (.malformed text) ↔
      (¬ ∃ f, .error f ∈ answers ∧ f.cause = .interrupt) ∧
        ∃ e, refused = some e ∧ e.message = text := by
  rw [← any_isInterrupted_iff]
  unfold of
  by_cases hany : answers.any isInterrupted = true
  · simp [hany]
  · cases refused with
    | some e => simp [hany]
    | none => cases failure <;> simp [hany, ite_eq_iff]

theorem of_eq_unreadable_iff (text : RawText) :
    of answers refused failure = .stopped (.unreadable text) ↔
      (¬ ∃ f, .error f ∈ answers ∧ f.cause = .interrupt) ∧
        refused = none ∧ ∃ f, failure = some f ∧ f.cause ≠ .interrupt ∧ f.text = text := by
  rw [← any_isInterrupted_iff]
  unfold of
  by_cases hany : answers.any isInterrupted = true
  · simp [hany]
  · cases refused <;> cases failure <;> simp [hany, ite_eq_iff, Failure.isInterrupt]

theorem of_eq_endOfInput_iff :
    of answers refused failure = .stopped .endOfInput ↔
      (¬ ∃ f, .error f ∈ answers ∧ f.cause = .interrupt) ∧ refused = none ∧ failure = none := by
  rw [← any_isInterrupted_iff]
  unfold of
  by_cases hany : answers.any isInterrupted = true
  · simp [hany]
  · cases refused <;> cases failure <;> simp [hany, ite_eq_iff]

end

/-- The fate of a run whose stream was taken in, unless the run does not handle
the fault. -/
def ofResult? (result : Except Fault Unit) : Option Fate :=
  match result with
  | .error f => if f.cause = .interrupt then some interrupted else (Stop.ofResult? result).map stopped
  | .ok _ => (Stop.ofResult? result).map stopped

end Fate

theorem finish_of_fate {result : Except Fault Unit} {fate : Fate}
    (h : Fate.ofResult? result = some fate) (host : Host) :
    finish result host = (.exit fate.status, { host with log := host.log ++ [fate.entry] }) := by
  have hstopped : (Stop.ofResult? result).map Fate.stopped = some fate →
      finish result host = (.exit fate.status, { host with log := host.log ++ [fate.entry] }) := by
    intro hstop
    obtain ⟨stop, hresult, rfl⟩ := Option.map_eq_some_iff.1 hstop
    exact finish_of_stop hresult host
  cases result with
  | ok _ => exact hstopped h
  | error f =>
      rw [Fate.ofResult?] at h
      by_cases hcause : f.cause = .interrupt
      · rw [if_pos hcause] at h
        obtain rfl := Option.some.inj h
        simp only [finish, hcause]
        rfl
      · rw [if_neg hcause] at h
        exact hstopped h

/-- A run is interrupted, or its fate lies in its stream. -/
theorem Fate.ofResult?_raised {answers : List (Except Failure Outcome)}
    {dispatched : Except Fault Unit}
    (hdispatched :
      (∃ f, .error f ∈ answers ∧ f.cause = .interrupt ∧ dispatched = .error (.outside f)) ∨
        (∀ f, .error f ∈ answers → f.cause ≠ .interrupt) ∧ dispatched = .ok ())
    {refused : Option WireError} (hrefused : ∀ e ∈ refused, e.cause = .malformedInput)
    {failure : Option Failure}
    (hfailure : ∀ f ∈ failure, f.cause = .interrupt ∨ f.cause = .inputOutput) :
    ofResult? ((dispatched.bind fun _ => raised (refused.map .wire)).bind fun _ =>
      raised (failure.map .outside)) = some (of answers refused failure) := by
  obtain ⟨f, hmem, hcause, rfl⟩ | ⟨hnone, rfl⟩ := hdispatched
  · have hany := any_isInterrupted_iff.2 ⟨f, hmem, hcause⟩
    have hfault : (Fault.outside f).cause = .interrupt := hcause
    unfold of
    rw [if_pos hany]
    exact if_pos hfault
  · have hany : ¬ answers.any isInterrupted = true := fun h =>
      have ⟨f, hmem, hcause⟩ := any_isInterrupted_iff.1 h
      hnone f hmem hcause
    unfold of
    rw [if_neg hany]
    cases refused with
    | some e =>
        have hfault : (Fault.wire e).cause = .malformedInput := hrefused e rfl
        simp [Except.bind, raised, ofResult?, Stop.ofResult?, hfault, Fault.message]
    | none =>
        cases failure with
        | none => rfl
        | some f =>
            obtain hcause | hcause := hfailure f rfl
            · have hfault : (Fault.outside f).cause = .interrupt := hcause
              simp [Except.bind, raised, ofResult?, hfault, Failure.isInterrupt, hcause]
            · have hfault : (Fault.outside f).cause = .inputOutput := hcause
              simp [Except.bind, raised, ofResult?, Stop.ofResult?, hfault, Failure.isInterrupt,
                hcause, Fault.message]

/-- A run that can begin ends with what becomes of the requests of the accepted lines,
and if there is no fault, with what its stream brings. -/
theorem exists_conclusion (build : Settings → BuiltSender σ) {s : Settings} {host : Host}
    {files : FileTree} (hmade : host.files.ensureDirectories s.outputDir = (.ok (), files))
    (pieces : List Piece) (hutc : host.InUtc) :
    ∃ front refused after,
      front <+: (delivered pieces).bytes ∧
      (∀ p, p <+: (delivered pieces).bytes → (Wire.AcceptedByLine 10 p ↔ p <+: front)) ∧
      (refused = none ↔ front = (delivered pieces).bytes) ∧
      (∀ e ∈ refused, e.cause = .malformedInput) ∧
      let answers := (build s).send.answers (build s).state ((Wire.lots front).map Lot.request)
      let report := send build (.ok s) pieces host
      (report.ending, report.host) = finish
        (((Flush.concluded answers).bind fun _ => raised (refused.map .wire)).bind fun _ =>
          raised ((delivered pieces).failure.map .outside)) after := by
  have hpath : s.outputDir.IsPath :=
    FileTree.isPath_of_ensureDirectories (congrArg Prod.fst hmade)
  have hready : ({ host.info s.summary with files } : Host).InUtc := hutc
  obtain ⟨front, back, lots, refused, hsplit, hfront, hlots, hstop, hback, hmalformed, hfeed⟩ :=
    feed_inTurn (build s).send s.outputDir (delivered pieces).bytes []
      (Wire.acceptedByLine_nil : Wire.AcceptedByLine 10 [])
  rw [List.nil_append] at hfront hlots hstop
  have hall : lots = Wire.lots front := hlots.symm
  obtain ⟨-, hfinish⟩ := send_of_pump build hmade pieces
  have hstart : Wire.stateOnLine 10 [] = .new Store.defaultCapacity := rfl
  have hresult := hfeed ⟨(build s).state, (buildSender build s { host.info s.summary with files }).2⟩
  rw [hstart, Flush.dispatchAll_eq_concluded hpath _ _ (InUtc.buildSender hready build s), hall]
    at hresult
  rw [pump_delivered _ (show 0 < defaultReadSize by decide), result_conclude, hresult] at hfinish
  refine ⟨front, refused, _, ⟨back, hsplit.symm⟩, fun p hp => ?_, ?_, hmalformed, hfinish⟩
  · rw [hsplit] at hp
    exact Wire.acceptedByLine_iff_of_stop hfront hstop hp
  · rw [hback, hsplit, eq_comm (a := front), List.append_right_eq_self]

/-- A run that can begin meets its fate. -/
theorem exists_fate (build : Settings → BuiltSender σ) {s : Settings} {host : Host} {files : FileTree}
    (hmade : host.files.ensureDirectories s.outputDir = (.ok (), files))
    (pieces : List Piece) (hsend : (build s).send.Reports (build s).state)
    (hread : ∀ f, .failure f ∈ pieces → f.cause = .interrupt ∨ f.cause = .inputOutput)
    (hutc : host.InUtc) :
    ∃ front refused,
      front <+: (delivered pieces).bytes ∧
      (∀ p, p <+: (delivered pieces).bytes → (Wire.AcceptedByLine 10 p ↔ p <+: front)) ∧
      (refused = none ↔ front = (delivered pieces).bytes) ∧
      let fate := Fate.of
        ((build s).send.answers (build s).state ((Wire.lots front).map Lot.request)) refused
        (delivered pieces).failure
      let report := send build (.ok s) pieces host
      report.ending = .exit fate.status ∧ report.host.log.getLast? = some fate.entry := by
  obtain ⟨front, refused, after, hfront, haccepted, hrefused, hmalformed, hfinish⟩ :=
    exists_conclusion build hmade pieces hutc
  have hfate := Fate.ofResult?_raised
    (Flush.concluded_of_reports (hsend ((Wire.lots front).map Lot.request))) hmalformed
    fun f hf => hread f (mem_of_failure_delivered hf)
  obtain ⟨hending, hhost⟩ := Prod.mk.inj (hfinish.trans (finish_of_fate hfate after))
  refine ⟨front, refused, hfront, haccepted, hrefused, hending, ?_⟩
  rw [hhost]
  exact List.getLast?_concat

/-! ## the ending of any run -/

/-- A run that ended in failure before it read anything or had a sender. -/
structure Report.Aborted (report : Report σ) (message : RawText) : Prop where
  ending : report.ending = .exit 1
  reads : report.reads = 0
  sender : report.sender = none
  client : report.client = none
  entry : report.host.log.getLast? = some ⟨.error, some message⟩

theorem aborted_of_settings_error (build : Settings → BuiltSender σ) (e : SettingsError)
    (pieces : List Piece) (host : Host) :
    (send build (.error e) pieces host).Aborted ("ERROR: invalid configuration: " ++ e.message) :=
  ⟨rfl, rfl, rfl, rfl, List.getLast?_concat⟩

/-- An output directory that is refused ends a run before it begins. -/
theorem aborted_of_refused (build : Settings → BuiltSender σ) {s : Settings} {host : Host}
    {cause : PathError} {path : RawText}
    (h : (host.files.ensureDirectories s.outputDir).1 = .error (.refused cause path))
    (pieces : List Piece) :
    (send build (.ok s) pieces host).Aborted ("ERROR: failed to create output directory " ++
      s.outputDir ++ ": " ++ (FileError.refused cause path).message) := by
  have hmade : host.files.ensureDirectories s.outputDir =
      (.error (.refused cause path), (host.files.ensureDirectories s.outputDir).2) :=
    Prod.ext h rfl
  rw [send_of_refused build hmade]
  exact ⟨rfl, rfl, rfl, rfl, by simp⟩

end Run

end BatchMailer
