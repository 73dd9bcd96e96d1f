import BatchMailer.Proofs.Run.Matched
import BatchMailer.Proofs.Wire.Grammar

/-!
# BatchMailer.Proofs.Run.Secrecy

No field of a record finds its way into the log, into a file or into the way a
run ends.

A dispatch has the fields before it in its request, and hands them to the sender.
All that comes back is a report, and what a report is settled by does not show
the request, nor what the sender printed (`Capture.settle_silent`).  So with a
sender that does not look at its recipients (`Sender.Blind`) like requests leave
the same trace (`Flush.dispatch_blind`), and so do two streams with the same
delimiters and kinds (`Run.sameTrace_send`).
-/

namespace BatchMailer

/-! ## streams and requests -/

/-- The veil over all fields. -/
def Veil.fields : Veil := fun _ _ => True

namespace Wire

/-- Two inputs with the same delimiters and the same tokens in the places of kinds,
and with no field that is too long. -/
structure SameButFields (input input' : List UInt8) : Prop where
  delimiters : input.filter isDelimiter = input'.filter isDelimiter
  kinds : ∀ i, i % 5 = 0 → (tokens input)[i]? = (tokens input')[i]?
  fit : FieldsFit input
  fit' : FieldsFit input'

instance (input input' : List UInt8) : Decidable (SameButFields input input') :=
  decidable_of_iff (input.filter isDelimiter = input'.filter isDelimiter ∧
      (∀ i < max (tokens input).length (tokens input').length, i % 5 = 0 →
        (tokens input)[i]? = (tokens input')[i]?) ∧
      FieldsFit input ∧ FieldsFit input') <| by
    constructor
    · intro hall
      obtain ⟨hdelimiters, hkinds, hfit, hfit'⟩ := hall
      refine ⟨hdelimiters, fun i hi => ?_, hfit, hfit'⟩
      by_cases hlt : i < max (tokens input).length (tokens input').length
      · exact hkinds i hlt hi
      · rw [List.getElem?_eq_none (by omega), List.getElem?_eq_none (by omega)]
    · intro h
      exact ⟨h.delimiters, fun i _ hi => h.kinds i hi, h.fit, h.fit'⟩

theorem SameButFields.sameUnder {input input' : List UInt8} (h : SameButFields input input') :
    SameUnder .fields input input' := by
  refine ⟨h.delimiters, fun i t t' ht ht' => ?_⟩
  by_cases hi : i % 5 = 0
  · have hsame := h.kinds i hi
    rw [ht, ht', Option.some.injEq] at hsame
    exact .inl hsame
  · exact .inr ⟨⟨hi, fun _ _ => trivial⟩, h.fit i t ht hi, h.fit' i t' ht' hi⟩

end Wire

/-- Requests of one kind for equally many recipients. -/
structure Request.Alike (q q' : Request) : Prop where
  kind : q.kind = q'.kind
  template : q.template = q'.template
  defaultTemplateData : q.defaultTemplateData = q'.defaultTemplateData
  count : q.destinations.length = q'.destinations.length

theorem Request.alike_of_sameUnder (kind : Kind) (records records' : List Record)
    (h : List.Forall₂ (Record.SameUnder .fields) records records') :
    (Request.ofRecords kind records).Alike (.ofRecords kind records') :=
  ⟨rfl, rfl, rfl, by simp [h.length_eq]⟩

/-! ## senders that do not look at their recipients -/

/-- A sender that treats like requests alike, from states that are related, and
leaves related states. -/
def Sender.Blind {σ : Type} (R : σ → σ → Prop) (send : Sender σ) : Prop :=
  ∀ a a' q q', R a a' → q.Alike q' →
    (send a q).result = (send a' q').result ∧ R (send a q).state (send a' q').state

/-- A constant for each destination is the same list for as many. -/
theorem Request.Alike.map_const {q q' : Request} (h : q.Alike q') (v : Value) :
    (q.destinations.map fun _ => v) = q'.destinations.map fun _ => v := by
  rw [List.map_const', List.map_const', h.count]

theorem blind_scripted : scripted.Blind Eq := by
  rintro script _ q q' rfl hq
  cases script with
  | nil => exact ⟨by rw [scripted, scripted, allServed, hq.map_const, allServed], rfl⟩
  | cons answer rest => exact ⟨rfl, rfl⟩

namespace Ses

variable {τ : Type}

/-- Parameters that differ in the recipients alone, of which there are equally
many. -/
structure Parameters.Alike (p p' : Parameters) : Prop where
  same : { p with destinations := [] } = { p' with destinations := [] }
  count : p.destinations.length = p'.destinations.length

/-- A service that does not look at the recipients. -/
def Service.Blind (service : Service τ) : Prop := ∀ t p p', p.Alike p' → service t p = service t p'

theorem blind_scriptedService : scriptedService.Blind := by
  intro script p p' hp
  have hreply : servedReply p.destinations = servedReply p'.destinations := by
    rw [servedReply, servedReply, List.map_const', List.map_const', hp.count]
  cases script with
  | nil =>
      rw [scriptedService, scriptedService, ScriptedCall.exchange, ScriptedCall.exchange, hreply]
  | cons call rest =>
      rw [scriptedService, scriptedService, ScriptedCall.exchange, ScriptedCall.exchange, hreply]

theorem Parameters.alike_ofRequest (identity : Identity) {q q' : Request} (h : q.Alike q') :
    (Parameters.ofRequest identity q).Alike (.ofRequest identity q') := by
  refine ⟨?_, h.count⟩
  rw [ofRequest, ofRequest, h.kind, h.template, h.defaultTemplateData]

/-- Two states that differ in the parameters of past calls alone. -/
def State.SameButCalls (s s' : State τ) : Prop := { s with calls := [] } = { s' with calls := [] }

theorem blind_send {service : Service τ} (h : service.Blind) (identity : Identity) :
    (send service identity).Blind State.SameButCalls := by
  rintro ⟨remembered, t, calls⟩ ⟨_, _, calls'⟩ q q' hstates hq
  obtain ⟨rfl, rfl⟩ : remembered = _ ∧ t = _ := by simpa [State.SameButCalls] using hstates
  have hcall := h t _ _ (Parameters.alike_ofRequest identity hq)
  simp only [send, hcall, State.SameButCalls, and_self]

end Ses

theorem Console.blind_sender {σ : Type} (R : σ → σ → Prop) (configurationSet source : String) :
    (Console.sender configurationSet source : Sender σ).Blind R := by
  intro a a' q q' ha hq
  refine ⟨?_, ha⟩
  rw [Console.sender, Console.sender, Console.report, hq.map_const, Console.report]

/-! ## settling a report -/

/-- A host without what was printed. -/
def Host.silent (h : Host) : Host := { h with printed := "" }

namespace Diagnostic

/-- What is printed has no influence on how a file is written. -/
theorem writeFile_silent (path : RawText) (content : List UInt8) (startedAt : Option Binary64)
    (h : Host) :
    writeFile path content startedAt h.silent =
      ((writeFile path content startedAt h).1, (writeFile path content startedAt h).2.silent) := by
  simp only [writeFile, Host.silent, Host.store, Host.nextShortfall]
  cases h.files.openFile path with
  | error e => cases e <;> rfl
  | ok place =>
      cases h.disk.head?.join with
      | some shortfall => rfl
      | none => cases startedAt <;> rfl

theorem write_silent (r : HttpResponse) (dir : RawText) (kindIndex : Int)
    (startedAt : Option Binary64) (h : Host) :
    write r dir kindIndex startedAt h.silent =
      ((write r dir kindIndex startedAt h).1, (write r dir kindIndex startedAt h).2.silent) := by
  have hread : h.silent.readWall = (h.wall.now, h.readWall.2.silent) := rfl
  simp only [write, hread, writeAt]
  simp only [Host.readWall]
  cases fileName kindIndex h.wall.now with
  | error f => rfl
  | ok name =>
      cases r.renderBytes with
      | error f => rfl
      | ok content => exact writeFile_silent _ content startedAt _

end Diagnostic

namespace Capture

theorem noteStatuses_silent (kind : Kind) (first : Nat) (statuses : List Value) (h : Host) :
    noteStatuses kind first statuses h.silent = (noteStatuses kind first statuses h).silent := by
  induction statuses generalizing first h with
  | nil => rfl
  | cons status rest ih => exact ih (first + 1) (h.note .info (statusLine kind first status))

/-- What is printed has no influence on how a report is settled. -/
theorem settle_silent (kind : Kind) (o : Outcome) (dir : RawText) (startedAt : Option Binary64)
    (h : Host) :
    settle kind o dir startedAt h.silent =
      ((settle kind o dir startedAt h).1, (settle kind o dir startedAt h).2.silent) := by
  rw [settle, settle]
  cases o.standing with
  | success =>
      cases destinationStatuses o with
      | error f => rfl
      | ok statuses => simp only [noteStatuses_silent]
  | serviceError =>
      have hnoted : h.silent.note .error (errorLine (serviceErrorWords kind) o) =
          (h.note .error (errorLine (serviceErrorWords kind) o)).silent := rfl
      cases o.http with
      | none => rfl
      | some evidence =>
          cases evidence with
          | other v => rfl
          | response r => simp only [hnoted, Diagnostic.write_silent]
  | timeout => rfl
  | transportFailure => rfl
  | unexpected => rfl

theorem settle_of_silent_eq (kind : Kind) (o : Outcome) (dir : RawText)
    (startedAt : Option Binary64) {h h' : Host} (heq : h.silent = h'.silent) :
    (settle kind o dir startedAt h).1 = (settle kind o dir startedAt h').1 ∧
      (settle kind o dir startedAt h).2.silent = (settle kind o dir startedAt h').2.silent := by
  have hsettle := settle_silent kind o dir startedAt h
  rw [heq, settle_silent] at hsettle
  obtain ⟨hresult, hhost⟩ := Prod.mk.inj hsettle
  exact ⟨hresult.symm, hhost.symm⟩

end Capture

/-! ## dispatches -/

/-- Two send states whose senders are related and whose hosts differ in what was printed
alone. -/
def SendState.Traced {σ : Type} (R : σ → σ → Prop) (o o' : SendState σ) : Prop :=
  R o.sender o'.sender ∧ o.host.silent = o'.host.silent

/-- A blind sender leaves the same trace of like requests. -/
theorem Flush.dispatch_blind {σ : Type} {send : Sender σ} {R : σ → σ → Prop} (hsend : send.Blind R)
    (dir : RawText) {q q' : Request} {o o' : SendState σ} (hq : q.Alike q') (ho : o.Traced R o') :
    ((dispatch send dir q o).1.map fun _ => ()) = ((dispatch send dir q' o').1.map fun _ => ()) ∧
      (dispatch send dir q o).2.Traced R (dispatch send dir q' o').2 := by
  obtain ⟨a, h⟩ := o
  obtain ⟨a', h'⟩ := o'
  obtain ⟨hstates, hhosts⟩ := ho
  obtain ⟨hresult, hstates'⟩ := hsend a a' q q' hstates hq
  have hready : (h.readSteady.2.print (send a q).printed).silent =
      (h'.readSteady.2.print (send a' q').printed).silent := by
    have hread : h.silent.readSteady.2 = h'.silent.readSteady.2 :=
      congrArg (fun host => host.readSteady.2) hhosts
    exact hread
  -- the answers are the same, so both requests are interrupted or settled by one report
  cases hreported : reported (send a q).result with
  | none =>
      obtain ⟨f, hf, hinterrupt⟩ := exists_interrupt_of_reported hreported
      rw [dispatch_of_interrupt (o := ⟨a, h⟩) dir hf hinterrupt,
        dispatch_of_interrupt (o := ⟨a', h'⟩) dir (hresult ▸ hf) hinterrupt]
      exact ⟨rfl, hstates', hready⟩
  | some outcome =>
      have hdispatch := dispatch_of_reported (o := ⟨a, h⟩) dir hreported
      have hdispatch' := dispatch_of_reported (o := ⟨a', h'⟩) dir (hresult ▸ hreported)
      have hnow : h.steady.now = h'.steady.now := congrArg (·.steady.now) hhosts
      obtain ⟨hpath, hhost⟩ := Capture.settle_of_silent_eq q.kind outcome dir
        (some h.steady.now) hready
      rw [hdispatch, hdispatch', ← hq.kind, ← hnow]
      refine ⟨?_, hstates', hhost⟩
      simp only [hpath]
      cases (Capture.settle q.kind outcome dir (some h.steady.now)
        (h'.readSteady.2.print (send a' q').printed)).1 <;> rfl

namespace Run

variable {σ τ : Type}

/-- Two runs that leave the same trace: the same way to end, the same log and the
same files. -/
structure Report.SameTrace (r r' : Report σ) : Prop where
  ending : r.ending = r'.ending
  log : r.host.log = r'.host.log
  files : r.host.files = r'.host.files

theorem finish_silent (result : Except Fault Unit) {h h' : Host} (heq : h.silent = h'.silent) :
    (finish result h).1 = (finish result h').1 ∧
      (finish result h).2.silent = (finish result h').2.silent := by
  obtain ⟨ending, entries, hends⟩ := finish_eq result
  have hhost : ({ h with log := h.log ++ entries } : Host).silent =
      ({ h' with log := h'.log ++ entries } : Host).silent :=
    congrArg (fun host : Host => { host with log := host.log ++ entries }) heq
  rw [hends h, hends h']
  exact ⟨rfl, hhost⟩

/-- Runs that were matched but for what was printed leave the same trace. -/
theorem Report.Matched.sameTrace {R : σ → σ → Prop} {r r' : Report σ}
    (h : r.Matched (SendState.Traced R) r') : r.SameTrace r' := by
  cases h with
  | same h => exact h ▸ ⟨rfl, rfl, rfl⟩
  | ended result o o' ho sender sender' finish finish' client =>
      obtain ⟨hending, hhost⟩ := finish_silent result ho.2
      rw [← finish, ← finish'] at hending hhost
      have hlog : r.host.silent.log = r'.host.silent.log := congrArg Host.log hhost
      have hfiles : r.host.silent.files = r'.host.silent.files := congrArg Host.files hhost
      exact ⟨hending, hlog, hfiles⟩

/-- A run with a blind sender leaves the same trace over streams that differ in
fields alone. -/
theorem sameTrace_of_blind (build : Settings → BuiltSender σ) (settings : Except SettingsError Settings)
    {R : σ → σ → Prop} (hblind : ∀ s, (build s).send.Blind R)
    (hstart : ∀ s, R (build s).state (build s).state)
    {chunks chunks' : List (List UInt8)} (hchunks : ∀ chunk ∈ chunks, chunk ≠ [])
    (hchunks' : ∀ chunk ∈ chunks', chunk ≠ [])
    (hsame : Wire.SameButFields chunks.flatten chunks'.flatten) (host : Host) :
    (send build settings (chunks.map .bytes) host).SameTrace
      (send build settings (chunks'.map .bytes) host) := by
  have hstreams := Delivery.sameUnder_of_chunks hchunks hchunks' hsame.sameUnder
  refine (matched_send build settings (fun s _ => ?_) (fun s _ h => ⟨hstart s, rfl⟩) hstreams
    host).sameTrace
  exact flushing_inStepUnder Request.alike_of_sameUnder fun q q' o o' hq ho =>
    Flush.dispatch_blind (hblind s) s.outputDir hq ho

theorem blind_selected {service : Ses.Service τ} (h : service.Blind) (start : τ) (s : Settings) :
    (selected service start s).send.Blind Ses.State.SameButCalls := by
  rw [selected]
  split
  · exact Console.blind_sender _ _ _
  · exact Ses.blind_send h _

/-- **No recipient data reaches the log or a file.**  Let two streams have the same
delimiters and the same tokens in the places of kinds, and fields that differ as
they like but are not too long, and let each be delivered in whatever pieces.
Then two runs on the same host, with the same configuration and a sender that
does not look at its recipients, end in the same way and leave the same log and
the same files.  So do two runs with the sender that the configuration asks for,
if SES does not look at them. -/
theorem sameTrace_send (settings : Except SettingsError Settings)
    (chunks chunks' : List (List UInt8)) (hchunks : ∀ chunk ∈ chunks, chunk ≠ [])
    (hchunks' : ∀ chunk ∈ chunks', chunk ≠ [])
    (hsame : Wire.SameButFields chunks.flatten chunks'.flatten) (host : Host) :
    (∀ build : Settings → BuiltSender σ, (∀ s, (build s).send.Blind Eq) →
      (send build settings (chunks.map .bytes) host).SameTrace
        (send build settings (chunks'.map .bytes) host)) ∧
    ∀ (service : Ses.Service τ) (start : τ), service.Blind →
      (send (selected service start) settings (chunks.map .bytes) host).SameTrace
        (send (selected service start) settings (chunks'.map .bytes) host) := by
  refine ⟨fun build hblind => ?_, fun service start hblind => ?_⟩
  · exact sameTrace_of_blind build settings hblind (fun _ => rfl) hchunks hchunks' hsame host
  · exact sameTrace_of_blind (selected service start) settings (blind_selected hblind start)
      (fun _ => rfl) hchunks hchunks' hsame host

/-- Two records of either kind and a byte that is no kind, over fields and pieces of
different lengths.  The one sender gives up on the first request, and the other
is refused it by SES with a response that goes to a file. -/
theorem sameTrace_send_refused :
    let host := Host.start ⟨⟨⟨2024, 2, 29⟩, 12, 30, 0, 0, 0⟩, []⟩ ⟨.nan, []⟩ .fresh
    let settings : Settings := ⟨false, "set", "source", "out", [], none, none, .nan, .nan⟩
    let pieces : List Piece := [.bytes [0x31, 0x2C, 0x61, 0x0A, 0x62, 0x2C, 0x63, 0x2C],
      .bytes [0x78, 0x79, 0x0A, 0x32, 0x2C, 0x64, 0x2C, 0x65, 0x0A, 0x66, 0x2C, 0x0A, 0x33]]
    let pieces' : List Piece := [.bytes [0x31, 0x2C, 0x7A, 0x7A, 0x7A, 0x7A, 0x0A],
      .bytes [0x2C, 0x2C, 0x62, 0x0A, 0x32, 0x2C, 0x2C, 0x67, 0x67],
      .bytes [0x0A, 0x68, 0x69, 0x2C, 0x6A, 0x0A, 0x33]]
    (send (given scripted [.error ⟨.inputOutput, "OSError", "unplugged"⟩]) (.ok settings) pieces
      host).SameTrace
        (send (given scripted [.error ⟨.inputOutput, "OSError", "unplugged"⟩]) (.ok settings)
          pieces' host) ∧
      (send (selected Ses.scriptedService [⟨[some ⟨some (.int 400), none, none⟩],
        some (.error (.refused none none))⟩]) (.ok settings) pieces host).SameTrace
          (send (selected Ses.scriptedService [⟨[some ⟨some (.int 400), none, none⟩],
            some (.error (.refused none none))⟩]) (.ok settings) pieces' host) := by
  intro host settings pieces pieces'
  obtain ⟨hgiven, hselected⟩ := sameTrace_send (.ok settings)
    [[0x31, 0x2C, 0x61, 0x0A, 0x62, 0x2C, 0x63, 0x2C],
      [0x78, 0x79, 0x0A, 0x32, 0x2C, 0x64, 0x2C, 0x65, 0x0A, 0x66, 0x2C, 0x0A, 0x33]]
    [[0x31, 0x2C, 0x7A, 0x7A, 0x7A, 0x7A, 0x0A],
      [0x2C, 0x2C, 0x62, 0x0A, 0x32, 0x2C, 0x2C, 0x67, 0x67],
      [0x0A, 0x68, 0x69, 0x2C, 0x6A, 0x0A, 0x33]]
    (by decide) (by decide) (by decide) host
  exact ⟨hgiven _ fun _ => blind_scripted, hselected _ _ Ses.blind_scriptedService⟩

end Run

end BatchMailer
