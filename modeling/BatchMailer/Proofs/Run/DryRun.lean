import BatchMailer.Proofs.Flush.InTurn
import BatchMailer.Proofs.Run.Dispatch
import BatchMailer.Proofs.Settings.Switched
import BatchMailer.Proofs.Stream.Delivery

/-!
# BatchMailer.Proofs.Run.DryRun

A dry run beside the run it stands for.

A request that is sent with success leaves nothing behind but entries that are no
errors.  So the console of a dry run and a sender that always succeeds keep in
step: the requests that the one is given are printed by the other
(`flushing_inStep_console`).  Both runs then end for the same reason
(`shows_of_debug`), whichever way the switch was turned on (`shows_send`).
-/

namespace BatchMailer

/-! ## senders that succeed -/

/-- A report that a request was carried out, with listed statuses. -/
def Outcome.Success (o : Outcome) : Prop := o.standing = .success ∧ o.Listed

/-- A sender that answers each request, from a state on, with success. -/
def Sender.Succeeds {σ : Type} (send : Sender σ) (a : σ) : Prop :=
  ∀ requests answer, answer ∈ send.answers a requests → ∃ o, answer = .ok o ∧ o.Success

section

variable {σ : Type} {send : Sender σ} {a : σ}

theorem Sender.Succeeds.next (h : send.Succeeds a) (request : Request) :
    send.Succeeds (send a request).state := fun requests answer hanswer =>
  h (request :: requests) answer (List.mem_cons_of_mem _ hanswer)

theorem Sender.Succeeds.result (h : send.Succeeds a) (request : Request) :
    ∃ o, (send a request).result = .ok o ∧ o.Success :=
  h [request] _ List.mem_cons_self

/-- A script that is used up is followed by success. -/
theorem succeeds_scripted_nil : scripted.Succeeds [] := by
  intro requests
  induction requests with
  | nil => exact fun answer hanswer => absurd hanswer List.not_mem_nil
  | cons request rest ih =>
      intro answer hanswer
      obtain rfl | hrest := List.mem_cons.1 hanswer
      · exact ⟨allServed request, rfl, Outcome.standing_delivered _, trivial⟩
      · exact ih answer hrest

theorem success_report (request : Request) : (Console.report request).Success :=
  ⟨Outcome.standing_delivered _, trivial⟩

end

/-! ## entries that are no errors -/

/-- The errors in the log of a host. -/
def Host.errors (h : Host) : List Log.Entry := h.log.filter (·.severity = .error)

/-- What is logged as information is no error. -/
@[simp] theorem Host.errors_note_info (h : Host) (message : Option RawText) :
    (h.note .info message).errors = h.errors := by
  simp [errors]

@[simp] theorem Host.errors_print (h : Host) (text : String) :
    (h.print text).errors = h.errors := rfl

namespace Capture

section

variable (kind : Kind) (first : Nat) (statuses : List Value) (h : Host)

@[simp] theorem printed_noteStatuses :
    (noteStatuses kind first statuses h).printed = h.printed := by
  induction statuses generalizing first h with
  | nil => rfl
  | cons status rest ih => exact ih _ _

/-- Statuses are logged, but not as errors. -/
@[simp] theorem errors_noteStatuses : (noteStatuses kind first statuses h).errors = h.errors := by
  induction statuses generalizing first h with
  | nil => rfl
  | cons status rest ih => rw [noteStatuses, ih, Host.errors_note_info]

end

end Capture

/-- A request that is sent with success is settled by logging its statuses. -/
theorem Flush.dispatch_of_success {σ : Type} (send : Sender σ) (dir : RawText) (request : Request)
    (a : σ) (h : Host) {o : Outcome} (hresult : (send a request).result = .ok o) (ho : o.Success) :
    ∃ d statuses, dispatch send dir request ⟨a, h⟩ = (.ok d, ⟨(send a request).state,
      Capture.noteStatuses request.kind 0 statuses
        (h.readSteady.2.print (send a request).printed)⟩) := by
  have hreported : reported (send a request).result = some o := by rw [hresult, reported]
  have hdispatch := dispatch_of_reported (o := ⟨a, h⟩) dir hreported
  obtain ⟨statuses, hstatuses⟩ := Capture.destinationStatuses_of_listed ho.2
  simp only [Capture.settle, ho.1, hstatuses] at hdispatch
  exact ⟨_, statuses, hdispatch⟩

namespace Run

variable {σ τ : Type}

/-! ## side by side -/

/-- Dispatches that come to their ends side by side make flushes that are in step. -/
theorem flushing_inStep {send : Sender σ} {send' : Sender τ} {dir dir' : RawText}
    {R : SendState σ → SendState τ → Prop}
    (hdispatch : ∀ request o o', R o o' → ∃ d d' p p',
      Flush.dispatch send dir request o = (.ok d, p) ∧
      Flush.dispatch send' dir' request o' = (.ok d', p') ∧ R p p') :
    (flushing send dir).InStep R (flushing send' dir') := by
  have hall : ∀ requests o o', R o o' → ∃ p p',
      Flush.dispatchAll send dir requests o = (.ok (), p) ∧
      Flush.dispatchAll send' dir' requests o' = (.ok (), p') ∧ R p p' := by
    intro requests
    induction requests with
    | nil => exact fun o o' h => ⟨o, o', rfl, rfl, h⟩
    | cons request rest ih =>
        intro o o' h
        obtain ⟨d, d', o₁, o₁', hfirst, hfirst', h₁⟩ := hdispatch request o o' h
        obtain ⟨p, p', hrest, hrest', h₂⟩ := ih o₁ o₁' h₁
        refine ⟨p, p', ?_, ?_, h₂⟩
        · rw [Flush.dispatchAll, hfirst]
          exact hrest
        · rw [Flush.dispatchAll, hfirst']
          exact hrest'
  intro d store o o' h
  obtain ⟨p, p', hsent, hsent', h'⟩ := hall store.requests o o' h
  obtain ⟨left, hflush, hleft⟩ := flushing_eq send dir d store o
  obtain ⟨left', hflush', hleft'⟩ := flushing_eq send' dir' d store o'
  rw [hsent] at hflush hleft
  rw [hsent'] at hflush' hleft'
  rw [hleft rfl] at hflush
  rw [hleft' rfl] at hflush'
  exact ⟨.ok (), store.clearAll, p, p', hflush, hflush', h'⟩

/-- The blocks of requests, as a dry run prints them. -/
def blocks (configurationSet source : String) (requests : List Request) : String :=
  String.join (requests.map (Console.block configurationSet source))

/-- A block for records has six lines in front of its destinations: a mark, the template of
their kind, the configuration set, the source, what the template falls back on, and how
many records there are. -/
theorem take_blockLines_ofRecords (configurationSet source : String) (kind : Kind)
    (records : List Record) :
    (Console.blockLines configurationSet source (.ofRecords kind records)).take 6 =
      match kind with
      | .activation =>
        ["[BULK EMAIL]",
          "template=activationv1",
          "configuration_set=" ++ configurationSet,
          "source=" ++ source,
          "default_template_data=\x7b\"login\":\"\",\"secret\":\"\"\x7d",
          "destinations=" ++ toString records.length]
      | .passwordRecovery =>
        ["[BULK EMAIL]",
          "template=passwordrecoveryv1",
          "configuration_set=" ++ configurationSet,
          "source=" ++ source,
          "default_template_data=\x7b\"login\":\"\",\"secret\":\"\",\"code\":\"\"\x7d",
          "destinations=" ++ toString records.length] := by
  have hcount : (Request.ofRecords kind records).destinations.length = records.length :=
    Request.length_destinations_ofRecords kind records
  have hactivation : Kind.activation.defaultTemplateData =
      "\x7b\"login\":\"\",\"secret\":\"\"\x7d" := rfl
  have hrecovery : Kind.passwordRecovery.defaultTemplateData =
      "\x7b\"login\":\"\",\"secret\":\"\",\"code\":\"\"\x7d" := rfl
  rw [Console.blockLines, Console.heading, hcount]
  cases kind with
  | activation => simp [Request.ofRecords, Kind.template, hactivation]
  | passwordRecovery => simp [Request.ofRecords, Kind.template, hrecovery]

theorem blocks_concat (configurationSet source : String) (requests : List Request)
    (request : Request) : blocks configurationSet source (requests ++ [request]) =
      blocks configurationSet source requests ++ Console.block configurationSet source request := by
  rw [blocks, List.map_append, String.join_append, blocks, List.map_singleton]
  rfl

/-- Where a dry run stands beside a run whose sender succeeds: its own sender has
not been used, it has written no file, it has printed the requests that were
sent, and both have logged the same errors. -/
structure Abreast (send : Sender σ) (start : Ses.State τ) (s : Settings) (files : FileTree)
    (printed : String) (dry : SendState (Ses.State τ)) (live : SendState (σ × List Request)) : Prop where
  sender : dry.sender = start
  files : dry.host.files = files
  printed : dry.host.printed =
    printed ++ blocks s.configurationSet s.source live.sender.2
  errors : dry.host.errors = live.host.errors
  succeeds : send.Succeeds live.sender.1

section

variable {send : Sender σ} {start : Ses.State τ} {s : Settings} {files : FileTree}
  {printed : String}

/-- What is printed for a request is what is sent. -/
theorem Abreast.dispatch {dry : SendState (Ses.State τ)} {live : SendState (σ × List Request)}
    (h : Abreast send start s files printed dry live) (dir dir' : RawText) (request : Request) :
    ∃ d d' dry' live',
      Flush.dispatch (Console.sender s.configurationSet s.source) dir request dry = (.ok d, dry') ∧
      Flush.dispatch send.recording dir' request live = (.ok d', live') ∧
      Abreast send start s files printed dry' live' := by
  obtain ⟨a, host⟩ := dry
  obtain ⟨⟨b, sent⟩, host'⟩ := live
  obtain ⟨o, hresult, ho⟩ := h.succeeds.result request
  obtain ⟨d, statuses, hdry⟩ := Flush.dispatch_of_success
    (Console.sender s.configurationSet s.source) dir request a host rfl (success_report request)
  obtain ⟨d', statuses', hlive⟩ := Flush.dispatch_of_success send.recording dir' request (b, sent)
    host' hresult ho
  refine ⟨_, _, _, _, hdry, hlive, h.sender, ?_, ?_, ?_, h.succeeds.next request⟩
  · rw [Capture.files_noteStatuses]
    exact h.files
  · have hbefore : host.readSteady.2.printed = printed ++ blocks s.configurationSet s.source sent :=
      h.printed
    have hsent : (send.recording (b, sent) request).state.2 = sent ++ [request] := rfl
    rw [Capture.printed_noteStatuses, Host.printed_print, hbefore, hsent, blocks_concat,
      String.append_assoc]
    rfl
  · rw [Capture.errors_noteStatuses, Capture.errors_noteStatuses]
    exact h.errors

/-- The console keeps in step with a sender that succeeds. -/
theorem flushing_inStep_console (dir dir' : RawText) :
    (flushing (Console.sender s.configurationSet s.source) dir).InStep
      (Abreast send start s files printed) (flushing send.recording dir') :=
  flushing_inStep fun request _ _ h => h.dispatch dir dir' request

end

/-! ## runs -/

/-- A dry run that shows what another run sends: it sets up no client, makes no
call and writes no file, it prints the requests of the other run, and it ends as
that one does, with the same errors. -/
structure Report.Shows (dry : Report (Ses.State τ)) (start : τ) (s : Settings) (host : Host)
    (live : Report (σ × List Request)) : Prop where
  client : dry.client = none
  sender : ∀ state ∈ dry.sender, state = .start start
  files : dry.host.files = (host.files.ensureDirectories s.outputDir).2
  printed : dry.host.printed = host.printed ++
    blocks s.configurationSet s.source ((live.sender.map Prod.snd).getD [])
  ending : dry.ending = live.ending
  errors : dry.host.errors = live.host.errors

/-- A client that is set up is no error. -/
theorem errors_buildSender (build : Settings → BuiltSender σ) (s : Settings) (host : Host) :
    (buildSender build s host).2.errors = host.errors := by
  rw [buildSender]
  split
  · rfl
  · exact host.errors_note_info _

/-- A run that does not begin shows nothing, in debug mode or not. -/
theorem shows_of_error (service : Ses.Service τ) (start : τ) (build : Settings → BuiltSender σ)
    {s : Settings} {host : Host} {e : FileError} {files : FileTree}
    (hmade : host.files.ensureDirectories s.outputDir = (.error e, files))
    (pieces pieces' : List Piece) :
    (send (selected service start) (.ok s) pieces host).Shows start s host
      (send (fun s => (build s).recording) (.ok s.live) pieces' host) := by
  have hmade' : host.files.ensureDirectories s.live.outputDir = (.error e, files) := hmade
  have hnothing : host.printed ++ blocks s.configurationSet s.source [] = host.printed :=
    String.append_empty
  by_cases hrefused : ∃ cause path, e = .refused cause path
  · obtain ⟨cause, path, rfl⟩ := hrefused
    rw [send_of_refused _ hmade, send_of_refused _ hmade']
    refine ⟨rfl, by simp, by rw [hmade], hnothing.symm, rfl, ?_⟩
    simp [Host.errors, Settings.live]
  · have hmisuse : ∀ cause path, e ≠ .refused cause path :=
      fun cause path he => hrefused ⟨cause, path, he⟩
    rw [send_of_misuse _ hmisuse hmade, send_of_misuse _ hmisuse hmade']
    refine ⟨rfl, by simp, by rw [hmade], hnothing.symm, rfl, ?_⟩
    simp [Host.errors]

/-- Two runs that are abreast when their streams are taken in end alike. -/
theorem Abreast.shows {send : Sender σ} {start : τ} {s : Settings} {host : Host}
    {dry : Report (Ses.State τ)} {live : Report (σ × List Request)}
    {p : Progress (SendState (Ses.State τ))} {q : Progress (SendState (σ × List Request))}
    {files : FileTree} (hfiles : (host.files.ensureDirectories s.outputDir).2 = files)
    (h : Abreast send (.start start) s files host.printed p.state q.state)
    (hresult : p.result = q.result)
    (hclient : dry.client = none) (hsender : dry.sender = some p.state.sender)
    (hfinish : (dry.ending, dry.host) = finish p.result p.state.host)
    (hsender' : live.sender = some q.state.sender)
    (hfinish' : (live.ending, live.host) = finish q.result q.state.host) :
    dry.Shows start s host live := by
  obtain ⟨ending, entries, hends⟩ := finish_eq p.result
  rw [hends] at hfinish
  rw [← hresult, hends] at hfinish'
  obtain ⟨hending, hhost⟩ := Prod.mk.inj hfinish
  obtain ⟨hending', hhost'⟩ := Prod.mk.inj hfinish'
  have herrors : p.state.host.log.filter (·.severity = .error) =
      q.state.host.log.filter (·.severity = .error) := h.errors
  refine ⟨hclient, ?_, ?_, ?_, hending.trans hending'.symm, ?_⟩
  · simp [hsender, h.sender]
  · rw [hhost, hfiles]
    exact h.files
  · rw [hhost, hsender']
    exact h.printed
  · rw [hhost, hhost', Host.errors, Host.errors, List.filter_append, List.filter_append, herrors]

/-- In debug mode a run shows what it would send otherwise, if that were sent with
success. -/
theorem shows_of_debug (service : Ses.Service τ) (start : τ) (build : Settings → BuiltSender σ)
    {s : Settings} (hdebug : s.debug = true) {pieces pieces' : List Piece}
    (hsame : delivered pieces = delivered pieces') (host : Host)
    (hsend : (build s.live).send.Succeeds (build s.live).state) :
    (send (selected service start) (.ok s) pieces host).Shows start s host
      (send (fun s => (build s).recording) (.ok s.live) pieces' host) := by
  cases hmade : host.files.ensureDirectories s.outputDir with
  | mk result files =>
      cases result with
      | error e => exact shows_of_error service start build hmade pieces pieces'
      | ok _ =>
          have hselected : selected service start s =
              ⟨Console.sender s.configurationSet s.source, .start start, none⟩ := by
            simp [selected, hdebug]
          obtain ⟨hsender, hfinish⟩ := send_of_pump (selected service start) hmade pieces
          obtain ⟨hsender', hfinish'⟩ := send_of_pump (fun s => (build s).recording)
            (s := s.live) hmade pieces'
          have hclient := client_send (selected service start) hmade pieces
          rw [pump_delivered _ (by decide)] at hsender hfinish hsender' hfinish'
          rw [hselected] at hsender hfinish hclient
          have hquiet : (buildSender (selected service start) s { host.info s.summary with files }).2 =
              { host.info s.summary with files } := by
            simp only [buildSender, hselected]
          rw [hquiet] at hsender hfinish
          have hbegin : Abreast (build s.live).send (.start start) s files
              host.printed ⟨.start start, { host.info s.summary with files }⟩
              ⟨((build s.live).state, []),
                (buildSender (fun s => (build s).recording) s.live
                  { host.info s.live.summary with files }).2⟩ := by
            refine ⟨rfl, rfl, by simp [blocks, String.join, Host.info], ?_, hsend⟩
            rw [errors_buildSender]
            exact (host.errors_note_info _).trans (host.errors_note_info _).symm
          obtain ⟨hresult, -, hstate⟩ := (feed_inStep
            (flushing_inStep_console s.outputDir s.outputDir) (delivered pieces).bytes
            (.new Store.defaultCapacity) hbegin).andThen (delivered pieces).conclude_inStep
          rw [← hsame] at hsender' hfinish'
          exact hstate.shows (congrArg Prod.snd hmade) hresult hclient hsender hfinish hsender'
            hfinish'

/-- **A dry run shows exactly what would be sent.**  Let a configuration with the
debug switch on be one that can be used, and let a sender answer every request
with success.  A dry run then sets up no client, calls no service and writes no
file; it prints the requests that the sender would be given on the same stream,
however each is delivered, if the switch were off, and it ends as that run does,
with the same errors.  It does not matter whether the switch is on in the
settings, by its variable, or by the option for it, which wins over whatever the
environment and a file of assignments say. -/
theorem shows_send (service : Ses.Service τ) (start : τ) (build : Settings → BuiltSender σ)
    (s : Settings) (hdebug : s.debug = true)
    (hsend : (build s.live).send.Succeeds (build s.live).state) (pieces pieces' : List Piece)
    (hsame : delivered pieces = delivered pieces') (host : Host) :
    let dry (settings : Except SettingsError Settings) :=
      send (selected service start) settings pieces host
    let live (settings : Except SettingsError Settings) :=
      send (fun s => (build s).recording) settings pieces' host
    (dry (.ok s)).Shows start s host (live (.ok s.live)) ∧
    (∀ on off : Environment, on.SameButDebug off → Settings.load on = .ok s →
      off.bool Settings.debugVariable false = .ok false →
        (dry (Settings.load on)).Shows start s host (live (Settings.load off))) ∧
    ∀ (arguments : List String) (o : CommandLine.Options) (e loaded off : Environment) (level : Nat),
      CommandLine.Options.parse arguments = .ok o → o.envFile.load host.files e = .ok loaded →
      CommandLine.threshold o.logLevel loaded = .ok level →
      loaded.SameButDebug off → Settings.load off = .ok s.live →
        ("--debug" ∈ arguments → o.debug = true) ∧
        (o.debug = true → ∃ report : Report (Ses.State τ),
          CommandLine.send service start arguments e pieces host =
            CommandLine.finished host.wall.now level report.ending report.host ∧
          report.Shows start s host (live (Settings.load off))) := by
  intro dry live
  have hshows : (dry (.ok s)).Shows start s host (live (.ok s.live)) :=
    shows_of_debug service start build hdebug hsame host hsend
  refine ⟨hshows, fun on off hboth hon hoff => ?_, ?_⟩
  · have hlive : Settings.load off = .ok s.live := Settings.load_of_same hboth hoff hon
    rw [hon, hlive]
    exact hshows
  · intro arguments o e loaded off level hparse hload hlevel hboth hoff
    refine ⟨CommandLine.debug_of_mem_arguments hparse, fun ho => ⟨dry (.ok s), ?_, ?_⟩⟩
    · have hback : off.SameButDebug (loaded.set Settings.debugVariable "true") := by
        intro name hname
        rw [Environment.get?_set, if_neg hname, hboth name hname]
      have hon := Settings.load_of_same hback loaded.bool_set_debug hoff
      rw [Settings.live_debug hdebug] at hon
      rw [CommandLine.send, CommandLine.plan_of_debug hparse ho hload hlevel, hon]
    · rw [hoff]
      exact hshows

/-- With the option, a stream in two pieces is shown although the environment turns
the switch off. -/
theorem shows_send_option :
    let host := Host.start ⟨⟨⟨2024, 2, 29⟩, 12, 30, 0, 0, 0⟩, []⟩ ⟨.nan, []⟩ .fresh
    ∃ (s : Settings) (report : Report (Ses.State (List Ses.ScriptedCall))),
      s.debug = true ∧
      CommandLine.send Ses.scriptedService [] ["--debug"] ⟨[("MF_DEBUG", "no")]⟩
          [.bytes [0x31, 0x2C, 0x61, 0x2C, 0x62, 0x2C],
            .bytes [0x63, 0x2C, 0x64, 0x0A, 0x32]] host =
        CommandLine.finished host.wall.now 20 report.ending report.host ∧
      report.Shows [] s host (send (fun s => (given scripted [] s).recording)
        (Settings.load ⟨[("MF_DEBUG", "0")]⟩)
        [.bytes [0x31, 0x2C, 0x61, 0x2C, 0x62, 0x2C, 0x63, 0x2C, 0x64, 0x0A, 0x32]] host) := by
  intro host
  have hok : (Settings.load ⟨[("MF_DEBUG", "0")]⟩).isOk = true := by decide +kernel
  cases hoff : Settings.load ⟨[("MF_DEBUG", "0")]⟩ with
  | error e =>
      rw [hoff] at hok
      contradiction
  | ok t =>
      have hbool : (Environment.mk [("MF_DEBUG", "0")]).bool Settings.debugVariable false =
          .ok false := by decide
      have hdebug : t.debug = false :=
        Except.ok.inj ((Settings.eq_of_load hoff).1.symm.trans hbool)
      have hlive : ({ t with debug := true } : Settings).live = t := by rw [Settings.live, ← hdebug]
      have hboth : (Environment.mk [("MF_DEBUG", "no")]).SameButDebug ⟨[("MF_DEBUG", "0")]⟩ := by
        intro name hname
        have hne : "MF_DEBUG" ≠ name := hname.symm
        simp [Environment.get?, Environment.valueAt, hne]
      have hsame : delivered [.bytes [0x31, 0x2C, 0x61, 0x2C, 0x62, 0x2C],
            .bytes [0x63, 0x2C, 0x64, 0x0A, 0x32]] =
          delivered [.bytes [0x31, 0x2C, 0x61, 0x2C, 0x62, 0x2C, 0x63, 0x2C, 0x64, 0x0A, 0x32]] := by
        decide
      obtain ⟨-, -, hoption⟩ := shows_send Ses.scriptedService [] (given scripted [])
        { t with debug := true } rfl succeeds_scripted_nil _ _ hsame host
      obtain ⟨hin, hshows⟩ := hoption ["--debug"] ⟨.unset, true, none⟩ ⟨[("MF_DEBUG", "no")]⟩
        ⟨[("MF_DEBUG", "no")]⟩ ⟨[("MF_DEBUG", "0")]⟩ 20 (by decide) rfl (by decide) hboth
        (by rw [hlive, hoff])
      obtain ⟨report, hsend, hreport⟩ := hshows (hin List.mem_cons_self)
      rw [hoff] at hreport
      exact ⟨{ t with debug := true }, report, rfl, hsend, hreport⟩

end Run

end BatchMailer
