import BatchMailer.Proofs.Console.Framed
import BatchMailer.Proofs.Run.DryRun

/-!
# BatchMailer.Proofs.Run.Framed

What a dry run prints, line by line.

A sender that shows each request it is given as the console does (`Sender.Shows`) keeps in
step with the console on any other host (`flushing_inStep_showing`).  So the requests of a
dry run are those of its stream, whatever the clock of its host shows, and it has printed
their blocks, one behind the other.  Their addresses come from tokens of the stream, in which
no delimiter stands, so the blocks can be told apart in what was printed
(`framed_send`).
-/

namespace BatchMailer

/-! ## requests of a stream -/

namespace Wire

/-- The fields of a record are tokens of its input. -/
theorem mem_tokens_of_mem_entries {input : List UInt8} {e : Entry} (he : e ∈ entries input)
    {field : List UInt8} (hfield : field ∈ e.record.fields) : field ∈ tokens input := by
  obtain ⟨j, -, hj⟩ := List.mem_filterMap.1 he
  obtain ⟨r, hr, rfl⟩ := Option.map_eq_some_iff.1 hj
  have hgroup : field ∈ group input j := by
    rw [recordOf?_eq_some_iff.1 hr]
    exact List.mem_cons_of_mem _ hfield
  rw [tokens_eq]
  exact List.mem_append_left _ (List.mem_of_mem_drop (List.mem_of_mem_take hgroup))

/-- No text of a request for a lot of an input holds a newline. -/
theorem oneLine_of_mem_lots {input : List UInt8} {lot : Lot} (h : lot ∈ lots input) :
    lot.request.OneLine := by
  obtain ⟨line, -, hline⟩ := List.mem_flatMap.1 h
  obtain ⟨hrecords, -⟩ := Lot.eq_of_mem_ofKinds hline
  refine Request.oneLine_ofRecords fun r hr hnewline => ?_
  rw [hrecords] at hr
  obtain ⟨e, he, rfl⟩ := List.mem_map.1 (List.mem_of_mem_filter hr)
  have htoken : e.record.toAddress ∈ tokens input :=
    mem_tokens_of_mem_entries (List.mem_of_mem_filter he) List.mem_cons_self
  exact absurd (not_delimiter_of_mem_tokens htoken hnewline) (by decide)

end Wire

/-! ## senders that print blocks -/

/-- A sender that prints a block for each request and reports it as the console does. -/
def Sender.Shows {σ : Type} (send : Sender σ) (configurationSet source : String) : Prop :=
  ∀ a request, (send a request).result = .ok (Console.report request) ∧
    (send a request).printed = Console.block configurationSet source request

theorem shows_console {σ : Type} (configurationSet source : String) :
    (Console.sender configurationSet source : Sender σ).Shows configurationSet source :=
  fun _ _ => ⟨rfl, rfl⟩

theorem Sender.Shows.recording {σ : Type} {send : Sender σ} {configurationSet source : String}
    (h : send.Shows configurationSet source) : send.recording.Shows configurationSet source :=
  fun a request => h a.1 request

namespace Run

variable {σ τ : Type}

/-- Where a sender that prints blocks stands beside a recorded console on some host: it has
printed the requests that the console was given. -/
structure Showing (configurationSet source printed : String) (Q : σ → List Request → Prop)
    (sendState : SendState σ) (console : SendState (Unit × List Request)) : Prop where
  printed : sendState.host.printed =
    printed ++ blocks configurationSet source console.sender.2
  sender : Q sendState.sender console.sender.2

section

variable {send : Sender σ} {configurationSet source printed : String}
  {Q : σ → List Request → Prop}

/-- Such senders keep in step with the console, together with whatever each request
preserves. -/
theorem flushing_inStep_showing (hshows : send.Shows configurationSet source)
    (hQ : ∀ a sent request, Q a sent → Q (send a request).state (sent ++ [request]))
    (dir dir' : RawText) :
    (flushing send dir).InStep (Showing configurationSet source printed Q)
      (flushing (Console.sender configurationSet source : Sender Unit).recording dir') := by
  refine flushing_inStep fun request sendState console h => ?_
  obtain ⟨a, host⟩ := sendState
  obtain ⟨⟨b, sent⟩, host'⟩ := console
  obtain ⟨hresult, hprinted⟩ := hshows a request
  obtain ⟨d, statuses, hsendState⟩ :=
    Flush.dispatch_of_success send dir request a host hresult (success_report request)
  obtain ⟨d', statuses', hconsole⟩ := Flush.dispatch_of_success
    (Console.sender configurationSet source : Sender Unit).recording dir' request (b, sent) host' rfl
    (success_report request)
  refine ⟨d, d', _, _, hsendState, hconsole, ?_, hQ a sent request h.sender⟩
  have hbefore : host.readSteady.2.printed = printed ++ blocks configurationSet source sent :=
    h.printed
  have hsent : ((Console.sender configurationSet source : Sender Unit).recording (b, sent)
      request).state.2 = sent ++ [request] := rfl
  rw [Capture.printed_noteStatuses, Host.printed_print, hbefore, hprinted, hsent, blocks_concat,
    String.append_assoc]

end

/-! ## runs -/

theorem printed_finish (result : Except Fault Unit) (host : Host) :
    (finish result host).2.printed = host.printed := by
  obtain ⟨ending, entries, hends⟩ := finish_eq result
  rw [hends]

theorem printed_buildSender (build : Settings → BuiltSender σ) (s : Settings) (host : Host) :
    (buildSender build s host).2.printed = host.printed := by
  rw [buildSender]
  split <;> rfl

/-- A run with a sender that prints blocks has printed those of the requests that a console
was given over the same stream, whatever the host of this console. -/
theorem showing_send (build : Settings → BuiltSender σ) {s : Settings} {host : Host}
    (hmade : (host.files.ensureDirectories s.outputDir).1 = .ok ())
    (hshows : (build s).send.Shows s.configurationSet s.source) (Q : σ → List Request → Prop)
    (hstart : Q (build s).state [])
    (hQ : ∀ a sent request, Q a sent → Q ((build s).send a request).state (sent ++ [request]))
    {pieces : List Piece} {console : Host} {dir : RawText} {result : Except Fault Unit} {t : Intake}
    {requests : List Request} {after : Host}
    (hfeed : feed (flushing (Console.sender s.configurationSet s.source).recording dir)
      (delivered pieces).bytes (.new Store.defaultCapacity) ⟨((), []), console⟩ =
        ⟨result, t, ⟨((), requests), after⟩⟩) :
    (send build (.ok s) pieces host).host.printed =
        host.printed ++ blocks s.configurationSet s.source requests ∧
      ∃ a ∈ (send build (.ok s) pieces host).sender, Q a requests := by
  obtain ⟨files, hdir⟩ : ∃ files, host.files.ensureDirectories s.outputDir =
    (.ok (), files) := ⟨_, Prod.ext hmade rfl⟩
  have hbegin : Showing s.configurationSet s.source host.printed Q
      ⟨(build s).state, (buildSender build s { host.info s.summary with files }).2⟩
      ⟨((), []), console⟩ := by
    refine ⟨?_, hstart⟩
    rw [printed_buildSender]
    exact String.append_empty.symm
  have hstep := feed_inStep (flushing_inStep_showing hshows hQ s.outputDir dir)
    (delivered pieces).bytes (.new Store.defaultCapacity) hbegin
  rw [hfeed] at hstep
  obtain ⟨hsender, hfinish⟩ := send_of_pump build hdir pieces
  rw [pump_delivered _ (by decide), state_conclude] at hsender hfinish
  have hprinted := congrArg (·.2.printed) hfinish
  rw [printed_finish] at hprinted
  exact ⟨hprinted.trans hstep.state.printed, _, hsender, hstep.state.sender⟩

/-- There is a host whose wall clock shows UTC. -/
theorem exists_inUtc : ∃ h : Host, h.InUtc :=
  ⟨.start ⟨⟨⟨2024, 2, 29⟩, 12, 30, 0, 0, 0⟩, []⟩ ⟨.nan, []⟩ .fresh,
    Host.inUtc_start (by decide) _ _⟩

/-- **No field can break the lines of a dry run.**  Let a configuration with the debug switch
on have neither a configuration set nor a source with a newline in it.  Over any stream, with
whatever bytes in its fields, the requests of the run are those for the lots of the lines
that end in the longest accepted front part of the stream, or none if the output directory
cannot be made.  What is printed is one block for each request, in order, each with as many
newlines as there are destinations and seven more: six lines of heading, a line for each
destination with its number, address and data, and an empty line.  No other line is empty, so
the blocks are read back by cutting what is printed at its empty lines. -/
theorem framed_send (service : Ses.Service τ) (start : τ) (s : Settings) (hdebug : s.debug = true)
    (hset : '\n' ∉ s.configurationSet.toList) (hsource : '\n' ∉ s.source.toList)
    (pieces : List Piece) (host : Host) :
    ∃ front requests text,
      front <+: (delivered pieces).bytes ∧
      (∀ p, p <+: (delivered pieces).bytes → (Wire.AcceptedByLine 10 p ↔ p <+: front)) ∧
      requests = (if (host.files.ensureDirectories s.outputDir).1 = .ok () then
        (Wire.lots front).map Lot.request else []) ∧
      ((send (fun s => (selected service start s).recording) (.ok s) pieces host).sender.map
        Prod.snd).getD [] = requests ∧
      (send (selected service start) (.ok s) pieces host).host.printed = host.printed ++ text ∧
      text = String.join (requests.map (Console.block s.configurationSet s.source)) ∧
      (∀ request ∈ requests,
        Console.Framed request (Console.shownLines s.configurationSet s.source request)
          (Console.block s.configurationSet s.source request)) ∧
      Console.cutBlocks text = requests.map (Console.block s.configurationSet s.source) := by
  -- which requests there are is known of hosts that show UTC, so a console is put on one
  obtain ⟨console, hutc⟩ := exists_inUtc
  have hanswers : (Console.sender s.configurationSet s.source : Sender Unit).Answers :=
    fun _ _ => Outcome.fits_delivered _
  have hempty : Wire.AcceptedByLine 10 [] := Wire.acceptedByLine_nil
  obtain ⟨front, back, result, t, b, after, hsplit, hfront, hfeed, hstop, -⟩ :=
    feed_flushing hanswers (RawText.isPath_ofString.2 (by decide : '\x00' ∉ "".toList))
      (delivered pieces).bytes [] hempty () hutc
  rw [List.nil_append] at hfront hfeed hstop
  have hlongest : ∀ p, p <+: (delivered pieces).bytes →
      (Wire.AcceptedByLine 10 p ↔ p <+: front) := by
    intro p hp
    rw [hsplit] at hp
    exact Wire.acceptedByLine_iff_of_stop hfront hstop hp
  have honeLine : ∀ request ∈ (Wire.lots front).map Lot.request, request.OneLine := by
    intro request hrequest
    obtain ⟨lot, hlot, rfl⟩ := List.mem_map.1 hrequest
    exact Wire.oneLine_of_mem_lots hlot
  by_cases hmade : (host.files.ensureDirectories s.outputDir).1 = .ok ()
  · have hshows : (selected service start s).send.Shows s.configurationSet s.source := by
      rw [selected, if_pos hdebug]
      exact shows_console _ _
    obtain ⟨hprinted, -⟩ := showing_send (selected service start) hmade hshows (fun _ _ => True)
      trivial (fun _ _ _ _ => trivial) hfeed
    obtain ⟨-, last, hlast, hsent⟩ := showing_send
      (fun s => (selected service start s).recording) hmade hshows.recording
      (fun a sent => a.2 = sent) rfl (fun a sent request ha => congrArg (· ++ [request]) ha) hfeed
    refine ⟨front, _, _, ⟨back, hsplit.symm⟩, hlongest, (if_pos hmade).symm, ?_, hprinted, rfl,
      fun request hrequest => Console.framed_block hset hsource (honeLine request hrequest),
      Console.cutBlocks_join hset hsource honeLine⟩
    rw [Option.mem_def.1 hlast]
    exact hsent
  · obtain ⟨_, _, _, hsend⟩ := send_of_not_made (selected service start) hmade pieces
    obtain ⟨_, _, _, hsend'⟩ := send_of_not_made
      (fun s => (selected service start s).recording) hmade pieces
    refine ⟨front, [], "", ⟨back, hsplit.symm⟩, hlongest, (if_neg hmade).symm, ?_, ?_, rfl,
      fun request hrequest => absurd hrequest List.not_mem_nil, by rfl⟩
    · rw [hsend']
      rfl
    · rw [hsend]
      exact String.append_empty.symm

/-- An overlong newline, a carriage return, a quote and half a sequence in the fields of two
records: two blocks with one destination each. -/
theorem framed_send_hostile :
    let host := Host.start ⟨⟨⟨2024, 2, 29⟩, 12, 30, 0, 0, 0⟩, []⟩ ⟨.nan, []⟩ .fresh
    let s : Settings := ⟨true, "set", "source", "out", [], none, none, .nan, .nan⟩
    let line := [0x31, 0x2C, 0xC0, 0x8A, 0x2C, 0x0D, 0x22, 0x2C, 0x5C, 0x2C, 0x0B, 0x2C,
      0x32, 0x2C, 0xE2, 0x80, 0x2C, 0x0D, 0x2C, 0xA8, 0x2C, 0x00, 0x0A]
    ∃ first second,
      (send (selected Ses.scriptedService []) (.ok s) [.bytes line] host).host.printed =
        Console.block "set" "source" first ++ Console.block "set" "source" second ∧
      Console.cutBlocks (Console.block "set" "source" first ++
          Console.block "set" "source" second) =
        [Console.block "set" "source" first, Console.block "set" "source" second] ∧
      (Console.block "set" "source" first).toList.count '\n' = 8 ∧
      (Console.block "set" "source" second).toList.count '\n' = 8 := by
  intro host s line
  have hmade : (host.files.ensureDirectories "out").1 = .ok () :=
    congrArg Prod.fst FileTree.ensureDirectories_fresh
  obtain ⟨front, requests, text, hfront, haccepted, hrequests, -, hprinted, rfl, hframed, hcut⟩ :=
    framed_send Ses.scriptedService [] s rfl (by decide) (by decide) [.bytes line] host
  have htaken := (haccepted line (by decide)).1 (by decide)
  obtain rfl : front = line := hfront.eq_of_length_le htaken.length_le
  obtain ⟨a, b, hlots⟩ := List.length_eq_two.1 (show (Wire.lots line).length = 2 by decide)
  have hone : ∀ lot ∈ Wire.lots line, lot.records.length = 1 := by decide
  have hnewlines : ∀ lot ∈ Wire.lots line,
      (Console.block "set" "source" lot.request).toList.count '\n' = 8 := by
    intro lot hlot
    rw [if_pos hmade] at hrequests
    rw [(hframed lot.request (hrequests ▸ List.mem_map_of_mem hlot)).newlines, Lot.request,
      Request.length_destinations_ofRecords, hone lot hlot]
  rw [if_pos hmade, hlots] at hrequests
  rw [hlots] at hnewlines
  have hjoin : String.join (requests.map (Console.block s.configurationSet s.source)) =
      Console.block "set" "source" a.request ++ Console.block "set" "source" b.request := by
    rw [hrequests]
    simp [String.join, s]
  rw [hjoin] at hprinted hcut
  refine ⟨a.request, b.request, ?_, ?_, hnewlines a (by simp), hnewlines b (by simp)⟩
  · rw [hprinted]
    exact String.empty_append
  · rw [hcut, hrequests]
    rfl

end Run

end BatchMailer
