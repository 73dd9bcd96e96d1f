import BatchMailer.Proofs.Run.Lots
import BatchMailer.Proofs.Stream.Notes
import BatchMailer.Run

/-!
# BatchMailer.Proofs.Run.Dispatch

Which requests a sending run makes.

While bytes are accepted, the decoder stands where they leave it, the batches
hold the records of the current line, and the sender was given the lots of all
lines in front of it (`feed_flushing`).  The first byte that is not accepted ends
the run, and so does the end of the stream.
-/

namespace BatchMailer

namespace Wire

/-- Where an accepted input leaves decoder and store when each line was flushed. -/
def stateOnLine (capacity : Nat) (input : List UInt8) : Intake where
  decoder := decoderAfter input
  store := .holding capacity (closedOn input (input.count lineFeed))

section

variable {capacity : Nat} {input : List UInt8} {b : UInt8}

/-- A byte may follow an accepted input, and then the current line gets the record
it completes, or it is refused as malformed. -/
theorem consume_of_acceptedByLine_cases (h : AcceptedByLine capacity input) (b : UInt8) :
    (AcceptedByLine capacity (input ++ [b]) ∧ (stateOnLine capacity input).consume b =
      (.ok (eventOf b), ⟨decoderAfter (input ++ [b]), .holding capacity
        (closedOn input (input.count lineFeed) ++ (completed? input b).toList)⟩)) ∨
    (¬ AcceptedByLine capacity (input ++ [b]) ∧ ∃ e t,
      (stateOnLine capacity input).consume b = (.error e, t) ∧ e.cause = .malformedInput) := by
  obtain ⟨e, hrefusal, hconsume⟩ | ⟨hfits, kind, hlt, hconsume⟩ | ⟨hfits, hroom, hconsume⟩ :=
    consume_holding_cases h.fits b (h.room (input.count lineFeed))
  · have hrefused : ¬ Fits (input ++ [b]) := not_fits_of_refusal h.fits hrefusal
    exact .inr ⟨fun hnext => hrefused hnext.fits, e, _, hconsume, cause_of_refusal hrefusal⟩
  · refine .inr ⟨fun hnext => ?_, _, _, hconsume, rfl⟩
    exact Nat.not_le.2 hlt ((acceptedByLine_append_iff h hfits).1 hnext kind)
  · exact .inl ⟨(acceptedByLine_append_iff h hfits).2 hroom, hconsume⟩

theorem stateOnLine_append_of_ne (hb : b ≠ lineFeed) :
    stateOnLine capacity (input ++ [b]) = ⟨decoderAfter (input ++ [b]),
      .holding capacity (closedOn input (input.count lineFeed) ++ (completed? input b).toList)⟩ := by
  have hcount : (input ++ [b]).count lineFeed = input.count lineFeed := by
    rw [List.count_append, List.count_singleton, if_neg (by simpa using hb), Nat.add_zero]
  rw [stateOnLine, hcount, closedOn_append, if_pos rfl]

/-- Nothing belongs to a line that has just begun. -/
theorem stateOnLine_append_lineFeed :
    stateOnLine capacity (input ++ [lineFeed]) =
      ⟨decoderAfter (input ++ [lineFeed]), .holding capacity []⟩ := by
  have hcount : (input ++ [lineFeed]).count lineFeed = input.count lineFeed + 1 := by
    rw [List.count_append, List.count_singleton_self]
  have hnone : closedOn (input ++ [lineFeed]) (input.count lineFeed + 1) = [] := by
    rw [closedOn_append, if_neg (Nat.succ_ne_self _), List.append_nil]
    exact closedOn_of_lt input (Nat.lt_succ_self _)
  rw [stateOnLine, hcount, hnone]

end

end Wire

namespace Run

variable {σ : Type}

/-- The same sender, which keeps the requests it was given. -/
def BuiltSender.recording (built : BuiltSender σ) : BuiltSender (σ × List Request) where
  send := built.send.recording
  state := (built.state, [])
  client := built.client

/-- A line that is flushed without a fault leaves empty batches. -/
theorem flushing_recording {send : Sender σ} (hsend : send.Answers) {dir : RawText}
    (hdir : dir.IsPath) (capacity : Nat) (records : List Record) (d : Decoder) (a : σ)
    (sent : List Request) {h : Host} (hutc : h.InUtc) :
    ∃ b after, flushing send.recording dir d (.holding capacity records) ⟨(a, sent), h⟩ =
      (.ok (), .holding capacity [], ⟨(b, sent ++ (Lot.ofRecords records).map Lot.request), after⟩) ∧
      after.InUtc := by
  obtain ⟨ds, b, after, hflush, hafter⟩ :=
    Flush.flush_recording hsend hdir capacity records a sent hutc
  refine ⟨b, after, ?_, hafter⟩
  rw [flushing, hflush]
  rfl

/-- An accepted byte leads to where the run stands behind it: a line feed sends
the lots of its line, and any other byte sends nothing. -/
theorem feed_flushing_byte {send : Sender σ} (hsend : send.Answers) {dir : RawText}
    (hdir : dir.IsPath) {capacity : Nat} {front : List UInt8} {byte : UInt8}
    (hconsume : (Wire.stateOnLine capacity front).consume byte =
      (.ok (Wire.eventOf byte), ⟨Wire.decoderAfter (front ++ [byte]), .holding capacity
        (Wire.closedOn front (front.count Wire.lineFeed) ++ (Wire.completed? front byte).toList)⟩))
    (rest : List UInt8) (a : σ) {h : Host} (hutc : h.InUtc) :
    ∃ b after, after.InUtc ∧
      feed (flushing send.recording dir) (byte :: rest) (Wire.stateOnLine capacity front)
          ⟨(a, (Wire.lots front).map Lot.request), h⟩ =
        feed (flushing send.recording dir) rest (Wire.stateOnLine capacity (front ++ [byte]))
          ⟨(b, (Wire.lots (front ++ [byte])).map Lot.request), after⟩ := by
  by_cases hbyte : byte = Wire.lineFeed
  · subst hbyte
    obtain ⟨b, after, hflush, hafter⟩ := flushing_recording hsend hdir capacity
      (Wire.closedOn front (front.count Wire.lineFeed) ++
        (Wire.completed? front Wire.lineFeed).toList)
      (Wire.decoderAfter (front ++ [Wire.lineFeed])) a ((Wire.lots front).map Lot.request) hutc
    refine ⟨b, after, hafter, ?_⟩
    rw [Wire.eventOf, if_pos rfl] at hconsume
    rw [feed_of_complete_of_ok hconsume hflush, Wire.stateOnLine_append_lineFeed,
      Wire.lots_append_lineFeed, List.map_append]
  · refine ⟨a, h, hutc, ?_⟩
    rw [Wire.eventOf, if_neg hbyte] at hconsume
    rw [feed_of_continues hconsume, Wire.stateOnLine_append_of_ne hbyte,
      Wire.lots_append_of_ne front hbyte]

/-- What becomes of bytes that follow an accepted input: they are taken up to the
first that is not accepted, and the lots of the lines they end are sent. -/
theorem feed_flushing {send : Sender σ} (hsend : send.Answers) {dir : RawText}
    (hdir : dir.IsPath) {capacity : Nat} (rest front : List UInt8)
    (hfront : Wire.AcceptedByLine capacity front) (a : σ) {h : Host} (hutc : h.InUtc) :
    ∃ taken back result t b after,
      rest = taken ++ back ∧ Wire.AcceptedByLine capacity (front ++ taken) ∧
      feed (flushing send.recording dir) rest (Wire.stateOnLine capacity front)
          ⟨(a, (Wire.lots front).map Lot.request), h⟩ =
        ⟨result, t, ⟨(b, (Wire.lots (front ++ taken)).map Lot.request), after⟩⟩ ∧
      (∀ byte, [byte] <+: back → ¬ Wire.AcceptedByLine capacity (front ++ taken ++ [byte])) ∧
      (back = [] ∧ result = .ok () ∨
        back ≠ [] ∧ ∃ e : WireError, result = .error (.wire e) ∧ e.cause = .malformedInput) := by
  induction rest generalizing front a h with
  | nil =>
      refine ⟨[], [], .ok (), Wire.stateOnLine capacity front, a, h, rfl,
        by rwa [List.append_nil], ?_, fun byte hbyte => ?_, .inl ⟨rfl, rfl⟩⟩
      · rw [feed, List.append_nil]
      · rw [List.prefix_nil] at hbyte
        contradiction
  | cons byte rest ih =>
      obtain ⟨hnext, hconsume⟩ | ⟨hnext, e, t, hconsume, hcause⟩ :=
        Wire.consume_of_acceptedByLine_cases hfront byte
      · obtain ⟨b, between, hbetween, hfeed⟩ := feed_flushing_byte hsend hdir hconsume rest a hutc
        obtain ⟨taken, back, result, t, c, after, rfl, htaken, hrest, hstop, hend⟩ :=
          ih (front ++ [byte]) hnext b hbetween
        rw [← List.append_cons] at htaken hrest hstop
        exact ⟨byte :: taken, back, result, t, c, after, rfl, htaken, hfeed.trans hrest, hstop, hend⟩
      · refine ⟨[], byte :: rest, .error (.wire e), t, a, h, rfl, by rwa [List.append_nil], ?_,
          fun first hfirst => ?_, .inr ⟨List.cons_ne_nil _ _, e, rfl, hcause⟩⟩
        · rw [feed_of_error hconsume, List.append_nil]
        · rwa [List.append_nil, (List.cons_prefix_cons.1 hfirst).1]

theorem getLast?_finish_ok (h : Host) :
    (finish (.ok ()) h).2.log.getLast? = some ⟨.error, some "ERROR: end of input stream"⟩ :=
  List.getLast?_concat

theorem finish_malformed {e : WireError} (he : e.cause = .malformedInput) (h : Host) :
    (finish (.error (.wire e)) h).1 = .exit 1 ∧
      (finish (.error (.wire e)) h).2.log.getLast? =
        some ⟨.error, some ("ERROR: failed to parse input: " ++ e.message)⟩ := by
  have hcause : (Fault.wire e).cause = .malformedInput := he
  rw [finish]
  simp only [hcause, true_and]
  exact List.getLast?_concat

/-- How a run ends depends on what became of its stream, and the host only gets
some more log entries. -/
theorem finish_eq (result : Except Fault Unit) :
    ∃ ending entries, ∀ host : Host,
      finish result host = (ending, { host with log := host.log ++ entries }) := by
  cases result with
  | ok _ => exact ⟨_, _, fun host => rfl⟩
  | error f =>
      cases hcause : f.cause with
      | interrupt => exact ⟨_, _, fun host => by rw [finish, hcause]; rfl⟩
      | malformedInput => exact ⟨_, _, fun host => by rw [finish, hcause]; rfl⟩
      | inputOutput => exact ⟨_, _, fun host => by rw [finish, hcause]; rfl⟩
      | other => exact ⟨.escaped f, [], fun host => by simp [finish, hcause]⟩

theorem InUtc.buildSender {h : Host} (hutc : h.InUtc) (build : Settings → BuiltSender σ) (s : Settings) :
    (Run.buildSender build s h).2.InUtc := by
  rw [Run.buildSender]
  split <;> exact hutc

/-- A host whose output directory is made is ready. -/
theorem prepare_of_made {s : Settings} {host : Host} {files : FileTree}
    (hmade : host.files.ensureDirectories s.outputDir = (.ok (), files)) :
    prepare (.ok s) host = (.ok s, { host.info s.summary with files }) := by
  have hinfo : (host.info s.summary).files = host.files := rfl
  rw [prepare]
  simp only [hinfo, hmade]

theorem buildSender_fst (build : Settings → BuiltSender σ) (s : Settings) (host : Host) :
    (buildSender build s host).1 = build s := by
  rw [buildSender]
  split <;> rfl

/-- A run whose output directory is made takes in its stream by the handler of
its sender. -/
theorem send_of_pump (build : Settings → BuiltSender σ) {s : Settings} {host : Host} {files : FileTree}
    (hmade : host.files.ensureDirectories s.outputDir = (.ok (), files))
    (pieces : List Piece) :
    let progress := (pump (flushing (build s).send s.outputDir) defaultReadSize pieces
      (.new Store.defaultCapacity)
      ⟨(build s).state, (buildSender build s { host.info s.summary with files }).2⟩).2
    let report := send build (.ok s) pieces host
    report.sender = some progress.state.sender ∧
      (report.ending, report.host) = finish progress.result progress.state.host := by
  simp only [send, prepare_of_made hmade, buildSender_fst, and_self]

/-- A run that reads has the client of its sender. -/
theorem client_send (build : Settings → BuiltSender σ) {s : Settings} {host : Host} {files : FileTree}
    (hmade : host.files.ensureDirectories s.outputDir = (.ok (), files))
    (pieces : List Piece) : (send build (.ok s) pieces host).client = (build s).client := by
  simp only [send, prepare_of_made hmade, buildSender_fst]

/-- A run whose output directory is refused does not begin. -/
theorem send_of_refused (build : Settings → BuiltSender σ) {s : Settings} {host : Host}
    {cause : PathError} {path : RawText} {files : FileTree}
    (hmade : host.files.ensureDirectories s.outputDir =
      (.error (.refused cause path), files)) (pieces : List Piece) :
    send build (.ok s) pieces host =
      { ending := .exit 1
        host := { host with
          files
          log := host.log ++ [⟨.info, some s.summary⟩,
            ⟨.error, some ("ERROR: failed to create output directory " ++ s.outputDir ++ ": " ++
              (FileError.refused cause path).message)⟩] }
        reads := 0
        sender := none
        client := none } := by
  have hinfo : (host.info s.summary).files = host.files := rfl
  simp only [send, prepare, hinfo, hmade]
  simp only [Host.error, Host.note, Host.info, List.append_assoc, List.singleton_append]

/-- A run whose output directory has a path that cannot be used breaks off. -/
theorem send_of_misuse (build : Settings → BuiltSender σ) {s : Settings} {host : Host}
    {e : FileError} (he : ∀ cause path, e ≠ .refused cause path) {files : FileTree}
    (hmade : host.files.ensureDirectories s.outputDir = (.error e, files))
    (pieces : List Piece) :
    send build (.ok s) pieces host =
      { ending := .escaped (.file e)
        host := { host with files, log := host.log ++ [⟨.info, some s.summary⟩] }
        reads := 0
        sender := none
        client := none } := by
  have hinfo : (host.info s.summary).files = host.files := rfl
  simp only [send, prepare, hinfo, hmade]
  cases e with
  | refused cause path => exact absurd rfl (he cause path)
  | unencodable e => rfl
  | embeddedNul => rfl

/-- A run whose output directory is not made reads nothing and builds no sender. -/
theorem send_of_not_made (build : Settings → BuiltSender σ) {s : Settings} {host : Host}
    (hmade : (host.files.ensureDirectories s.outputDir).1 ≠ .ok ()) (pieces : List Piece) :
    ∃ ending files entries, send build (.ok s) pieces host =
      { ending
        host := { host with files, log := host.log ++ entries }
        reads := 0
        sender := none
        client := none } := by
  cases hdir : host.files.ensureDirectories s.outputDir with
  | mk result files =>
      cases result with
      | ok made =>
          rw [hdir] at hmade
          contradiction
      | error e =>
          cases e with
          | refused cause path => exact ⟨_, _, _, send_of_refused build hdir pieces⟩
          | unencodable e => exact ⟨_, _, _, send_of_misuse build (by simp) hdir pieces⟩
          | embeddedNul => exact ⟨_, _, _, send_of_misuse build (by simp) hdir pieces⟩

/-- A stream that never fails is taken in as one piece. -/
theorem send_of_chunks (build : Settings → BuiltSender σ) {s : Settings} {host : Host} {files : FileTree}
    (hmade : host.files.ensureDirectories s.outputDir = (.ok (), files))
    {chunks : List (List UInt8)} (hchunks : ∀ chunk ∈ chunks, chunk ≠ []) :
    let progress := feed (flushing (build s).send s.outputDir) chunks.flatten
      (.new Store.defaultCapacity)
      ⟨(build s).state, (buildSender build s { host.info s.summary with files }).2⟩
    let report := send build (.ok s) (chunks.map .bytes) host
    report.sender = some progress.state.sender ∧
      (report.ending, report.host) = finish progress.result progress.state.host := by
  have hsend := send_of_pump build hmade (chunks.map .bytes)
  rwa [pump_bytes _ (show 0 < defaultReadSize by decide) hchunks] at hsend

theorem send_of_feed (build : Settings → BuiltSender σ) {s : Settings} {host : Host} {files : FileTree}
    (hmade : host.files.ensureDirectories s.outputDir = (.ok (), files))
    {chunks : List (List UInt8)} (hchunks : ∀ chunk ∈ chunks, chunk ≠ [])
    {result : Except Fault Unit} {t : Intake} {b : σ} {after : Host}
    (hfeed : feed (flushing (build s).send s.outputDir) chunks.flatten (.new Store.defaultCapacity)
      ⟨(build s).state, (buildSender build s { host.info s.summary with files }).2⟩ =
        ⟨result, t, ⟨b, after⟩⟩) :
    let report := send build (.ok s) (chunks.map .bytes) host
    report.sender = some b ∧ (report.ending, report.host) = finish result after := by
  have hsend := send_of_chunks build hmade hchunks
  rwa [hfeed] at hsend

end Run

end BatchMailer
