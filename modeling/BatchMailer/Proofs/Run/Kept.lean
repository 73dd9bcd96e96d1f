import BatchMailer.Proofs.Flush.Captured
import BatchMailer.Proofs.Run.Dispatch
import BatchMailer.Proofs.Stream.Lockstep

/-!
# BatchMailer.Proofs.Run.Kept

What is left of the responses that a run has written to files.

A run writes what its flushes capture and nothing else (`Run.keeps_send`).  The file
of a captured response is named for the kind of its batch and the millisecond it was
opened in, so it is there to the end of the run unless the file for another batch of this
kind was opened in the same millisecond: that one replaces it, even if the disk gives out
before it is written (`Run.kept_send`).
-/

namespace BatchMailer

namespace Run

variable {σ : Type}

/-- Flushes at the end of a line, and keeps what was captured. -/
def capturing (send : Sender σ) (outputDir : RawText) : LineHandler (List Captured × SendState σ) :=
  fun d store (kept, sendState) =>
    let (result, left, after) := flushing send outputDir d store sendState
    (result, left, (kept ++ Flush.captures send outputDir store.requests sendState, after))

/-- What a sending run captures, in order. -/
def captured (build : Settings → BuiltSender σ) (settings : Except SettingsError Settings)
    (pieces : List Piece) (host : Host) : List Captured :=
  match prepare settings host with
  | (.error _, _) => []
  | (.ok s, host) =>
    let (built, host) := buildSender build s host
    let (_, progress) := pump (capturing built.send s.outputDir) defaultReadSize pieces
      (.new Store.defaultCapacity) ([], { sender := built.state, host })
    progress.state.1

/-! ## what a run has written -/

/-- A sender's state on its host, with and without what was captured, whose files are those
of a tree with that written to them. -/
structure Filed (before : FileTree) (dir : RawText) (noted : List Captured × SendState σ)
    (sendState : SendState σ) : Prop where
  same : noted.2 = sendState
  keeps : sendState.host.Keeps before dir noted.1

/-- Keeping what is captured does not change a run. -/
theorem capturing_inStep (send : Sender σ) (before : FileTree) (dir : RawText) :
    (capturing send dir).InStep (Filed before dir) (flushing send dir) := by
  rintro d store ⟨kept, o⟩ _ ⟨rfl, hkeeps⟩
  obtain ⟨left, hflush, -⟩ := flushing_eq send dir d store o
  have hafter := Flush.keeps_dispatchAll send dir store.requests hkeeps
  refine ⟨_, left, (kept ++ Flush.captures send dir store.requests o, _), _, ?_, hflush, rfl,
    hafter⟩
  simp only [capturing, hflush]

theorem files_wall_buildSender (build : Settings → BuiltSender σ) (s : Settings) (host : Host) :
    (buildSender build s host).2.files = host.files ∧ (buildSender build s host).2.wall = host.wall := by
  rw [buildSender]
  split <;> exact ⟨rfl, rfl⟩

theorem wall_prepare (settings : Except SettingsError Settings) (host : Host) :
    (prepare settings host).2.wall = host.wall := by
  cases settings with
  | error e => rfl
  | ok s =>
      rw [prepare]
      split <;> rfl

/-- The files at the end of a run are those at its beginning with all that was captured
written to them. -/
theorem keeps_send (build : Settings → BuiltSender σ) (settings : Except SettingsError Settings)
    (pieces : List Piece) {host : Host} (hprecise : host.Precise) :
    ∃ dir, (send build settings pieces host).host.Keeps (prepare settings host).2.files dir
      (captured build settings pieces host) := by
  have hwall := wall_prepare settings host
  rw [send, captured]
  generalize prepare settings host = prepared at hwall
  obtain ⟨result, ready⟩ := prepared
  have hready : ready.Precise := hprecise.of_wall_eq hwall
  cases result with
  | error ending => exact ⟨"", rfl, fun c hc => absurd hc List.not_mem_nil, hready⟩
  | ok s =>
      obtain ⟨hfiles, htaken⟩ := files_wall_buildSender build s ready
      simp only
      generalize buildSender build s ready = taken at hfiles htaken
      obtain ⟨built, begun⟩ := taken
      have hbegin : Filed ready.files s.outputDir ([], ⟨built.state, begun⟩)
          ⟨built.state, begun⟩ :=
        ⟨rfl, congrArg Except.ok hfiles.symm, fun c hc => absurd hc List.not_mem_nil,
          hready.of_wall_eq htaken⟩
      obtain ⟨-, hend⟩ := pump_inStep (capturing_inStep built.send ready.files s.outputDir)
        defaultReadSize pieces (.new Store.defaultCapacity) hbegin
      simp only
      generalize (pump (flushing built.send s.outputDir) defaultReadSize pieces
        (.new Store.defaultCapacity) ⟨built.state, begun⟩) = pumped at hend
      obtain ⟨ending, entries, hfinish⟩ := finish_eq pumped.2.result
      simp only [hfinish]
      obtain ⟨hkeeps, hwithin, hclock⟩ := hend.state.keeps
      exact ⟨s.outputDir, hkeeps, hwithin, hclock⟩

/-- What is captured of a stream that never fails, taken in as one piece. -/
theorem captured_of_feed (build : Settings → BuiltSender σ) {s : Settings} {host : Host}
    {files : FileTree} (hmade : host.files.ensureDirectories s.outputDir = (.ok (), files))
    {chunks : List (List UInt8)} (hchunks : ∀ chunk ∈ chunks, chunk ≠ []) :
    captured build (.ok s) (chunks.map .bytes) host =
      (feed (capturing (build s).send s.outputDir) chunks.flatten (.new Store.defaultCapacity)
        ([], ⟨(build s).state, (buildSender build s { host.info s.summary with files }).2⟩)).state.1 := by
  simp only [captured, prepare_of_made hmade, buildSender_fst,
    pump_bytes _ (show 0 < defaultReadSize by decide) hchunks]

/-- **A captured response is kept unless another replaces it.**  Take any run: any
configuration, any stream, any sender, any disk, and any wall clock that shows microseconds
within a second.  Two responses for which a file was opened in it have one path exactly if
the batches they answer are of one kind and their files were opened in the same
millisecond in UTC.  An open file took the dump of its response in UTF-8, all of it if it
was reported as written, and what it took is read from it at the end of the run unless a
later one shares its path.  There are as many files as there are kinds and milliseconds
among these responses, each of them holds what one of these files took, and the run
changes nothing else once its output directory has been made. -/
theorem kept_send (build : Settings → BuiltSender σ) (settings : Except SettingsError Settings)
    (pieces : List Piece) (host : Host) (hprecise : host.Precise) :
    let files := (send build settings pieces host).host.files
    let kept := captured build settings pieces host
    (∀ c ∈ kept, ∀ d ∈ kept, c.path = d.path ↔ c.key = d.key) ∧
    (∀ c ∈ kept, c.bytes <+: Text.bytes Text.contentCoding c.response.text ∧
      (c.reported = true → Text.encode Text.contentCoding c.response.text = .ok c.bytes)) ∧
    (∀ front c back, kept = front ++ c :: back → (∀ d ∈ back, d.key ≠ c.key) →
      files.read c.path = .ok c.bytes) ∧
    ∃ places : List Place, places.Nodup ∧
      places.length = (kept.map Captured.key).dedup.length ∧
      (∀ place ∈ places, ∃ c ∈ kept, files.lookup place = some (.file c.bytes)) ∧
      ∀ place ∉ places, files.lookup place = (prepare settings host).2.files.lookup place := by
  intro files kept
  obtain ⟨dir, hkeeps⟩ := keeps_send build settings pieces hprecise
  have hwithin := hkeeps.within
  refine ⟨fun c hc d hd => Captured.path_eq_iff (hwithin c hc) (hwithin d hd),
    fun c hc => ⟨(hwithin c hc).taken, (hwithin c hc).whole⟩,
    fun front c back hkept hlater => ?_, hkeeps.exists_places⟩
  have hmem : c ∈ kept := hkept ▸ List.mem_append_right front List.mem_cons_self
  obtain ⟨place, hplace⟩ := hkeeps.exists_place hmem
  exact hplace.read (hkeeps.lookup_of_last hkept hlater hplace)

/-- Two service errors for batches of one kind, on either side of a millisecond: both
are kept. -/
theorem kept_send_next_millisecond :
    let refused (body : List UInt8) : Outcome := { Outcome.failed .serviceError "refused" with
      http := some (.response ⟨some (.int 500), none, some (some (.bytes body))⟩) }
    let host := Host.start ⟨⟨⟨2024, 2, 29⟩, 12, 30, 0, 999, 0⟩, [⟨⟨2024, 2, 29⟩, 12, 30, 0, 1000, 0⟩]⟩
      ⟨.nan, []⟩ .fresh
    let build := given scripted [.ok (refused [0x31]), .ok (refused [0x32])]
    let s : Settings := ⟨false, "set", "source", "out", [], none, none, .nan, .nan⟩
    let input := [0x31, 0x2C, 0x61, 0x2C, 0x62, 0x2C, 0x63, 0x2C, 0x64, 0x0A,
      0x31, 0x2C, 0x65, 0x2C, 0x66, 0x2C, 0x67, 0x2C, 0x68, 0x0A]
    let kept := captured build (.ok s) [.bytes input] host
    kept.map Captured.path =
        ["out/ses_20240229123000.000_0.http", "out/ses_20240229123000.001_0.http"] ∧
      ∀ c ∈ kept, (send build (.ok s) [.bytes input] host).host.files.read c.path =
        .ok (Text.bytes Text.contentCoding c.response.text) := by
  intro refused host build s input kept
  have hprecise : host.Precise := by
    intro m hm
    obtain rfl | rfl : m = _ ∨ m = _ := by simpa [host, Host.start] using hm
    · decide
    · decide
  have hmade : host.files.ensureDirectories s.outputDir =
      (.ok (), host.files.put (.child .unnamed "out") .directory) :=
    FileTree.ensureDirectories_fresh
  have hinput : ∀ chunk ∈ [input], chunk ≠ [] := by simp [input]
  have hfeed : kept = _ := captured_of_feed build hmade hinput
  have hkept : kept.map Captured.path =
      ["out/ses_20240229123000.000_0.http", "out/ses_20240229123000.001_0.http"] := by
    rw [hfeed]
    decide +kernel
  have hreported : ∀ c ∈ kept, c.reported = true := by
    rw [hfeed]
    decide +kernel
  obtain ⟨hpaths, htaken, hread, -⟩ := kept_send build (.ok s) [.bytes input] host hprecise
  refine ⟨hkept, fun c hc => ?_⟩
  obtain ⟨front, back, hsplit⟩ := List.append_of_mem hc
  have hwhole := (Text.encode_eq_ok_iff.1 ((htaken c hc).2 (hreported c hc))).2
  rw [hwhole]
  refine hread front c back hsplit fun d hd hkey => ?_
  have hd : d ∈ kept ∧ d ∈ back :=
    ⟨hsplit ▸ List.mem_append_right front (List.mem_cons_of_mem c hd), hd⟩
  -- responses that share a key would share a path
  have hpath : c.path = d.path := (hpaths c hc d hd.1).2 hkey.symm
  have hnodup : (kept.map Captured.path).Nodup := by
    rw [hkept]
    decide
  rw [hsplit, List.map_append, List.map_cons] at hnodup
  have hnone := (List.nodup_cons.1 (List.nodup_append.1 hnodup).2.1).1
  exact hnone (hpath ▸ List.mem_map_of_mem hd.2)

/-- Two service errors for batches of one kind within a millisecond: two responses
were captured, but there is one file, which holds the later one. -/
theorem overwritten_within_millisecond :
    let response (status : Int) (body : List UInt8) : HttpResponse :=
      ⟨some (.int status), some (some []), some (some (.bytes body))⟩
    let refused (error : RawText) (r : HttpResponse) : Except Failure Outcome :=
      .ok { Outcome.failed .serviceError error with http := some (.response r) }
    let first := response 500 [0x66, 0x69, 0x72, 0x73, 0x74]
    let second := response 503 [0x73, 0x65, 0x63, 0x6F, 0x6E, 0x64]
    let host := Host.start ⟨⟨⟨2026, 2, 13⟩, 19, 35, 7, 123456, 0⟩, []⟩
      ⟨.signedZero false, []⟩ .fresh
    let build := given scripted [refused "one" first, refused "two" second]
    let s : Settings := ⟨false, "set", "source", "out", [], none, none, .nan, .nan⟩
    let input := [0x31, 0x2C, 0x61, 0x2C, 0x62, 0x2C, 0x63, 0x2C, 0x64, 0x0A,
      0x31, 0x2C, 0x65, 0x2C, 0x66, 0x2C, 0x67, 0x2C, 0x68, 0x0A]
    let files := (send build (.ok s) [.bytes input] host).host.files
    let kept := captured build (.ok s) [.bytes input] host
    kept.length = 2 ∧ (∀ c ∈ kept, c.reported = true) ∧
      ¬ (∀ c ∈ kept, files.read c.path = .ok (Text.bytes Text.contentCoding c.response.text)) ∧
      ∃ place, files = (prepare (.ok s) host).2.files.put place
        (.file (Text.bytes Text.contentCoding second.text)) := by
  intro response refused first second host build s input files kept
  have hprecise : host.Precise := by
    intro m hm
    obtain rfl : m = _ := by simpa [host, Host.start] using hm
    decide
  have hmade : host.files.ensureDirectories s.outputDir =
      (.ok (), host.files.put (.child .unnamed "out") .directory) :=
    FileTree.ensureDirectories_fresh
  have hready : (prepare (.ok s) host).2.files =
      host.files.put (.child .unnamed "out") .directory := by
    rw [prepare_of_made hmade]
  have hinput : ∀ chunk ∈ [input], chunk ≠ [] := by simp [input]
  have hfeed : kept = _ := captured_of_feed build hmade hinput
  let path : RawText := "out/ses_20260213193507.123_0.http"
  have hwhole : kept.map (fun c => (c.path, Text.bytes Text.contentCoding c.response.text)) =
      [(path, Text.bytes Text.contentCoding first.text),
        (path, Text.bytes Text.contentCoding second.text)] := by
    rw [hfeed]
    decide +kernel
  have hkept : kept.map Captured.file =
      [(path, Text.bytes Text.contentCoding first.text),
        (path, Text.bytes Text.contentCoding second.text)] := by
    rw [hfeed]
    decide +kernel
  have hreported : ∀ c ∈ kept, c.reported = true := by
    rw [hfeed]
    decide +kernel
  obtain ⟨dir, hkeeps⟩ := keeps_send build (.ok s) [.bytes input] hprecise
  have hfiles : (prepare (.ok s) host).2.files.writeAll (kept.map Captured.file) = .ok files :=
    hkeeps.files
  have hwritten : (host.files.put (.child .unnamed "out") .directory).writeAll
      [(path, Text.bytes Text.contentCoding first.text),
        (path, Text.bytes Text.contentCoding second.text)] =
      .ok ((host.files.put (.child .unnamed "out") .directory).put
        ((Place.unnamed.child "out").child "ses_20260213193507.123_0.http")
        (.file (Text.bytes Text.contentCoding second.text))) := by
    decide +kernel
  rw [hready, hkept, hwritten] at hfiles
  refine ⟨by simpa using congrArg List.length hkept, hreported, fun hall => ?_,
    (Place.unnamed.child "out").child "ses_20260213193507.123_0.http", ?_⟩
  · -- the path of the first response is read as the second
    obtain ⟨c, hc, hfile⟩ := List.mem_map.1 (hwhole ▸ List.mem_cons_self)
    have hread := hall c hc
    obtain ⟨hpath, hbytes⟩ := Prod.mk.inj hfile
    rw [← Except.ok.inj hfiles, hpath, hbytes] at hread
    revert hread
    decide +kernel
  · rw [hready, ← Except.ok.inj hfiles]

end Run

end BatchMailer
