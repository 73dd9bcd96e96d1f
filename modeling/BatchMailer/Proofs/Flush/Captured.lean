import BatchMailer.Proofs.Diagnostic.Name
import BatchMailer.Proofs.FileTree.Written
import BatchMailer.Proofs.Flush.InTurn
import Mathlib.Data.List.Dedup

/-!
# BatchMailer.Proofs.Flush.Captured

What is written to files in a flush.

Settling a report opens the file for the raw response of a service error, and no other
(`Capture.Opens`).  The open file takes what the disk takes (`Host.taken`), which is all
of the dump if its path is answered (`Capture.settle_of_opens`); if no file is opened
nothing is written (`Capture.settle_of_not_opens`).  So the files at any time are those
at the beginning with all that was captured written to them, in order (`Host.Keeps`), and
this holds after each dispatch if it held before (`Flush.keeps_dispatchAll`).  Two
captured responses have the same file exactly if their batches are of one kind and they
were written in the same millisecond (`Captured.path_eq_iff`, `Captured.key_eq_of_leads`).
-/

namespace BatchMailer

/-! ## one report -/

/-- What the disk takes of the next file that is written. -/
def Host.taken (h : Host) (content : List UInt8) : List UInt8 :=
  match h.nextShortfall with
  | none => content
  | some shortfall => content.take shortfall.taken

theorem Host.taken_prefix (h : Host) (content : List UInt8) : h.taken content <+: content := by
  rw [taken]
  split
  · exact List.prefix_rfl
  · exact List.take_prefix _ _

/-- The file for a report can be opened: the report is one of a service error with a raw
response, and the path for its kind and the moment leads to a place for a file. -/
structure Capture.Opens (kind : Kind) (o : Outcome) (dir : RawText) (h : Host) (r : HttpResponse)
    (path : RawText) (place : Place) : Prop where
  status : o.status = some (.text "service_error")
  response : o.http = some (.response r)
  named : ∃ name, Diagnostic.fileName kind.index h.wall.now = .ok name ∧
    path = ((Path.ofText dir).child name).text
  opens : h.files.Opens path place

namespace Diagnostic

variable {path : RawText} {h : Host} {place : Place}

/-- An open file takes what the disk takes.  Its path is answered if this is all; if the
disk gives out, an error is logged. -/
theorem writeFile_of_opens (hopens : h.files.Opens path place) (content : List UInt8)
    (startedAt : Option Binary64) :
    let written := writeFile path content startedAt h
    written.2.files = h.files.put place (.file (h.taken content)) ∧ written.2.wall = h.wall ∧
      (h.nextShortfall = none → written.1 = .ok (some { path, size := content.length })) ∧
      ∀ shortfall, h.nextShortfall = some shortfall → written.1 = .ok none ∧
        written.2.log = h.log ++ [⟨.error, some (failureMessage path shortfall.cause.message)⟩] := by
  have hopen : h.files.openFile path = .ok place := FileTree.openFile_eq_ok_iff.2 hopens
  simp only [writeFile, hopen, Host.store, Host.taken]
  cases h.nextShortfall with
  | none => cases startedAt <;> simp [elapsed, Host.readSteady, Host.info, Host.note]
  | some shortfall => simp [Host.error, Host.note]

/-- A file that is not opened is not written. -/
theorem writeFile_of_not_opens (hnone : ∀ place, ¬ h.files.Opens path place)
    (content : List UInt8) (startedAt : Option Binary64) :
    let written := writeFile path content startedAt h
    written.2.files = h.files ∧ written.2.wall = h.wall ∧
      ∀ file, written.1 ≠ .ok (some file) := by
  cases hopen : h.files.openFile path with
  | ok place => exact absurd (FileTree.openFile_eq_ok_iff.1 hopen) (hnone place)
  | error e => cases e <;> simp [writeFile, hopen, Host.error, Host.note]

/-- What is answered is the path and the size of the file, which took all. -/
theorem write_of_writeFile {content : List UInt8} {startedAt : Option Binary64} {file : Written}
    {after : Host} (hwrite : writeFile path content startedAt h = (.ok (some file), after)) :
    file = { path, size := content.length } ∧ h.files.write path content = .ok after.files := by
  by_cases hopens : ∃ place, h.files.Opens path place
  · obtain ⟨place, hopens⟩ := hopens
    obtain ⟨hfiles, -, hall, hpart⟩ := writeFile_of_opens hopens content startedAt
    rw [hwrite] at hfiles hall hpart
    cases hshortfall : h.nextShortfall with
    | none =>
        rw [Host.taken, hshortfall] at hfiles
        exact ⟨Option.some.inj (Except.ok.inj (hall hshortfall)),
          FileTree.write_eq_ok_iff.2 ⟨place, hopens, hfiles⟩⟩
    | some shortfall => simpa using (hpart shortfall hshortfall).1
  · obtain ⟨-, -, hanswer⟩ := writeFile_of_not_opens
      (fun place h => hopens ⟨place, h⟩) content startedAt
    exact absurd (congrArg Prod.fst hwrite) (hanswer file)

theorem exists_of_map_path {written : Except Fault (Option Written)}
    (h : (written.map fun file => file.map (·.path)) = .ok (some path)) :
    ∃ file, written = .ok (some file) := by
  cases written with
  | error f => simp [Except.map] at h
  | ok file =>
      cases file with
      | none => simp [Except.map] at h
      | some file => exact ⟨file, rfl⟩

end Diagnostic

namespace Capture

variable {kind : Kind} {o : Outcome} {dir path : RawText} {h : Host} {r : HttpResponse}
  {place : Place}

/-- Logging statuses reads no clock. -/
theorem wall_noteStatuses (kind : Kind) (first : Nat) (statuses : List Value) (h : Host) :
    (noteStatuses kind first statuses h).wall = h.wall := by
  induction statuses generalizing first h with
  | nil => rfl
  | cons status rest ih => exact ih _ _

/-- The host that a response is written on, after the error of its report is logged. -/
def noted (kind : Kind) (o : Outcome) (h : Host) : Host :=
  (h.note .error (errorLine (serviceErrorWords kind) o)).readWall.2

/-- A response that can be dumped is written to the file that is opened for it, as far as
the disk takes it.  The path is answered if this is all; if the disk gives out, an error is
logged and there is no answer. -/
theorem settle_of_opens (hopens : Opens kind o dir h r path place) (hdumps : r.Dumps)
    (startedAt : Option Binary64) :
    let settled := settle kind o dir startedAt h
    settled.2.files = h.files.put place
        (.file (h.taken (Text.bytes Text.contentCoding r.text))) ∧
      settled.2.wall = h.wall.advance ∧
      (h.nextShortfall = none → settled.1 = .ok (some path)) ∧
      ∀ shortfall, h.nextShortfall = some shortfall → settled.1 = .ok none ∧
        ⟨.error, some (Diagnostic.failureMessage path shortfall.cause.message)⟩ ∈ settled.2.log := by
  obtain ⟨hstatus, hresponse, ⟨name, hname, rfl⟩, hopens⟩ := hopens
  have hstanding : o.standing = .serviceError := (Outcome.standing_eq_iff (by decide)).2 hstatus
  have hbytes := HttpResponse.renderBytes_eq_ok_iff.2 ⟨hdumps, rfl⟩
  have hnoted : (noted kind o h).files.Opens (Diagnostic.pathIn dir name) place := hopens
  obtain ⟨hfiles, hwall, hall, hpart⟩ := Diagnostic.writeFile_of_opens hnoted
    (Text.bytes Text.contentCoding r.text) startedAt
  have hsettle : settle kind o dir startedAt h =
      let written := Diagnostic.writeFile (Diagnostic.pathIn dir name)
        (Text.bytes Text.contentCoding r.text) startedAt (noted kind o h)
      (written.1.map fun file => file.map (·.path), written.2) := by
    simp only [settle, hstanding, hresponse, Diagnostic.write, Host.readWall, Diagnostic.writeAt]
    simp only [Host.note, hname, hbytes]
    rfl
  simp only [hsettle]
  refine ⟨hfiles, hwall, fun hshortfall => ?_, fun shortfall hshortfall => ?_⟩
  · rw [hall hshortfall]
    rfl
  · obtain ⟨hanswer, hlog⟩ := hpart shortfall hshortfall
    refine ⟨by rw [hanswer]; rfl, ?_⟩
    rw [hlog]
    exact List.mem_append_right _ List.mem_cons_self

/-- Without an open file, or a dump, nothing is written. -/
theorem settle_of_not_opens (kind : Kind) (o : Outcome) (dir : RawText)
    (startedAt : Option Binary64) {h : Host}
    (hnone : ∀ r path place, Opens kind o dir h r path place → ¬ r.Dumps) :
    let settled := settle kind o dir startedAt h
    settled.2.files = h.files ∧ (settled.2.wall = h.wall ∨ settled.2.wall = h.wall.advance) ∧
      ∀ path, settled.1 ≠ .ok (some path) := by
  rw [settle]
  cases hstanding : o.standing with
  | success =>
      simp only
      cases destinationStatuses o with
      | error f => exact ⟨rfl, .inl rfl, by simp⟩
      | ok statuses => exact ⟨files_noteStatuses .., .inl (wall_noteStatuses ..), by simp⟩
  | serviceError =>
      simp only
      split
      · next r hresponse =>
          simp only [Diagnostic.write, Host.readWall, Diagnostic.writeAt]
          simp only [Host.note]
          split
          · exact ⟨rfl, .inr rfl, by simp [Except.map]⟩
          · next name hname =>
              split
              · exact ⟨rfl, .inr rfl, by simp [Except.map]⟩
              · next content hbytes =>
                  have hdumps := (HttpResponse.renderBytes_eq_ok_iff.1 hbytes).1
                  have hstatus := (Outcome.standing_eq_iff (by decide)).1 hstanding
                  have hclosed : ∀ place, ¬ (noted kind o h).files.Opens
                      (Diagnostic.pathIn dir name) place := fun place hopens =>
                    hnone r _ place ⟨hstatus, hresponse, ⟨name, hname, rfl⟩, hopens⟩ hdumps
                  obtain ⟨hfiles, hwall, hanswer⟩ :=
                    Diagnostic.writeFile_of_not_opens hclosed content startedAt
                  refine ⟨hfiles, .inr hwall, fun path hpath => ?_⟩
                  obtain ⟨file, hfile⟩ := Diagnostic.exists_of_map_path hpath
                  exact hanswer file hfile
      · exact ⟨rfl, .inl rfl, by simp⟩
  | timeout => exact ⟨rfl, .inl rfl, by simp⟩
  | transportFailure => exact ⟨rfl, .inl rfl, by simp⟩
  | unexpected => exact ⟨rfl, .inl rfl, by simp⟩

/-- A service error that is settled has a response that can be dumped, if it has any. -/
theorem dumps_of_settle {startedAt : Option Binary64} {answer : Option RawText} {after : Host}
    (hstatus : o.status = some (.text "service_error")) (hresponse : o.http = some (.response r))
    (hsettle : settle kind o dir startedAt h = (.ok answer, after)) : r.Dumps := by
  have hstanding : o.standing = .serviceError := (Outcome.standing_eq_iff (by decide)).2 hstatus
  refine Classical.byContradiction fun hdumps => ?_
  obtain ⟨f, hbytes⟩ := HttpResponse.exists_error_of_not_dumps hdumps
  simp only [settle, hstanding, hresponse, Diagnostic.write, Host.readWall,
    Diagnostic.writeAt] at hsettle
  simp only [Host.note] at hsettle
  split at hsettle
  · simp [Except.map] at hsettle
  · simp [hbytes, Except.map] at hsettle

/-- The path of the file that is opened for a report, if one is. -/
def opened? (kind : Kind) (o : Outcome) (dir : RawText) (h : Host) : Option RawText :=
  match o.standing, o.http, Diagnostic.fileName kind.index h.wall.now with
  | .serviceError, some (.response _), .ok name =>
    if (h.files.openFile ((Path.ofText dir).child name).text).isOk then
      some ((Path.ofText dir).child name).text
    else none
  | _, _, _ => none

theorem opened?_eq_some_iff : opened? kind o dir h = some path ↔
    ∃ r place, Opens kind o dir h r path place := by
  rw [opened?]
  constructor
  · intro hopened
    split at hopened
    · next r name hstanding hresponse hname =>
        split at hopened
        · next hopen =>
            obtain rfl := Option.some.inj hopened
            cases hplace : h.files.openFile ((Path.ofText dir).child name).text with
            | error e => rw [hplace] at hopen; contradiction
            | ok place =>
                exact ⟨r, place, (Outcome.standing_eq_iff (by decide)).1 hstanding, hresponse,
                  ⟨name, hname, rfl⟩, FileTree.openFile_eq_ok_iff.1 hplace⟩
        · contradiction
    · contradiction
  · rintro ⟨r, place, hstatus, hresponse, ⟨name, hname, rfl⟩, hopens⟩
    have hstanding : o.standing = .serviceError := (Outcome.standing_eq_iff (by decide)).2 hstatus
    simp only [hstanding, hresponse, hname, FileTree.openFile_eq_ok_iff.2 hopens]
    rfl

/-- Of a report that is settled, no file was opened without a dump for it. -/
theorem opened?_eq_none {startedAt : Option Binary64} {answer : Option RawText} {after : Host}
    (hnone : ∀ r path place, Opens kind o dir h r path place → ¬ r.Dumps)
    (hsettle : settle kind o dir startedAt h = (.ok answer, after)) :
    opened? kind o dir h = none := by
  refine Option.eq_none_iff_forall_ne_some.2 fun path hopened => ?_
  obtain ⟨r, place, hopens⟩ := opened?_eq_some_iff.1 hopened
  exact hnone r path place hopens (dumps_of_settle hopens.status hopens.response hsettle)

end Capture

/-! ## what is captured -/

/-- A raw response for which a diagnostic file was opened: the kind of the batch it answers,
the moment, the path of the file and what was in it then, and whether it was reported as
written. -/
structure Captured where
  kind : Kind
  moment : Moment
  response : HttpResponse
  path : RawText
  bytes : List UInt8
  reported : Bool

/-- What a file holds; nothing, if it cannot be read. -/
def FileTree.contentOf (t : FileTree) (path : RawText) : List UInt8 :=
  match t.read path with
  | .ok content => content
  | .error _ => []

/-- What a dispatch has captured, seen from the hosts before and after it.  Its file is the
one whose path it answers, or the one that was opened and not written to the end. -/
def Dispatch.captured? (d : Dispatch) (dir : RawText) (before after : Host) : Option Captured :=
  match d.outcome.http, d.diagnosticPath.or (Capture.opened? d.kind d.outcome dir before) with
  | some (.response response), some path =>
    some
      { kind := d.kind
        moment := before.wall.now
        response
        path
        bytes := after.files.contentOf path
        reported := d.diagnosticPath.isSome }
  | _, _ => none

theorem Dispatch.captured?_eq_none {d : Dispatch} {dir : RawText} {before after : Host}
    (hpath : d.diagnosticPath = none)
    (hclosed : Capture.opened? d.kind d.outcome dir before = none) :
    d.captured? dir before after = none := by
  rw [captured?, hpath, hclosed, Option.none_or]
  split
  · contradiction
  · rfl

/-- What dispatches of requests in turn capture, up to the first fault. -/
def Flush.captures {σ : Type} (send : Sender σ) (dir : RawText) :
    List Request → SendState σ → List Captured
  | [], _ => []
  | request :: rest, o =>
    match dispatch send dir request o with
    | (.error _, _) => []
    | (.ok d, after) =>
      (d.captured? dir o.host after.host).toList ++ captures send dir rest after

/-- A host whose wall clock shows microseconds within a second. -/
def Host.Precise (h : Host) : Prop := ∀ m ∈ h.wall.now :: h.wall.later, m.microsecond < 1000000

theorem Host.Precise.of_wall_eq {h after : Host} (hprecise : h.Precise)
    (hwall : after.wall = h.wall) : after.Precise :=
  fun m hm => hprecise m (hwall ▸ hm)

namespace Captured

/-- The path of the file and its bytes. -/
def file (c : Captured) : RawText × List UInt8 := (c.path, c.bytes)

/-- The kind of the batch, and the millisecond in UTC. -/
def key (c : Captured) : Kind × Int := (c.kind, c.moment.millis)

/-- A response whose file lies in a directory, under the name for it, and took the dump, all
of it if that was reported. -/
structure Within (dir : RawText) (c : Captured) : Prop where
  precise : c.moment.microsecond < 1000000
  named : ∃ name, Diagnostic.fileName c.kind.index c.moment = .ok name ∧
    c.path = ((Path.ofText dir).child name).text
  taken : c.bytes <+: Text.bytes Text.contentCoding c.response.text
  whole : c.reported = true → Text.encode Text.contentCoding c.response.text = .ok c.bytes

end Captured

/-- A host whose files are those of a tree with what was captured written to them. -/
structure Host.Keeps (h : Host) (before : FileTree) (dir : RawText) (kept : List Captured) :
    Prop where
  files : before.writeAll (kept.map Captured.file) = .ok h.files
  within : ∀ c ∈ kept, c.Within dir
  precise : h.Precise

/-! ## files and their names -/

theorem Diagnostic.getLast?_fileNames {kindIndex : Int} {moment : Moment} {name : String}
    (h : fileName kindIndex moment = .ok name) (dir : RawText) :
    (FileTree.fileNames ((Path.ofText dir).child name).text).getLast? = some (.ofText name) := by
  rw [FileTree.fileNames, List.getLast?_map, Path.getLast?_pathNames_child dir ?_ fun c hc => ?_]
  · rfl
  · intro hempty
    obtain ⟨u, -, hname⟩ := exists_utc_of_fileName h
    have hnil : name = "" := RawText.ofString_injective hempty
    rw [hnil] at hname
    simp only [String.append_assoc] at hname
    exact absurd (String.append_eq_empty_iff.1 hname.symm).1 (by decide)
  · obtain ⟨d, hd, rfl⟩ := RawText.mem_ofChars_iff.1 hc
    refine beq_false_of_ne fun hslash => ?_
    obtain rfl := CodePoint.char.inj hslash
    obtain hdigit | hmark := mem_fileName h hd
    · exact absurd hdigit (by decide)
    · exact absurd hmark (by decide)

namespace Captured

variable {dir : RawText} {c d : Captured}

/-- Responses have files of one name exactly if they have one key. -/
theorem getLast?_eq_iff (hc : c.Within dir) (hd : d.Within dir) :
    (FileTree.fileNames c.path).getLast? = (FileTree.fileNames d.path).getLast? ↔
      c.key = d.key := by
  obtain ⟨name, hname, hpath⟩ := hc.named
  obtain ⟨name', hname', hpath'⟩ := hd.named
  have hkind : c.kind = d.kind ↔ (c.kind.index : Int) = d.kind.index :=
    ⟨fun h => by rw [h], fun h => Kind.index_injective (Int.ofNat_inj.1 h)⟩
  have hnames : FileName.ofText name = FileName.ofText name' ↔ name = name' :=
    ⟨FileName.ofText_injective, fun h => by rw [h]⟩
  rw [hpath, hpath', Diagnostic.getLast?_fileNames hname, Diagnostic.getLast?_fileNames hname',
    Option.some.injEq, hnames, key, key, Prod.mk.injEq, hkind]
  exact Diagnostic.fileName_eq_iff hc.precise hd.precise hname hname'

theorem path_eq_iff (hc : c.Within dir) (hd : d.Within dir) : c.path = d.path ↔ c.key = d.key := by
  rw [← getLast?_eq_iff hc hd]
  constructor
  · exact fun h => by rw [h]
  · intro hlast
    obtain ⟨name, hname, hpath⟩ := hc.named
    obtain ⟨name', hname', hpath'⟩ := hd.named
    rw [hpath, hpath', Diagnostic.getLast?_fileNames hname, Diagnostic.getLast?_fileNames hname',
      Option.some.injEq] at hlast
    rw [hpath, hpath', FileName.ofText_injective hlast]

/-- Nor do files of other names lie in one place. -/
theorem key_eq_of_leads (hc : c.Within dir) (hd : d.Within dir) {t : FileTree} {place : Place}
    (hplace : t.Leads c.path place) (hplace' : t.Leads d.path place) : c.key = d.key :=
  (getLast?_eq_iff hc hd).1 (hplace.getLast?_eq hplace')

end Captured

namespace Host.Keeps

variable {h after : Host} {before : FileTree} {dir : RawText} {kept : List Captured}

theorem precise_of_wall (hkeeps : h.Keeps before dir kept)
    (hwall : after.wall = h.wall ∨ after.wall = h.wall.advance) : after.Precise := by
  obtain heq | heq := hwall
  · exact hkeeps.precise.of_wall_eq heq
  · exact fun m hm => hkeeps.precise m (Clock.mem_advance (heq ▸ hm))

theorem of_files_eq (hkeeps : h.Keeps before dir kept)
    (hwall : after.wall = h.wall ∨ after.wall = h.wall.advance) (hfiles : after.files = h.files) :
    after.Keeps before dir kept :=
  ⟨hfiles ▸ hkeeps.files, hkeeps.within, hkeeps.precise_of_wall hwall⟩

/-- One more response is captured. -/
theorem concat (hkeeps : h.Keeps before dir kept)
    (hwall : after.wall = h.wall ∨ after.wall = h.wall.advance) {c : Captured}
    (hwithin : c.Within dir) (hwrite : h.files.write c.path c.bytes = .ok after.files) :
    after.Keeps before dir (kept ++ [c]) := by
  refine ⟨?_, fun d hd => ?_, hkeeps.precise_of_wall hwall⟩
  · rw [List.map_append, FileTree.writeAll_append, hkeeps.files]
    simp only [Except.bind, List.map_cons, List.map_nil, FileTree.writeAll, Captured.file, hwrite]
  · obtain hd | hd := List.mem_append.1 hd
    · exact hkeeps.within d hd
    · rw [List.mem_singleton.1 hd]
      exact hwithin

end Host.Keeps

namespace Flush

variable {σ : Type} (send : Sender σ) (dir : RawText)

/-- Settling a report writes what it captures, and nothing else. -/
theorem keeps_settle (kind : Kind) (o : Outcome) (destinations : Nat) (startedAt : Option Binary64)
    {h : Host} {before : FileTree} {kept : List Captured} (hkeeps : h.Keeps before dir kept) :
    match Capture.settle kind o dir startedAt h with
    | (.error _, after) => after.Keeps before dir kept
    | (.ok path, after) => after.Keeps before dir
        (kept ++ ((Dispatch.mk kind destinations o path).captured? dir h after).toList) := by
  by_cases hopens : ∃ r path place, Capture.Opens kind o dir h r path place ∧ r.Dumps
  · obtain ⟨r, path, place, hopens, hdumps⟩ := hopens
    obtain ⟨hfiles, hwall, hall, hpart⟩ := Capture.settle_of_opens hopens hdumps startedAt
    have hopened : Capture.opened? kind o dir h = some path :=
      Capture.opened?_eq_some_iff.2 ⟨r, place, hopens⟩
    generalize Capture.settle kind o dir startedAt h = settled at hfiles hwall hall hpart
    obtain ⟨result, after⟩ := settled
    have hwrite : h.files.write path (h.taken (Text.bytes Text.contentCoding r.text)) =
        .ok after.files := FileTree.write_eq_ok_iff.2 ⟨place, hopens.opens, hfiles⟩
    have hcontent : after.files.contentOf path =
        h.taken (Text.bytes Text.contentCoding r.text) := by
      rw [FileTree.contentOf, FileTree.read_of_write hwrite]
    have hwhole : h.nextShortfall = none → Text.encode Text.contentCoding r.text =
        .ok (h.taken (Text.bytes Text.contentCoding r.text)) := fun hnone => by
      rw [Host.taken, hnone, hdumps.encode_text]
    have hprecise := hkeeps.precise _ List.mem_cons_self
    cases hshortfall : h.nextShortfall with
    | none =>
        obtain rfl : result = .ok (some path) := hall hshortfall
        simp only [Dispatch.captured?, hopens.response, Option.some_or, Option.toList_some,
          hcontent]
        exact hkeeps.concat (.inr hwall)
          ⟨hprecise, hopens.named, h.taken_prefix _, fun _ => hwhole hshortfall⟩ hwrite
    | some shortfall =>
        obtain rfl : result = .ok none := (hpart shortfall hshortfall).1
        simp only [Dispatch.captured?, hopens.response, Option.none_or, hopened,
          Option.toList_some, hcontent]
        exact hkeeps.concat (.inr hwall)
          ⟨hprecise, hopens.named, h.taken_prefix _, fun h => by contradiction⟩ hwrite
  · have hnone : ∀ r path place, Capture.Opens kind o dir h r path place → ¬ r.Dumps :=
      fun r path place ho hdumps => hopens ⟨r, path, place, ho, hdumps⟩
    obtain ⟨hfiles, hwall, hanswer⟩ := Capture.settle_of_not_opens kind o dir startedAt hnone
    cases hsettle : Capture.settle kind o dir startedAt h with
    | mk result after =>
        rw [hsettle] at hfiles hwall hanswer
        cases result with
        | error f => exact hkeeps.of_files_eq hwall hfiles
        | ok answer =>
            cases answer with
            | some path => exact absurd rfl (hanswer path)
            | none =>
                have hcaptured : (Dispatch.mk kind destinations o none).captured? dir h after =
                    none := Dispatch.captured?_eq_none rfl (Capture.opened?_eq_none hnone hsettle)
                simp only [hcaptured, Option.toList_none, List.append_nil]
                exact hkeeps.of_files_eq hwall hfiles

/-- So does a dispatch. -/
theorem keeps_dispatch (request : Request) {o : SendState σ} {before : FileTree}
    {kept : List Captured} (h : o.host.Keeps before dir kept) :
    match dispatch send dir request o with
    | (.error _, after) => after.host.Keeps before dir kept
    | (.ok d, after) =>
      after.host.Keeps before dir (kept ++ (d.captured? dir o.host after.host).toList) := by
  cases hreported : reported (send o.sender request).result with
  | none =>
      obtain ⟨f, hresult, hf⟩ := exists_interrupt_of_reported hreported
      rw [dispatch_of_interrupt dir hresult hf]
      exact h.of_files_eq (.inl rfl) rfl
  | some outcome =>
      have hasked : (o.host.readSteady.2.print (send o.sender request).printed).Keeps before dir
          kept := h.of_files_eq (.inl rfl) rfl
      have hsettled := keeps_settle dir request.kind outcome request.destinations.length
        (some o.host.steady.now) hasked
      rw [dispatch_of_reported dir hreported]
      generalize Capture.settle request.kind outcome dir (some o.host.steady.now)
        (o.host.readSteady.2.print (send o.sender request).printed) = settled at hsettled
      obtain ⟨result, after⟩ := settled
      cases result with
      | error f => exact hsettled
      | ok path => exact hsettled

/-- So do dispatches in turn. -/
theorem keeps_dispatchAll (requests : List Request) {o : SendState σ} {before : FileTree}
    {kept : List Captured} (h : o.host.Keeps before dir kept) :
    (dispatchAll send dir requests o).2.host.Keeps before dir
      (kept ++ captures send dir requests o) := by
  induction requests generalizing o kept with
  | nil =>
      rw [captures, List.append_nil]
      exact h
  | cons request rest ih =>
      have hfirst := keeps_dispatch send dir request h
      rw [dispatchAll, captures]
      generalize dispatch send dir request o = dispatched at hfirst
      obtain ⟨result, after⟩ := dispatched
      cases result with
      | error f => simpa using hfirst
      | ok d =>
          have hrest := ih hfirst
          rwa [List.append_assoc] at hrest

end Flush

/-! ## what is kept -/

section

variable {α β κ : Type} [DecidableEq β] [DecidableEq κ]

/-- Values that are told apart alike are as many. -/
theorem length_dedup_map_eq {f : α → β} {g : α → κ} {l : List α}
    (h : ∀ a ∈ l, ∀ b ∈ l, f a = f b ↔ g a = g b) :
    (l.map f).dedup.length = (l.map g).dedup.length := by
  induction l with
  | nil => rfl
  | cons a rest ih =>
      have hrest := ih fun b hb c hc => h b (List.mem_cons_of_mem a hb) c (List.mem_cons_of_mem a hc)
      have hmem : f a ∈ rest.map f ↔ g a ∈ rest.map g := by
        simp only [List.mem_map]
        exact exists_congr fun b => and_congr_right fun hb =>
          h b (List.mem_cons_of_mem a hb) a List.mem_cons_self
      rw [List.map_cons, List.map_cons]
      by_cases hf : f a ∈ rest.map f
      · rw [List.dedup_cons_of_mem hf, List.dedup_cons_of_mem (hmem.1 hf), hrest]
      · rw [List.dedup_cons_of_notMem hf, List.dedup_cons_of_notMem (mt hmem.2 hf), List.length_cons,
          List.length_cons, hrest]

/-- Of all that have one value there is a last. -/
theorem exists_last_of_mem {f : α → κ} {l : List α} {a : α} (ha : a ∈ l) :
    ∃ front b back, l = front ++ b :: back ∧ f b = f a ∧ ∀ c ∈ back, f c ≠ f b := by
  induction l generalizing a with
  | nil => exact absurd ha List.not_mem_nil
  | cons first rest ih =>
      by_cases hlater : ∃ c ∈ rest, f c = f a
      · obtain ⟨c, hc, heq⟩ := hlater
        obtain ⟨front, b, back, hrest, hb, hlast⟩ := ih hc
        exact ⟨first :: front, b, back, by rw [hrest, List.cons_append], hb.trans heq, hlast⟩
      · obtain rfl | ha := List.mem_cons.1 ha
        · exact ⟨[], a, rest, rfl, rfl, fun c hc heq => hlater ⟨c, hc, heq⟩⟩
        · exact absurd ⟨a, ha, rfl⟩ hlater

end

namespace Host.Keeps

variable {h : Host} {before : FileTree} {dir : RawText} {kept : List Captured}

/-- Each response that was captured has a place. -/
theorem exists_place (hkeeps : h.Keeps before dir kept) {c : Captured} (hc : c ∈ kept) :
    ∃ place, h.files.Leads c.path place := by
  obtain ⟨front, back, rfl⟩ := List.append_of_mem hc
  have hfiles := hkeeps.files
  rw [List.map_append, List.map_cons] at hfiles
  obtain ⟨place, hleads, -⟩ := FileTree.exists_leads_of_writeAll hfiles
  exact ⟨place, hleads⟩

/-- It stays in its file unless another of its key is captured later. -/
theorem lookup_of_last (hkeeps : h.Keeps before dir kept) {front back : List Captured}
    {c : Captured} (hkept : kept = front ++ c :: back) (hlater : ∀ d ∈ back, d.key ≠ c.key)
    {place : Place} (hplace : h.files.Leads c.path place) :
    h.files.lookup place = some (.file c.bytes) := by
  subst hkept
  have hfiles := hkeeps.files
  have hwithin : ∀ d ∈ c :: back, d.Within dir :=
    fun d hd => hkeeps.within d (List.mem_append_right front hd)
  rw [List.map_append, List.map_cons] at hfiles
  obtain ⟨place', hleads, hlast⟩ := FileTree.exists_leads_of_writeAll hfiles
  rw [hplace.eq hleads]
  refine hlast fun file hfile hother => ?_
  obtain ⟨d, hd, rfl⟩ := List.mem_map.1 hfile
  exact hlater d hd (Captured.key_eq_of_leads (hwithin d (List.mem_cons_of_mem c hd))
    (hwithin c List.mem_cons_self) hother hleads)

/-- The files of all that was captured are as many as there are keys, and hold nothing
else; there are no others. -/
theorem exists_places (hkeeps : h.Keeps before dir kept) :
    ∃ places : List Place, places.Nodup ∧
      places.length = (kept.map Captured.key).dedup.length ∧
      (∀ place ∈ places, ∃ c ∈ kept, h.files.lookup place = some (.file c.bytes)) ∧
      ∀ place ∉ places, h.files.lookup place = before.lookup place := by
  have hwithin := hkeeps.within
  have hnonempty : Nonempty Place := ⟨.top⟩
  choose! place hplace using fun c (hc : c ∈ kept) => hkeeps.exists_place hc
  have hapart : ∀ c ∈ kept, ∀ d ∈ kept, place c = place d ↔ c.key = d.key := by
    intro c hc d hd
    constructor
    · intro heq
      exact Captured.key_eq_of_leads (hwithin c hc) (hwithin d hd) (hplace c hc)
        (heq ▸ hplace d hd)
    · intro hkey
      have hpath := (Captured.path_eq_iff (hwithin c hc) (hwithin d hd)).2 hkey
      exact (hplace c hc).eq (hpath ▸ hplace d hd)
  refine ⟨(kept.map place).dedup, List.nodup_dedup _, length_dedup_map_eq hapart, ?_, ?_⟩
  · intro p hp
    obtain ⟨c, hc, rfl⟩ := List.mem_map.1 (List.mem_dedup.1 hp)
    obtain ⟨front, d, back, hkept, hkey, hlater⟩ := exists_last_of_mem (f := Captured.key) hc
    have hd : d ∈ kept := hkept ▸ List.mem_append_right front List.mem_cons_self
    rw [← (hapart d hd c hc).2 hkey]
    exact ⟨d, hd, hkeeps.lookup_of_last hkept hlater (hplace d hd)⟩
  · intro p hp
    refine FileTree.lookup_of_writeAll hkeeps.files fun file hfile hleads => hp ?_
    obtain ⟨c, hc, rfl⟩ := List.mem_map.1 hfile
    rw [List.mem_dedup, hleads.eq (hplace c hc)]
    exact List.mem_map_of_mem hc

end Host.Keeps

end BatchMailer
