import BatchMailer.Flush
import BatchMailer.Proofs.Calendar.Dates
import BatchMailer.Proofs.FileTree.Usable
import BatchMailer.Proofs.Store.Holding
import Mathlib.Data.List.Basic

/-!
# BatchMailer.Proofs.Flush.Settled

Flushes that come to their end.

A flush can be cut short by an interrupted sender, by a report that cannot be settled
(`Outcome.fault?`), by a wall clock that shows no date in UTC, and by an output directory
whose path cannot be used.  Without these, whatever the
sender reports and whether it gives up or not, each batch that is not empty is
sent once and the store is left empty (`flush_recording`).
-/

namespace BatchMailer

/-! ## moments in UTC -/

/-- A date and time of a clock that shows UTC. -/
structure Moment.InUtc (m : Moment) : Prop where
  offset : m.offset = 0
  year : 1 ≤ m.date.year ∧ m.date.year ≤ 9999
  day : 1 ≤ m.date.day ∧
    m.date.day ≤ (Calendar.monthLengths (Calendar.isLeap m.date.year)).getD (m.date.month - 1) 0
  hour : m.hour < 24
  minute : m.minute < 60
  second : m.second < 60

instance (m : Moment) : Decidable m.InUtc :=
  decidable_of_iff
    (m.offset = 0 ∧ (1 ≤ m.date.year ∧ m.date.year ≤ 9999) ∧
      (1 ≤ m.date.day ∧ m.date.day ≤
        (Calendar.monthLengths (Calendar.isLeap m.date.year)).getD (m.date.month - 1) 0) ∧
      m.hour < 24 ∧ m.minute < 60 ∧ m.second < 60)
    ⟨fun ⟨offset, year, day, hour, minute, second⟩ => ⟨offset, year, day, hour, minute, second⟩,
      fun h => ⟨h.offset, h.year, h.day, h.hour, h.minute, h.second⟩⟩

/-- Such a moment has a date in UTC. -/
theorem Moment.isSome_toUtc? {m : Moment} (h : m.InUtc) : m.toUtc?.isSome := by
  have hday : m.date.toDay < Calendar.dayCount :=
    Nat.lt_of_lt_of_le (Date.toDay_lt h.year.1 h.day) (Calendar.daysBefore_mono h.year.2)
  have hoffset := h.offset
  have hhour := h.hour
  have hminute := h.minute
  have hsecond := h.second
  have hrange : 0 ≤ m.utcSeconds ∧ m.utcSeconds < Calendar.dayCount * 86400 := by
    rw [utcSeconds]
    omega
  rw [toUtc?]
  simp only [hrange, and_self, if_true, Option.isSome_some]

/-! ## hosts in UTC -/

/-- A clock shows nothing after a reading that it would not have shown before. -/
theorem Clock.mem_advance {α : Type} {c : Clock α} {a : α}
    (h : a ∈ c.advance.now :: c.advance.later) : a ∈ c.now :: c.later := by
  rw [advance] at h
  split at h
  · exact h
  · next hlater =>
      rw [hlater]
      exact List.mem_cons_of_mem _ h

/-- A host whose wall clock shows UTC. -/
def Host.InUtc (h : Host) : Prop := ∀ m ∈ h.wall.now :: h.wall.later, m.InUtc

/-- A host whose wall clock stands still shows one moment. -/
theorem Host.inUtc_start {m : Moment} (hm : m.InUtc) (steady : Clock Binary64) (files : FileTree) :
    (start ⟨m, []⟩ steady files).InUtc := fun n hn => by
  rwa [List.mem_singleton.1 hn]

section

variable {h : Host}

theorem Host.InUtc.readWall (hutc : h.InUtc) : h.readWall.2.InUtc :=
  fun m hm => hutc m (Clock.mem_advance hm)

theorem Host.InUtc.noteStatuses (hutc : h.InUtc) (kind : Kind) (first : Nat)
    (statuses : List Value) : (Capture.noteStatuses kind first statuses h).InUtc := by
  induction statuses generalizing first h with
  | nil => exact hutc
  | cons status rest ih =>
      have hnoted : (h.note .info (Capture.statusLine kind first status)).InUtc := hutc
      exact ih hnoted (first + 1)

namespace Diagnostic

/-- A moment that a clock in UTC shows can be put in a file name. -/
theorem exists_fileName (hutc : h.InUtc) (kind : Kind) :
    ∃ name, fileName kind.index h.wall.now = .ok name := by
  obtain ⟨utc, hmoment⟩ := Option.isSome_iff_exists.1
    (Moment.isSome_toUtc? (hutc h.wall.now List.mem_cons_self))
  rw [fileName, hmoment]
  exact ⟨_, rfl⟩

/-- Writing bytes to a path that can be used may be refused, and may fail, but comes to an
end. -/
theorem writeFile_of_isPath {path : RawText} (hpath : path.IsPath) (hutc : h.InUtc)
    (content : List UInt8) (startedAt : Option Binary64) :
    ∃ written after, writeFile path content startedAt h = (.ok written, after) ∧ after.InUtc := by
  rw [writeFile]
  split
  · exact ⟨_, _, rfl, hutc⟩
  · next e hrefused hopen =>
      obtain ⟨cause, at', rfl⟩ := FileTree.exists_refused_of_openFile hpath hopen
      exact absurd rfl (hrefused cause at')
  · next place _ =>
      have hstored : (h.store place content).2.InUtc := by
        rw [Host.store]
        split <;> exact hutc
      split
      · next after hstore =>
          rw [hstore] at hstored
          exact ⟨_, _, rfl, hstored⟩
      · next after hstore =>
          rw [hstore] at hstored
          cases startedAt <;> exact ⟨_, _, rfl, hstored⟩

/-- A file name can be made, its path can be used, and the dump can be written. -/
theorem write_of_dumps {dir : RawText} (hdir : dir.IsPath) (hutc : h.InUtc) {r : HttpResponse}
    (hr : r.Dumps) (kind : Kind) (startedAt : Option Binary64) :
    ∃ written after, write r dir kind.index startedAt h = (.ok written, after) ∧ after.InUtc := by
  obtain ⟨name, hname⟩ := exists_fileName hutc kind
  have hbytes := HttpResponse.renderBytes_eq_ok_iff.2 ⟨hr, rfl⟩
  have hpath : (pathIn dir name).IsPath := Path.isPath_child hdir (isPath_fileName hname)
  simp only [write, Host.readWall, writeAt, hname, hbytes]
  exact writeFile_of_isPath hpath hutc.readWall _ startedAt

/-- A response that has no bytes is a fault, before any file is opened. -/
theorem write_of_error {r : HttpResponse} {f : Fault} (hr : r.renderBytes = .error f)
    (hutc : h.InUtc) (dir : RawText) (kind : Kind) (startedAt : Option Binary64) :
    write r dir kind.index startedAt h = (.error f, h.readWall.2) := by
  obtain ⟨name, hname⟩ := exists_fileName hutc kind
  simp only [write, Host.readWall, writeAt, hname, hr]

end Diagnostic

end

/-! ## reports -/

namespace Outcome

/-- A report whose statuses, if it has any, are a list or can be read as one. -/
def Listed (o : Outcome) : Prop :=
  match o.destinationStatuses with
  | none | some .null | some (.text _) | some (.list _) => True
  | _ => False

/-- A report that can be settled: its statuses are listed, and if it is one of a service
error with a raw response, then the dump of this can be written. -/
structure Fits (o : Outcome) : Prop where
  listed : o.Listed
  dumps : o.status = some (.text "service_error") → ∀ r, o.http = some (.response r) → r.Dumps

theorem Fits.of_listed {o : Outcome} (hlisted : o.Listed) (hhttp : o.http = none) : o.Fits :=
  ⟨hlisted, fun _ r hr => by rw [hhttp] at hr; contradiction⟩

/-- A report with nothing but its standing and an error can be settled. -/
theorem fits_failed (s : Standing) (error : RawText) : (failed s error).Fits :=
  .of_listed trivial rfl

/-- So can one of a success that lists its statuses. -/
theorem fits_delivered (statuses : List Value) : (delivered statuses).Fits :=
  .of_listed trivial rfl

end Outcome

namespace Capture

theorem destinationStatuses_of_listed {o : Outcome} (h : o.Listed) :
    ∃ statuses, destinationStatuses o = .ok statuses := by
  rw [Outcome.Listed] at h
  rw [destinationStatuses]
  split
  · exact ⟨[], rfl⟩
  · next hblank =>
      split at h
      · next hnone =>
          rw [hnone] at hblank
          exact absurd rfl hblank
      · next hnull =>
          rw [hnull] at hblank
          exact absurd rfl hblank
      · next hstatuses =>
          rw [hstatuses]
          exact ⟨_, rfl⟩
      · next hstatuses =>
          rw [hstatuses]
          exact ⟨_, rfl⟩
      · exact h.elim

end Capture

namespace Outcome

/-- The fault that settling a report ends with, if it does: that of a success whose
statuses cannot be listed, or of a service error whose response has no bytes. -/
def fault? (o : Outcome) : Option Fault :=
  match o.standing, o.http with
  | .success, _ => Fault.of? (Capture.destinationStatuses o)
  | .serviceError, some (.response r) => Fault.of? r.renderBytes
  | _, _ => none

theorem fault?_eq_some_iff {o : Outcome} {f : Fault} : o.fault? = some f ↔
    (o.standing = .success ∧ Capture.destinationStatuses o = .error f) ∨
      (o.standing = .serviceError ∧ ∃ r, o.http = some (.response r) ∧ r.renderBytes = .error f) := by
  rw [fault?]
  split
  · next hstanding => simp [hstanding, Fault.of?_eq_some_iff]
  · next r hstanding hresponse => simp [hstanding, hresponse, Fault.of?_eq_some_iff]
  · next hsuccess hservice =>
      simp only [reduceCtorEq, false_iff, not_or, not_and, not_exists]
      exact ⟨fun hstanding _ => hsuccess hstanding,
        fun hstanding r hresponse _ => hservice r hstanding hresponse⟩

theorem fault?_of_fits {o : Outcome} (h : o.Fits) : o.fault? = none := by
  refine Option.eq_none_iff_forall_ne_some.2 fun f hf => ?_
  obtain ⟨-, herror⟩ | ⟨hstanding, r, hresponse, herror⟩ := fault?_eq_some_iff.1 hf
  · obtain ⟨statuses, hstatuses⟩ := Capture.destinationStatuses_of_listed h.listed
    rw [hstatuses] at herror
    contradiction
  · have hstatus := (standing_eq_iff (by decide)).1 hstanding
    rw [HttpResponse.renderBytes_eq_ok_iff.2 ⟨h.dumps hstatus r hresponse, rfl⟩] at herror
    contradiction

end Outcome

namespace Capture

variable {o : Outcome} {dir : RawText} {h : Host}

/-- A report with a fault is not settled, and no file is touched. -/
theorem settle_of_fault {f : Fault} (ho : o.fault? = some f) (hutc : h.InUtc) (kind : Kind)
    (dir : RawText) (startedAt : Option Binary64) :
    ∃ after, settle kind o dir startedAt h = (.error f, after) ∧ after.files = h.files := by
  obtain ⟨hstanding, hstatuses⟩ | ⟨hstanding, r, hresponse, hbytes⟩ :=
    Outcome.fault?_eq_some_iff.1 ho
  · simp only [settle, hstanding, hstatuses]
    exact ⟨h, rfl, rfl⟩
  · have hnoted : (h.note .error (errorLine (serviceErrorWords kind) o)).InUtc := hutc
    simp only [settle, hstanding, hresponse,
      Diagnostic.write_of_error hbytes hnoted dir kind startedAt]
    exact ⟨_, rfl, rfl⟩

/-- Any other is settled without one. -/
theorem settle_of_no_fault (ho : o.fault? = none) (hdir : dir.IsPath) (hutc : h.InUtc)
    (kind : Kind) (startedAt : Option Binary64) :
    ∃ path after, settle kind o dir startedAt h = (.ok path, after) ∧ after.InUtc := by
  have hnone : ∀ f, o.fault? ≠ some f := Option.eq_none_iff_forall_ne_some.1 ho
  rw [settle]
  cases hstanding : o.standing with
  | success =>
      cases hstatuses : destinationStatuses o with
      | error f => exact absurd (Outcome.fault?_eq_some_iff.2 (.inl ⟨hstanding, hstatuses⟩)) (hnone f)
      | ok statuses => exact ⟨_, _, rfl, hutc.noteStatuses kind 0 statuses⟩
  | serviceError =>
      simp only
      split
      · next r hresponse =>
          have hdumps : r.Dumps := by
            refine Classical.byContradiction fun hdumps => ?_
            obtain ⟨f, hbytes⟩ := HttpResponse.exists_error_of_not_dumps hdumps
            exact hnone f (Outcome.fault?_eq_some_iff.2 (.inr ⟨hstanding, r, hresponse, hbytes⟩))
          have hnoted : (h.note .error (errorLine (serviceErrorWords kind) o)).InUtc := hutc
          obtain ⟨written, after, hwrite, hafter⟩ :=
            Diagnostic.write_of_dumps hdir hnoted hdumps kind startedAt
          simp only [hwrite]
          exact ⟨_, _, rfl, hafter⟩
      · exact ⟨_, _, rfl, hutc⟩
  | timeout => exact ⟨_, _, rfl, hutc⟩
  | transportFailure => exact ⟨_, _, rfl, hutc⟩
  | unexpected => exact ⟨_, _, rfl, hutc⟩

theorem settle_of_fits (ho : o.Fits) (hdir : dir.IsPath) (hutc : h.InUtc) (kind : Kind)
    (startedAt : Option Binary64) :
    ∃ path after, settle kind o dir startedAt h = (.ok path, after) ∧ after.InUtc :=
  settle_of_no_fault (Outcome.fault?_of_fits ho) hdir hutc kind startedAt

end Capture

/-! ## lots -/

/-- Records of one kind that go out together. -/
structure Lot where
  kind : Kind
  records : List Record
  deriving DecidableEq, Repr

namespace Lot

/-- The request for a lot. -/
def request (lot : Lot) : Request := .ofRecords lot.kind lot.records

/-- The lot of some records, if there are any. -/
def ofKind (kind : Kind) (records : List Record) : List Lot :=
  if records = [] then [] else [⟨kind, records⟩]

/-- The lots of some kinds. -/
def ofKinds (kinds : List Kind) (waiting : Kind → List Record) : List Lot :=
  kinds.flatMap fun kind => ofKind kind (waiting kind)

/-- The lots that records are sent in: one for each kind that there is. -/
def ofRecords (records : List Record) : List Lot := ofKinds Kind.all fun kind => kind.among records

theorem eq_of_mem_ofKinds {kinds : List Kind} {waiting : Kind → List Record} {lot : Lot}
    (h : lot ∈ ofKinds kinds waiting) : lot.records = waiting lot.kind ∧ lot.records ≠ [] := by
  obtain ⟨kind, -, hlot⟩ := List.mem_flatMap.1 h
  rw [ofKind] at hlot
  split at hlot
  · contradiction
  · next hne =>
      rw [List.mem_singleton.1 hlot]
      exact ⟨rfl, hne⟩

/-- Emptying a batch takes nothing from those of other kinds. -/
theorem ofKinds_clear {kind : Kind} {kinds : List Kind} (h : kind ∉ kinds) (s : Store) :
    ofKinds kinds (s.clear kind).pending = ofKinds kinds s.pending := by
  refine List.flatMap_congr fun other hother => ?_
  have hne : other ≠ kind := fun heq => h (heq ▸ hother)
  rw [Store.pending_clear, if_neg hne]

theorem flatMap_records_ofKind (kind other : Kind) (records : List Record) :
    ((ofKind other records).filter (·.kind = kind)).flatMap (·.records) =
      if other = kind then records else [] := by
  rw [ofKind]
  by_cases hempty : records = [] <;> by_cases hother : other = kind <;> simp [hempty, hother]

/-- The lots of a kind make up the records of this kind. -/
theorem flatMap_records_ofRecords (kind : Kind) (records : List Record) :
    ((ofRecords records).filter (·.kind = kind)).flatMap (·.records) = kind.among records := by
  rw [ofRecords, ofKinds, List.filter_flatMap, List.flatMap_assoc]
  simp only [flatMap_records_ofKind]
  cases kind <;> simp [Kind.all]

end Lot

/-! ## flushes -/

/-- A sender that answers each request with a report of this sort, or gives up
without being interrupted. -/
def Sender.Answers {σ : Type} (send : Sender σ) : Prop :=
  ∀ a request, match (send a request).result with
    | .ok o => o.Fits
    | .error f => f.isInterrupt = false

namespace Flush

variable {σ : Type} {send : Sender σ} {dir : RawText}

theorem dispatch_recording (hsend : send.Answers) (hdir : dir.IsPath) (request : Request)
    (a : σ) (sent : List Request) {h : Host} (hutc : h.InUtc) :
    ∃ d b after, dispatch send.recording dir request ⟨(a, sent), h⟩ =
      (.ok d, ⟨(b, sent ++ [request]), after⟩) ∧ after.InUtc := by
  have hanswer := hsend a request
  have hprinted : (h.readSteady.2.print (send a request).printed).InUtc := hutc
  have hgaveUp : ∀ f : Failure, (gaveUp f).Fits := fun f => Outcome.fits_failed _ f.described
  cases hresult : (send a request).result with
  | ok o =>
      rw [hresult] at hanswer
      obtain ⟨path, after, hsettle, hafter⟩ := Capture.settle_of_fits hanswer hdir hprinted
        request.kind (some h.steady.now)
      rw [Host.readSteady] at hsettle
      simp only [dispatch, Host.readSteady, Sender.recording, hresult, hsettle]
      exact ⟨_, _, _, rfl, hafter⟩
  | error f =>
      rw [hresult] at hanswer
      obtain ⟨path, after, hsettle, hafter⟩ := Capture.settle_of_fits (hgaveUp f) hdir hprinted
        request.kind (some h.steady.now)
      rw [Host.readSteady] at hsettle
      simp only [dispatch, Host.readSteady, Sender.recording, hresult, hanswer, hsettle,
        Bool.false_eq_true, if_false]
      exact ⟨_, _, _, rfl, hafter⟩

/-- A flush sends each batch that is not empty, in order, and empties all. -/
theorem flushKinds_recording (hsend : send.Answers) (hdir : dir.IsPath) {kinds : List Kind}
    (hkinds : kinds.Nodup) (s : Store) (a : σ) (sent : List Request) {h : Host} (hutc : h.InUtc) :
    ∃ ds b after, flushKinds send.recording dir kinds s ⟨(a, sent), h⟩ =
      (.ok ds, kinds.foldl Store.clear s,
        ⟨(b, sent ++ (Lot.ofKinds kinds s.pending).map Lot.request), after⟩) ∧ after.InUtc := by
  induction kinds generalizing s a sent h with
  | nil => exact ⟨[], a, h, by simp [Lot.ofKinds], hutc⟩
  | cons kind rest ih =>
      obtain ⟨hkind, hrest⟩ := List.nodup_cons.1 hkinds
      have hothers := Lot.ofKinds_clear hkind s
      rw [flushKinds_cons, Store.drain, Lot.ofKinds, List.flatMap_cons, ← Lot.ofKinds, List.foldl_cons,
        Lot.ofKind]
      cases hpending : s.pending kind with
      | nil =>
          obtain ⟨ds, b, after, hflush, hafter⟩ := ih hrest (s.clear kind) a sent hutc
          rw [hothers] at hflush
          exact ⟨ds, b, after, hflush, hafter⟩
      | cons record more =>
          obtain ⟨d, b, between, hdispatch, hbetween⟩ :=
            dispatch_recording hsend hdir (.ofRecords kind (record :: more)) a sent hutc
          obtain ⟨ds, c, after, hflush, hafter⟩ := ih hrest (s.clear kind) b
            (sent ++ [.ofRecords kind (record :: more)]) hbetween
          rw [hothers, List.append_assoc] at hflush
          simp only [hdispatch, hflush]
          exact ⟨_, _, _, rfl, hafter⟩

/-- The two batches of a store that was filled with some records. -/
theorem flush_recording (hsend : send.Answers) (hdir : dir.IsPath) (capacity : Int)
    (records : List Record) (a : σ) (sent : List Request) {h : Host} (hutc : h.InUtc) :
    ∃ ds b after, flush send.recording dir (.holding capacity records) ⟨(a, sent), h⟩ =
      (.ok ds, .holding capacity [],
        ⟨(b, sent ++ (Lot.ofRecords records).map Lot.request), after⟩) ∧ after.InUtc := by
  have hpending : (Store.holding capacity records).pending = fun kind => kind.among records :=
    funext (Store.pending_holding capacity records)
  obtain ⟨ds, b, after, hflush, hafter⟩ := flushKinds_recording hsend hdir
    (show Kind.all.Nodup by decide) (.holding capacity records) a sent hutc
  rw [hpending] at hflush
  exact ⟨ds, b, after, hflush, hafter⟩

end Flush

end BatchMailer
