import BatchMailer.Proofs.FileTree.Usable
import BatchMailer.Proofs.Text.Encoding
import Mathlib.Data.List.Basic
import Mathlib.Data.List.Induction

/-!
# BatchMailer.Proofs.FileTree.Written

Files that are written one after the other.

The way to the place of a file leads over directories (`FileTree.Leads`).  A file
is only ever opened where there is no directory (`openFile_eq_ok_iff`), so the ways stay
as they are.
After any number of writes (`FileTree.writeAll`) a place that was written holds
what came last (`exists_leads_of_writeAll`), where it is read by its path
(`Leads.read`); nothing else has changed (`lookup_of_writeAll`).  Paths that end in
different names lead to different places (`Leads.getLast?_eq`), and the path of a file
in a directory ends in its name (`Path.getLast?_pathNames_child`).
-/

namespace BatchMailer

section

variable {ε α β : Type}

/-- A sequence succeeds if each of its parts does. -/
theorem bind_eq_ok {x : Except ε α} {f : α → Except ε β} {b : β} :
    x >>= f = .ok b ↔ ∃ a, x = .ok a ∧ f a = .ok b := by
  cases x <;> simp [bind, Except.bind]

end

namespace FileTree

/-- Opens a file, and writes it over. -/
def write (t : FileTree) (path : RawText) (content : List UInt8) : Except FileError FileTree :=
  (t.openFile path).map fun place => t.put place (.file content)

/-- Writes files by their paths, one after the other, up to the first failure. -/
def writeAll (t : FileTree) : List (RawText × List UInt8) → Except FileError FileTree
  | [] => .ok t
  | file :: rest =>
    match t.write file.1 file.2 with
    | .error e => .error e
    | .ok t => t.writeAll rest

/-- Names that lead from an origin to a directory and end in a name that a file in it
can have. -/
structure Ends (t : FileTree) (origin : Place) (names : List FileName) (parent : Place)
    (name : FileName) : Prop where
  way : t.walk origin names.dropLast = .ok parent
  directory : t.lookup parent = some .directory
  last : names.getLast? = some name
  proper : ¬ (name = .empty ∨ name = .dot ∨ name = .dots)
  short : name.isLong = false

/-- A path that can be used, and the place of its file, be it there or not. -/
structure Leads (t : FileTree) (path : RawText) (place : Place) : Prop where
  usable : path.IsPath
  names : usableNames path = .ok (fileNames path)
  ends : ∃ parent name, t.Ends (t.origin path) (fileNames path) parent name ∧
    place = parent.child name

/-- A path by which a file can be opened for writing: no directory is in its place. -/
structure Opens (t : FileTree) (path : RawText) (place : Place) : Prop where
  leads : t.Leads path place
  free : t.lookup place ≠ some .directory

/-! ## one file -/

section

variable {t t' : FileTree} {path : RawText} {place : Place} {content : List UInt8}

theorem guardPath_eq_ok {α : Type} {act : Except PathError α} {a : α} :
    guardPath path act = .ok a ↔ path.IsPath ∧ act = .ok a := by
  by_cases hpath : path.IsPath
  · rw [guardPath_of_isPath hpath, mapError_eq_ok]
    exact (and_iff_right hpath).symm
  · obtain ⟨e, -, hguard⟩ := exists_misuse_of_not_isPath hpath
    rw [hguard]
    constructor
    · intro h
      contradiction
    · exact fun h => absurd h.1 hpath

theorem eq_of_usableNames {names : List FileName} (h : usableNames path = .ok names) :
    names = fileNames path := by
  rw [usableNames] at h
  split at h
  · contradiction
  · split at h
    · contradiction
    · exact (Except.ok.inj h).symm

theorem ends_of_target {origin : Place} {names : List FileName}
    (h : t.target origin names = .ok (some place)) :
    ∃ parent name, t.Ends origin names parent name ∧ place = parent.child name := by
  obtain ⟨parent, hway, h⟩ := bind_eq_ok.1 h
  split at h
  · next hdirectory =>
      split at h
      · cases h
      · next name hname =>
          split at h
          · cases h
          · next hproper =>
              split at h
              · cases h
              · next hshort =>
                  exact ⟨parent, name, ⟨hway, hdirectory, hname, hproper, by simpa using hshort⟩,
                    (Option.some.inj (Except.ok.inj h)).symm⟩
  · cases h

theorem Ends.target_eq {origin parent : Place} {names : List FileName} {name : FileName}
    (h : t.Ends origin names parent name) :
    t.target origin names = .ok (some (parent.child name)) := by
  refine bind_eq_ok.2 ⟨parent, h.way, ?_⟩
  simp only [h.directory, h.last, h.proper, h.short, if_false, Bool.false_eq_true]

/-- A file is opened at the place its path leads to, unless there is a directory. -/
theorem opens_of_openFile (h : t.openFile path = .ok place) : t.Opens path place := by
  obtain ⟨husable, h⟩ := guardPath_eq_ok.1 h
  obtain ⟨names, hnames, h⟩ := bind_eq_ok.1 h
  obtain rfl := eq_of_usableNames hnames
  obtain ⟨found, htarget, h⟩ := bind_eq_ok.1 h
  cases found with
  | none => cases h
  | some target =>
      simp only at h
      split at h
      · cases h
      · next hfree =>
          obtain rfl := Except.ok.inj h
          exact ⟨⟨husable, hnames, ends_of_target htarget⟩, fun hdirectory => hfree hdirectory⟩

/-- A file can be opened exactly by the paths that lead to a place without a directory. -/
theorem openFile_eq_ok_iff : t.openFile path = .ok place ↔ t.Opens path place := by
  refine ⟨opens_of_openFile, fun h => ?_⟩
  obtain ⟨⟨husable, hnames, parent, name, hends, rfl⟩, hfree⟩ := h
  refine guardPath_eq_ok.2
    ⟨husable, bind_eq_ok.2 ⟨_, hnames, bind_eq_ok.2 ⟨_, hends.target_eq, ?_⟩⟩⟩
  split
  · contradiction
  · next heq =>
      obtain rfl := Option.some.inj heq
      split
      · next hdirectory => exact absurd hdirectory hfree
      · rfl

/-- Writing succeeds exactly for the paths by which a file can be opened. -/
theorem write_eq_ok_iff : t.write path content = .ok t' ↔
    ∃ place, t.Opens path place ∧ t' = t.put place (.file content) := by
  simp only [← openFile_eq_ok_iff, write]
  cases t.openFile path with
  | error e => simp [Except.map]
  | ok place => simp [Except.map, eq_comm]

theorem walk_append (front back : List FileName) (origin : Place) :
    t.walk origin (front ++ back) = (t.walk origin front).bind (t.walk · back) := by
  induction front generalizing origin with
  | nil => rfl
  | cons name rest ih =>
      rw [List.cons_append, walk, walk]
      cases t.stepTo origin name with
      | error e => rfl
      | ok next => exact ih next

/-- The file at the place of a path is read by it. -/
theorem Leads.read (h : t.Leads path place) (hfile : t.lookup place = some (.file content)) :
    t.read path = .ok content := by
  obtain ⟨husable, hnames, parent, name, hends, rfl⟩ := h
  have hnext : parent.next name = parent.child name :=
    Place.next_of_name (fun h => hends.proper (.inl h)) (fun h => hends.proper (.inr (.inl h)))
      (fun h => hends.proper (.inr (.inr h)))
  have hstep : t.stepTo parent name = .ok (parent.child name) := by
    simp only [stepTo, hends.directory, hends.short, hnext, hfile, Bool.false_eq_true, if_false,
      Option.isSome_some, if_true]
  have hwalk : t.walk (t.origin path) (fileNames path) = .ok (parent.child name) := by
    rw [← List.dropLast_append_getLast? name hends.last, walk_append, hends.way]
    simp only [Except.bind, walk, hstep]
  refine guardPath_eq_ok.2 ⟨husable, bind_eq_ok.2 ⟨.file content, ?_, rfl⟩⟩
  refine bind_eq_ok.2 ⟨_, hnames, bind_eq_ok.2 ⟨_, hwalk, ?_⟩⟩
  rw [hfile]

theorem Leads.eq {place' : Place} (h : t.Leads path place) (h' : t.Leads path place') :
    place = place' := by
  obtain ⟨-, -, parent, name, hends, rfl⟩ := h
  obtain ⟨-, -, parent', name', hends', rfl⟩ := h'
  rw [Except.ok.inj (hends.way.symm.trans hends'.way),
    Option.some.inj (hends.last.symm.trans hends'.last)]

/-- Paths that lead to one place end in the same name. -/
theorem Leads.getLast?_eq {path' : RawText} (h : t.Leads path place) (h' : t.Leads path' place) :
    (fileNames path).getLast? = (fileNames path').getLast? := by
  obtain ⟨-, -, parent, name, hends, rfl⟩ := h
  obtain ⟨-, -, parent', name', hends', heq⟩ := h'
  rw [hends.last, hends'.last, (Place.child_inj heq).2]

/-! ## ways that stay -/

variable {other : Place}

theorem stepTo_put (hother : t.lookup other ≠ some .directory) {next : Place} {name : FileName}
    (h : t.stepTo place name = .ok next) :
    (t.put other (.file content)).stepTo place name = .ok next := by
  rw [stepTo] at h
  split at h
  · contradiction
  · contradiction
  · next hdirectory =>
      have hne : place ≠ other := fun heq => hother (heq ▸ hdirectory)
      rw [stepTo, lookup_put, if_neg hne, hdirectory]
      split at h
      · contradiction
      · next hshort =>
          split at h
          · next hthere =>
              have hstill : ((t.put other (.file content)).lookup (place.next name)).isSome := by
                rw [lookup_put]
                split
                · rfl
                · exact hthere
              simp only [hshort, Bool.false_eq_true, if_false, hstill, if_true, h]
          · contradiction

theorem walk_put (hother : t.lookup other ≠ some .directory) {names : List FileName}
    {origin : Place} (h : t.walk origin names = .ok place) :
    (t.put other (.file content)).walk origin names = .ok place := by
  induction names generalizing origin with
  | nil => exact h
  | cons name rest ih =>
      rw [walk] at h
      cases hstep : t.stepTo origin name with
      | error e => simp [hstep] at h
      | ok next =>
          simp only [hstep] at h
          rw [walk, stepTo_put hother hstep]
          exact ih h

/-- A file that is put where there is no directory leaves the ways as they are. -/
theorem Leads.put (hother : t.lookup other ≠ some .directory) (h : t.Leads path place) :
    (t.put other (.file content)).Leads path place := by
  obtain ⟨husable, hnames, parent, name, hends, rfl⟩ := h
  have hne : parent ≠ other := fun heq => hother (heq ▸ hends.directory)
  refine ⟨husable, hnames, parent, name,
    ⟨walk_put hother hends.way, ?_, hends.last, hends.proper, hends.short⟩, rfl⟩
  rw [lookup_put, if_neg hne]
  exact hends.directory

/-- A file that was written is read by its path. -/
theorem read_of_write (h : t.write path content = .ok t') : t'.read path = .ok content := by
  obtain ⟨place, ⟨hleads, hfree⟩, rfl⟩ := write_eq_ok_iff.1 h
  exact (hleads.put hfree).read (by rw [lookup_put, if_pos rfl])

end

/-! ## one file after the other -/

section

variable {t t' : FileTree} {files front back : List (RawText × List UInt8)} {path : RawText}
  {place : Place} {content : List UInt8}

theorem writeAll_append (t : FileTree) (front back : List (RawText × List UInt8)) :
    t.writeAll (front ++ back) = (t.writeAll front).bind (·.writeAll back) := by
  induction front generalizing t with
  | nil => rfl
  | cons file rest ih =>
      rw [List.cons_append, writeAll, writeAll]
      cases t.write file.1 file.2 with
      | error e => rfl
      | ok next => exact ih next

theorem exists_of_writeAll_cons {file : RawText × List UInt8}
    (h : t.writeAll (file :: files) = .ok t') : ∃ place, t.Leads file.1 place ∧
      t.lookup place ≠ some .directory ∧ (t.put place (.file file.2)).writeAll files = .ok t' := by
  rw [writeAll] at h
  cases hwrite : t.write file.1 file.2 with
  | error e => simp [hwrite] at h
  | ok next =>
      simp only [hwrite] at h
      obtain ⟨place, ⟨hleads, hfree⟩, rfl⟩ := write_eq_ok_iff.1 hwrite
      exact ⟨place, hleads, hfree, h⟩

theorem Leads.writeAll (h : t.Leads path place) (hfiles : t.writeAll files = .ok t') :
    t'.Leads path place := by
  induction files generalizing t with
  | nil => exact Except.ok.inj hfiles ▸ h
  | cons file rest ih =>
      obtain ⟨other, -, hother, hrest⟩ := exists_of_writeAll_cons hfiles
      exact ih (h.put hother) hrest

/-- Where nothing was written, nothing has changed. -/
theorem lookup_of_writeAll (hfiles : t.writeAll files = .ok t')
    (h : ∀ file ∈ files, ¬ t'.Leads file.1 place) : t'.lookup place = t.lookup place := by
  induction files generalizing t with
  | nil => rw [Except.ok.inj hfiles]
  | cons file rest ih =>
      obtain ⟨other, hleads, hother, hrest⟩ := exists_of_writeAll_cons hfiles
      have hne : place ≠ other := fun heq =>
        h file List.mem_cons_self (heq ▸ (hleads.put hother).writeAll hrest)
      rw [ih hrest fun later hlater => h later (List.mem_cons_of_mem file hlater), lookup_put,
        if_neg hne]

/-- A file that was written has a place, which holds it unless another was written
there later. -/
theorem exists_leads_of_writeAll
    (hfiles : t.writeAll (front ++ (path, content) :: back) = .ok t') :
    ∃ place, t'.Leads path place ∧ ((∀ file ∈ back, ¬ t'.Leads file.1 place) →
      t'.lookup place = some (.file content)) := by
  rw [writeAll_append] at hfiles
  obtain ⟨before, -, hfiles⟩ := bind_eq_ok.1 hfiles
  obtain ⟨place, hleads, hfree, hrest⟩ := exists_of_writeAll_cons hfiles
  refine ⟨place, (hleads.put hfree).writeAll hrest, fun hback => ?_⟩
  rw [lookup_of_writeAll hrest hback, lookup_put, if_pos rfl]

end

end FileTree

/-! ## files in one directory -/

/-- The last segment lies behind the last separator. -/
theorem getLast?_segments {α : Type} {isSep : α → Bool} {sep : α} (hsep : isSep sep = true)
    (front : List α) {back : List α} (hback : ∀ a ∈ back, isSep a = false) :
    (segments isSep (front ++ sep :: back)).getLast? = some back := by
  rw [segments_append_cons hsep, segments_of_forall_not_sep hback, List.getLast?_concat]

/-- A text with nothing in it, or one that a separator closes. -/
def ClosedBy (sep text : RawText) : Prop := text = [] ∨ ∃ more, text = more ++ sep

/-- Texts in a row end in the last of them. -/
theorem intercalate_concat (sep : RawText) (texts : List RawText) (last : RawText) :
    ∃ front, sep.intercalate (texts ++ [last]) = front ++ last ∧ ClosedBy sep front := by
  induction texts with
  | nil => exact ⟨[], by simp [List.intercalate], .inl rfl⟩
  | cons first rest ih =>
      obtain ⟨front, hrest, hfront⟩ := ih
      obtain ⟨second, more, heq⟩ : ∃ second more, rest ++ [last] = second :: more :=
        List.exists_cons_of_ne_nil (by simp)
      refine ⟨first ++ sep ++ front, ?_, .inr ?_⟩
      · rw [List.cons_append, heq, List.intercalate_cons_cons, ← heq, hrest, ← List.append_assoc]
      · obtain rfl | ⟨more, rfl⟩ := hfront
        · exact ⟨first, List.append_nil _⟩
        · exact ⟨first ++ sep ++ more, (List.append_assoc ..).symm⟩

/-- A name behind a slash, or one that stands alone, is the last of its path. -/
theorem getLast?_pathNames {front name : RawText} (hfront : ClosedBy "/" front)
    (hname : ∀ c ∈ name, isSlash c = false) : (pathNames (front ++ name)).getLast? = some name := by
  rw [pathNames]
  obtain rfl | ⟨more, rfl⟩ := hfront
  · rw [List.nil_append, segments_of_forall_not_sep hname, List.getLast?_singleton]
  · have hslash : ("/" : RawText) = [.char '/'] := by decide
    rw [hslash, List.append_assoc, List.singleton_append, getLast?_segments rfl more hname]

namespace Path

theorem closedBy_root (dir : RawText) : ClosedBy "/" (ofText dir).root := by
  have hroots : ClosedBy "/" "" ∧ ClosedBy "/" "/" ∧ ClosedBy "/" "//" :=
    ⟨.inl rfl, .inr ⟨[], rfl⟩, .inr ⟨"/", by decide⟩⟩
  obtain ⟨hnone, hone, htwo⟩ := hroots
  rw [ofText]
  simp only [rootOf]
  split
  · exact hnone
  · exact htwo
  · exact hone

/-- The path of a file in a directory ends in its name. -/
theorem getLast?_pathNames_child (dir : RawText) {name : RawText} (hempty : name ≠ [])
    (hslash : ∀ c ∈ name, isSlash c = false) :
    (pathNames ((ofText dir).child name).text).getLast? = some name := by
  obtain ⟨front, hnames, hfront⟩ := intercalate_concat "/" (ofText dir).names name
  have hclosed : ClosedBy "/" ((ofText dir).root ++ front) := by
    obtain rfl | ⟨more, rfl⟩ := hfront
    · rw [List.append_nil]
      exact closedBy_root dir
    · exact .inr ⟨(ofText dir).root ++ more, (List.append_assoc ..).symm⟩
  have htext : ((ofText dir).child name).text = (ofText dir).root ++ front ++ name := by
    rw [text, child, hnames, ← List.append_assoc]
    exact if_neg fun h => hempty (List.append_eq_nil_iff.1 h).2
  rw [htext]
  exact getLast?_pathNames hclosed hslash

end Path

/-- Strings are told apart by the names they spell. -/
theorem FileName.ofText_injective {s t : String} (h : ofText s = ofText t) : s = t := by
  have hbytes : ∀ s : String, (ofText s).bytes = Text.Utf8.encode s.toList := fun s =>
    Text.bytes_ofChars (fun c => rfl) s.toList
  refine String.toList_inj.1 ?_
  rw [← Text.Utf8.decodeLossy_encode s.toList, ← hbytes, h, hbytes, Text.Utf8.decodeLossy_encode]

end BatchMailer
