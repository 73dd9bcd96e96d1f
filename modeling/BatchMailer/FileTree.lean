import BatchMailer.Path
import BatchMailer.Text.Encode

/-!
# BatchMailer.FileTree

A tree of files and directories, kept as a list of entries, each under its place.
Places are counted from the top of the system.  Paths lead from there if they
start with a slash, and otherwise from the tree's working directory.

A path is a text, and the system knows the names in it by their bytes.  One with a
code point that has none, or with a NUL character, is no path at all (`guardPath`).

Paths are resolved name by name (`walk`): each name is looked up in a directory
that exists, and the first name that cannot be decides the error.  `lookup` is
the view all operations are described by: `lookup_put` says that an entry that
is put at a place is found there and nothing else has changed.
-/

namespace BatchMailer

/-- The name of an entry, by its bytes. -/
structure FileName where
  bytes : List UInt8
  deriving DecidableEq, Repr

namespace FileName

/-- The name that a text spells. -/
def ofText (t : RawText) : FileName := ⟨Text.bytes Text.pathCoding t⟩

instance : Coe String FileName := ⟨fun s => ofText s⟩

/-- The name of nothing, between two slashes. -/
def empty : FileName := ⟨[]⟩

/-- One dot, which stays in a directory. -/
def dot : FileName := ⟨[0x2E]⟩

/-- Two dots, which go back. -/
def dots : FileName := ⟨[0x2E, 0x2E]⟩

/-- The most bytes a name may have. -/
def maxBytes : Nat := 255

/-- Whether a name is longer than any entry's. -/
def isLong (name : FileName) : Bool := maxBytes < name.bytes.length

/-- Names one after the other, with slashes between them. -/
def joined (names : List FileName) : List UInt8 :=
  List.intercalate [0x2F] (names.map FileName.bytes)

end FileName

/-- A place in a tree: the names on the way to it from the top, innermost first,
and how many they are, which is what tells most places apart. -/
structure Place where
  depth : Nat
  names : List FileName
  deriving DecidableEq, Repr

namespace Place

/-- The top of the system. -/
def top : Place := { depth := 0, names := [] }

/-- The place of a name in a directory. -/
def child (p : Place) (name : FileName) : Place :=
  { depth := p.depth + 1, names := name :: p.names }

/-- The place of the directory above; nothing is above the top. -/
def parent (p : Place) : Place := { depth := p.depth - 1, names := p.names.tail }

/-- The place one name further on from a directory.  An empty name and a dot stay
there, and two dots go back. -/
def next (p : Place) (name : FileName) : Place :=
  if name = .empty ∨ name = .dot then p else if name = .dots then p.parent else p.child name

/-- The directory for temporary files. -/
def temporary : Place := top.child "tmp"

/-- A directory for temporary files of its own.  No path spells its name, for a
name holds no slash. -/
def unnamed : Place := temporary.child "/"

/-- The directory of devices. -/
def devices : Place := top.child "dev"

/-- The device that reads empty. -/
def null : Place := devices.child "null"

/-- The places on the way from the top to a place, with both. -/
def ancestors (p : Place) : List Place :=
  (List.range (p.depth + 1)).map fun n => { depth := n, names := p.names.drop (p.depth - n) }

/-- Whether a place lies below another. -/
def isBelow (p q : Place) : Bool := q.depth < p.depth && q.names.isSuffixOf p.names

/-- The path of a place as it is seen from a place above it. -/
def pathFrom (p q : Place) : List UInt8 := FileName.joined (p.names.reverse.drop q.depth)

/-- The path of a place. -/
def path (p : Place) : List UInt8 := 0x2F :: p.pathFrom top

@[simp] theorem parent_child (p : Place) (name : FileName) : (p.child name).parent = p := rfl

@[simp] theorem parent_top : top.parent = top := rfl

/-- A name that is none of the dots leads into the directory. -/
theorem next_of_name {p : Place} {name : FileName} (hempty : name ≠ .empty) (hdot : name ≠ .dot)
    (hdots : name ≠ .dots) : p.next name = p.child name := by
  simp [next, hempty, hdot, hdots]

theorem child_inj {p q : Place} {m n : FileName} (h : p.child m = q.child n) : p = q ∧ m = n := by
  obtain ⟨d, names⟩ := p
  obtain ⟨e, others⟩ := q
  simp only [child, Place.mk.injEq, List.cons.injEq] at h
  obtain ⟨hdepth, hname, hnames⟩ := h
  exact ⟨by simp [hnames]; omega, hname⟩

end Place

/-- What a path can name. -/
inductive FileTree.Entry where
  | directory
  | file (content : List UInt8)
  deriving DecidableEq, Repr

/-- Why the system refuses a path. -/
inductive PathError where
  | notFound
  | alreadyExists
  | notDirectory
  | isDirectory
  | nameTooLong
  deriving DecidableEq, Repr

namespace PathError

/-- The number of an error. -/
def number : PathError → Nat
  | notFound => 2
  | alreadyExists => 17
  | notDirectory => 20
  | isDirectory => 21
  | nameTooLong => 36

/-- An error in words. -/
def description : PathError → String
  | notFound => "No such file or directory"
  | alreadyExists => "File exists"
  | notDirectory => "Not a directory"
  | isDirectory => "Is a directory"
  | nameTooLong => "File name too long"

end PathError

/-- Why a file operation failed: its path has no bytes, or holds a NUL character, or
the system refused it. -/
inductive FileError where
  | unencodable (e : Text.EncodeError)
  | embeddedNul
  | refused (cause : PathError) (path : RawText)
  deriving DecidableEq, Repr

/-- The wording of an error of the system. -/
def systemMessage (number : Nat) (description : String) : String :=
  "[Errno " ++ toString number ++ "] " ++ description

/-- The wording of a file error. -/
def FileError.message : FileError → String
  | unencodable e => e.message
  | embeddedNul => "embedded null byte"
  | refused cause path =>
    systemMessage cause.number cause.description ++ ": " ++ Text.quoted path

/-- Another error does not make a success. -/
theorem mapError_eq_ok {ε ε' α : Type} {x : Except ε α} {f : ε → ε'} {a : α} :
    x.mapError f = .ok a ↔ x = .ok a := by
  cases x with
  | error e => exact iff_of_false nofun nofun
  | ok b =>
      have hok : (Except.ok b).mapError f = .ok b := rfl
      rw [hok, Except.ok.injEq, Except.ok.injEq]

/-- Files and directories by their places, and the working directory. -/
structure FileTree where
  here : Place
  entries : List (Place × FileTree.Entry)
  deriving DecidableEq, Repr

namespace FileTree

/-- The entry at a place among the entries of a tree. -/
def entryAt (place : Place) : List (Place × Entry) → Option Entry
  | [] => none
  | e :: rest => if e.1 = place then some e.2 else entryAt place rest

/-- The entries of a tree with one more, or with one in the stead of another. -/
def putEntry (place : Place) (entry : Entry) : List (Place × Entry) → List (Place × Entry)
  | [] => [(place, entry)]
  | e :: rest => if e.1 = place then (place, entry) :: rest else e :: putEntry place entry rest

/-- The entry at a place. -/
def lookup (t : FileTree) (place : Place) : Option Entry := entryAt place t.entries

/-- The tree with an entry at a place, in the stead of what was there. -/
def put (t : FileTree) (place : Place) (entry : Entry) : FileTree :=
  { t with entries := putEntry place entry t.entries }

/-- The tree with nothing but the way to its working directory. -/
def around (here : Place) : FileTree := ⟨here, here.ancestors.map (·, .directory)⟩

/-- The tree of a system where nothing has been done yet. -/
def fresh : FileTree := ((around .unnamed).put .devices .directory).put .null (.file [])

/-! ## resolving paths -/

/-- The most bytes a path may have. -/
def maxPathBytes : Nat := 4095

/-- One name further on from a place, which must be a directory; what the name
leads to must be there. -/
def stepTo (t : FileTree) (place : Place) (name : FileName) : Except PathError Place :=
  match t.lookup place with
  | none => .error .notFound
  | some (.file _) => .error .notDirectory
  | some .directory =>
    if name.isLong then .error .nameTooLong
    else if (t.lookup (place.next name)).isSome then .ok (place.next name)
    else .error .notFound

/-- Where a chain of names leads. -/
def walk (t : FileTree) (place : Place) : List FileName → Except PathError Place
  | [] => .ok place
  | name :: rest =>
    match t.stepTo place name with
    | .error e => .error e
    | .ok next => t.walk next rest

/-- The names that a path's text spells. -/
def fileNames (path : RawText) : List FileName := (pathNames path).map .ofText

/-- The names of a path, unless it is empty or too long to be used. -/
def usableNames (path : RawText) : Except PathError (List FileName) :=
  if path = [] then .error .notFound
  else if maxPathBytes < (Text.bytes Text.pathCoding path).length then .error .nameTooLong
  else .ok (fileNames path)

/-- Where the names of a path lead from. -/
def origin (t : FileTree) (path : RawText) : Place :=
  if path.head?.any isSlash then .top else t.here

/-- The entry a path leads to. -/
def find (t : FileTree) (path : RawText) : Except PathError Entry := do
  let names ← usableNames path
  let place ← t.walk (t.origin path) names
  match t.lookup place with
  | some entry => .ok entry
  | none => .error .notFound

/-- The place that names lead to from an origin; the last of them need not exist.
`none` stands for a directory that is there without being named: the names end in
dots, or there are none. -/
def target (t : FileTree) (origin : Place) (names : List FileName) :
    Except PathError (Option Place) := do
  let parent ← t.walk origin names.dropLast
  match t.lookup parent with
  | some .directory =>
    match names.getLast? with
    | none => .ok none
    | some last =>
      if last = .empty ∨ last = .dot ∨ last = .dots then .ok none
      else if last.isLong then .error .nameTooLong
      else .ok (some (parent.child last))
  | _ => .error .notDirectory

/-! ## operations -/

/-- Carries out what is to be done with a path, if it is one: each of its code points
must have bytes, and none must be NUL. -/
def guardPath (path : RawText) (act : Except PathError α) : Except FileError α :=
  match Text.encode Text.pathCoding path with
  | .error e => .error (.unencodable e)
  | .ok _ =>
    if path.contains (.char '\x00') then .error .embeddedNul
    else act.mapError (FileError.refused · path)

/-- Opens a file for writing.  The answer is its place, where a file may be, which is
written over then, but no directory. -/
def openFile (t : FileTree) (path : RawText) : Except FileError Place :=
  guardPath path do
    let names ← usableNames path
    match ← t.target (t.origin path) names with
    | none => .error .isDirectory
    | some place =>
      match t.lookup place with
      | some .directory => .error .isDirectory
      | _ => .ok place

/-- Reads a file. -/
def read (t : FileTree) (path : RawText) : Except FileError (List UInt8) :=
  guardPath path do
    match ← t.find path with
    | .directory => .error .isDirectory
    | .file content => .ok content

/-- Makes one directory.  Slashes at the end of the path do not count. -/
def makeDirectory (t : FileTree) (path : RawText) : Except FileError FileTree :=
  guardPath path do
    let names ← usableNames path
    match ← t.target (t.origin path) (Text.trimBack (· == .empty) names) with
    | none => .error .alreadyExists
    | some place =>
      if (t.lookup place).isSome then .error .alreadyExists else .ok (t.put place .directory)

/-- Whether a path leads to a directory. -/
def isDirectory (t : FileTree) (path : RawText) : Bool :=
  match guardPath path (t.find path) with
  | .ok .directory => true
  | _ => false

/-- Whether a path leads to anything. -/
def contains (t : FileTree) (path : RawText) : Bool :=
  match guardPath path (t.find path) with
  | .ok _ => true
  | .error _ => false

/-- Makes a directory unless it is there already. -/
def ensureDirectory (t : FileTree) (path : RawText) : Except FileError Unit × FileTree :=
  match t.makeDirectory path with
  | .ok made => (.ok (), made)
  | .error e => if t.isDirectory path then (.ok (), t) else (.error e, t)

/-- Whether the directory below is not tried after this one was to be made.  One whose
path leads to something is passed over: whatever is to be made below it will tell. -/
def abortsMaking : Except FileError Unit → Bool
  | .ok () => false
  | .error (.refused .alreadyExists _) => false
  | .error _ => true

/-- Makes a directory and those above it that are missing.  Directories that
were made before one that could not be are kept. -/
def ensureDirectories (t : FileTree) (path : RawText) : Except FileError Unit × FileTree :=
  if _h : (parentOf path).1 ≠ [] ∧ (parentOf path).2 ≠ [] ∧
      t.contains (parentOf path).1 = false then
    let above := t.ensureDirectories (parentOf path).1
    if abortsMaking above.1 then above
    else if (parentOf path).2 = "." then (.ok (), above.2)
    else above.2.ensureDirectory path
  else t.ensureDirectory path
termination_by path.length
decreasing_by exact length_parentOf_lt _h.2.1

/-- The tree with a directory at a place where nothing is. -/
def putMissing (t : FileTree) (place : Place) : FileTree :=
  if (t.lookup place).isSome then t else t.put place .directory

/-- The tree with an entry where names lead from a place, and the directories on
the way to it. -/
def seedBelow (t : FileTree) (place : Place) (entry : Entry) : List FileName → FileTree
  | [] => t
  | [name] => t.put (place.next name) entry
  | name :: rest => (t.putMissing (place.next name)).seedBelow (place.next name) entry rest

/-- The tree with an entry and the directories above it. -/
def seed (t : FileTree) (path : RawText) (entry : Entry) : FileTree :=
  t.seedBelow (t.origin path) entry ((Path.ofText path).names.map .ofText)

/-- The path to an entry, marked by a slash at its end if the entry is a directory. -/
def markedPath (path : List UInt8) : Entry → List UInt8
  | .directory => path ++ [0x2F]
  | .file _ => path

/-- The entries below the working directory by their paths, in ascending order. -/
def listing (t : FileTree) : List (List UInt8 × Entry) :=
  ((t.entries.filter (·.1.isBelow t.here)).map fun e =>
    (markedPath (e.1.pathFrom t.here) e.2, e.2)).mergeSort fun a b => a.1 ≤ b.1

/-! ## the view of an operation -/

@[simp] theorem here_put (t : FileTree) (place : Place) (entry : Entry) :
    (t.put place entry).here = t.here := rfl

theorem entryAt_putEntry (place : Place) (entry : Entry) (entries : List (Place × Entry))
    (query : Place) :
    entryAt query (putEntry place entry entries) =
      if query = place then some entry else entryAt query entries := by
  induction entries with
  | nil => simp [putEntry, entryAt, eq_comm]
  | cons e rest ih =>
    by_cases he : e.1 = place
    · by_cases hq : query = place
      · simp [putEntry, entryAt, he, hq]
      · simp [putEntry, entryAt, he, hq, Ne.symm hq]
    · by_cases hq : e.1 = query
      · have hne : query ≠ place := hq ▸ he
        simp [putEntry, entryAt, hq, hne]
      · simp [putEntry, entryAt, he, hq, ih]

/-- An entry that is put at a place is found there, and what lies elsewhere has
not changed. -/
theorem lookup_put (t : FileTree) (place : Place) (entry : Entry) (query : Place) :
    (t.put place entry).lookup query = if query = place then some entry else t.lookup query :=
  entryAt_putEntry place entry t.entries query

end FileTree

end BatchMailer
