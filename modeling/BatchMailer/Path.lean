import BatchMailer.Segments
import BatchMailer.Text.Blank
import BatchMailer.Text.RawText

/-!
# BatchMailer.Path

File paths.  A path's text is cut at its slashes; `Path` is the tidy form of a
text, without empty names and single dots, in which `..` is kept because it need
not undo the name before it.

`parentOf` cuts a text in front of its last name, for making the directories
above it.
-/

namespace BatchMailer

/-- Whether a code point separates two names of a path. -/
def isSlash (c : CodePoint) : Bool := c == .char '/'

/-- The names of a path's text, as they stand between its slashes. -/
def pathNames (text : RawText) : List RawText := segments isSlash text

/-- A path in tidy form: what stands for its root, and its names. -/
structure Path where
  root : RawText
  names : List RawText
  deriving DecidableEq, Repr

namespace Path

/-- The slashes a text starts with, as a root: exactly two are a root of their
own, and any other number is one. -/
def rootOf (text : RawText) : RawText :=
  match (text.takeWhile isSlash).length with
  | 0 => ""
  | 2 => "//"
  | _ => "/"

/-- The tidy form of a text. -/
def ofText (text : RawText) : Path where
  root := rootOf text
  names := (pathNames text).filter fun name => name ≠ [] ∧ name ≠ "."

/-- The path of a name in a directory. -/
def child (p : Path) (name : RawText) : Path := { p with names := p.names ++ [name] }

/-- The text of a path; one without root and names is the current directory. -/
def text (p : Path) : RawText :=
  let text := p.root ++ List.intercalate "/" p.names
  if text = [] then "." else text

end Path

/-! ## the directory above a path -/

/-- Cuts a text behind its last slash.  The slashes at the end of the first part
are dropped, unless it holds nothing else. -/
def splitLast (cs : RawText) : RawText × RawText :=
  let back := cs.reverse
  let head := (back.dropWhile (!isSlash ·)).reverse
  let tail := (back.takeWhile (!isSlash ·)).reverse
  (if head.all isSlash then head else Text.trimBack isSlash head, tail)

/-- The directory a path lies in and its last name; slashes at the end of the
path do not count. -/
def parentOf (cs : RawText) : RawText × RawText :=
  let (head, tail) := splitLast cs
  if tail.isEmpty then splitLast head else (head, tail)

theorem length_trimBack_le (p : CodePoint → Bool) (cs : RawText) :
    (Text.trimBack p cs).length ≤ cs.length := by
  simpa [Text.trimBack] using List.Sublist.length_le (List.dropWhile_sublist (l := cs.reverse) p)

theorem length_splitLast_le (cs : RawText) :
    (splitLast cs).1.length + (splitLast cs).2.length ≤ cs.length := by
  have htrim := length_trimBack_le isSlash (cs.reverse.dropWhile (!isSlash ·)).reverse
  have hparts := congrArg List.length
    (List.takeWhile_append_dropWhile (p := fun c => !isSlash c) (l := cs.reverse))
  simp only [List.length_append, List.length_reverse] at hparts htrim
  unfold splitLast
  simp only
  split <;> simp only [List.length_reverse] <;> omega

/-- The directory above a path with a last name has a shorter text. -/
theorem length_parentOf_lt {cs : RawText} (h : (parentOf cs).2 ≠ []) :
    (parentOf cs).1.length < cs.length := by
  have houter := length_splitLast_le cs
  have hinner := length_splitLast_le (splitLast cs).1
  have hpos : 0 < (parentOf cs).2.length := List.length_pos_iff.2 h
  by_cases hempty : (splitLast cs).2.isEmpty = true
  · rw [show parentOf cs = splitLast (splitLast cs).1 by simp [parentOf, hempty]] at hpos ⊢
    omega
  · rw [show parentOf cs = splitLast cs by simp [parentOf, hempty]] at hpos ⊢
    omega

end BatchMailer
