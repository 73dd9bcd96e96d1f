import BatchMailer.Text.Quoted
import BatchMailer.Text.Utf8

/-!
# BatchMailer.Text.Encode

Texts as bytes.

A text is written code point by code point, by a `Coding` that may have no bytes
for some of them.  Surrogates have none in the content of a file (`contentCoding`);
in a path some of them stand for single bytes that are not UTF-8 (`pathCoding`).
A text with a code point that has no bytes is not written at all (`encode`), and
the error tells the first such stretch: the first code point without bytes and the
surrogates right behind it (`EncodeError`).
-/

namespace BatchMailer.Text

/-- The bytes of each code point that has any. -/
abbrev Coding : Type := CodePoint → Option (List UInt8)

/-- UTF-8, in which no surrogate has bytes. -/
def contentCoding : Coding
  | .char c => some (Utf8.encodeChar c)
  | .surrogate _ => none

/-- The number among the surrogates of the one that stands for the byte 0x80.
Those behind it stand for the bytes up to 0xFF. -/
def firstByteSurrogate : Nat := 0x480

/-- UTF-8, in which the surrogates U+DC80 to U+DCFF stand for bytes beyond ASCII. -/
def pathCoding : Coding
  | .char c => some (Utf8.encodeChar c)
  | .surrogate n =>
    if firstByteSurrogate ≤ n.val ∧ n.val < firstByteSurrogate + 0x80 then
      some [Utf8.byte (0x80 + (n.val - firstByteSurrogate))]
    else none

/-- A stretch of a text without bytes: the position of its first code point, this
code point, and how many follow. -/
structure EncodeError where
  position : Nat
  first : CodePoint
  more : Nat
  deriving DecidableEq, Repr

/-- The wording of an encoding error. -/
def EncodeError.message (e : EncodeError) : String :=
  let place :=
    if e.more = 0 then " " ++ quoted [e.first] ++ " in position " ++ toString e.position
    else "s in position " ++ toString e.position ++ "-" ++ toString (e.position + e.more)
  "'utf-8' codec can't encode character" ++ place ++ ": surrogates not allowed"

/-- The first stretch of a text without bytes, in positions from a given one on. -/
def obstacle (coding : Coding) (position : Nat) : RawText → Option EncodeError
  | [] => none
  | c :: rest =>
    if (coding c).isSome then obstacle coding (position + 1) rest
    else some { position, first := c, more := (rest.takeWhile (·.isSurrogate)).length }

/-- The bytes of a text, as far as its code points have any. -/
def bytes (coding : Coding) (t : RawText) : List UInt8 := t.flatMap fun c => (coding c).getD []

/-- The bytes of a text all of whose code points have bytes. -/
def encode (coding : Coding) (t : RawText) : Except EncodeError (List UInt8) :=
  match obstacle coding 0 t with
  | some e => .error e
  | none => .ok (bytes coding t)

section

variable {coding : Coding} {t u : RawText}

/-- There is no obstacle exactly if every code point has bytes. -/
theorem obstacle_eq_none_iff (position : Nat) :
    obstacle coding position t = none ↔ ∀ c ∈ t, (coding c).isSome := by
  induction t generalizing position with
  | nil => simp [obstacle]
  | cons c rest ih => by_cases hc : (coding c).isSome <;> simp [obstacle, hc, ih]

theorem encode_eq_ok_iff {content : List UInt8} :
    encode coding t = .ok content ↔ (∀ c ∈ t, (coding c).isSome) ∧ bytes coding t = content := by
  rw [← obstacle_eq_none_iff 0, encode]
  cases obstacle coding 0 t <;> simp

theorem bytes_append : bytes coding (t ++ u) = bytes coding t ++ bytes coding u :=
  List.flatMap_append

end

/-- Characters have bytes in the content of a file. -/
theorem isSome_contentCoding {c : CodePoint} :
    (contentCoding c).isSome ↔ c.isSurrogate = false := by
  cases c <;> simp [contentCoding, CodePoint.isSurrogate]

/-- Characters have the same bytes in every coding that is UTF-8 for them. -/
theorem bytes_ofChars {coding : Coding} (hcoding : ∀ c, coding (.char c) = some (Utf8.encodeChar c))
    (cs : List Char) : bytes coding (.ofChars cs) = Utf8.encode cs := by
  simp [bytes, RawText.ofChars, Utf8.encode, List.flatMap_map, hcoding]

/-- A string is written by the bytes of its characters. -/
theorem encode_ofString (s : String) :
    encode contentCoding s = .ok (Utf8.encode s.toList) := by
  refine encode_eq_ok_iff.2 ⟨fun c hc => ?_, bytes_ofChars (fun c => rfl) s.toList⟩
  obtain ⟨d, -, rfl⟩ := RawText.mem_ofChars_iff.1 hc
  rfl

end BatchMailer.Text
