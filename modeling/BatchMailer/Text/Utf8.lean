/-!
# BatchMailer.Text.Utf8

UTF-8 over byte lists, as an automaton that reads one byte at a time.

A lead byte announces a sequence: which bytes may come next and how many follow
that one (`Sequence`).  Overlong forms, surrogates and code points above
U+10FFFF are excluded by the range of the second byte alone, so a sequence that
is completed is always a character.

`decodeLossy` replaces each maximal well-formed beginning of a sequence that is
not completed, and each byte that can start none, by U+FFFD; the byte that broke
a sequence is read afresh, so an ASCII byte is never swallowed.  `decode?`
accepts exactly the byte strings that `decodeLossy` reads without loss.
-/

namespace BatchMailer.Text.Utf8

/-! ## encoding -/

/-- A byte of a number below 256. -/
def byte (n : Nat) : UInt8 := UInt8.ofNat n

/-- The bytes of one character, by the number of bits its code point needs. -/
def encodeChar (c : Char) : List UInt8 :=
  let n := c.toNat
  if n < 0x80 then [byte n]
  else if n < 0x800 then [byte (0xC0 + n / 0x40), byte (0x80 + n % 0x40)]
  else if n < 0x10000 then
    [byte (0xE0 + n / 0x1000), byte (0x80 + n / 0x40 % 0x40), byte (0x80 + n % 0x40)]
  else
    [byte (0xF0 + n / 0x40000), byte (0x80 + n / 0x1000 % 0x40), byte (0x80 + n / 0x40 % 0x40),
      byte (0x80 + n % 0x40)]

/-- The bytes of a text. -/
def encode (cs : List Char) : List UInt8 := cs.flatMap encodeChar

/-! ## decoding -/

/-- The replacement character. -/
def replacement : Char := '\uFFFD'

/-- A sequence that is begun and not finished: the bits read so far, the range
the next byte must lie in, and how many bytes follow that one. -/
structure Sequence where
  bits : Nat
  low : UInt8
  high : UInt8
  more : Nat
  deriving DecidableEq, Repr

/-- Whether a byte continues a sequence. -/
def Sequence.admits (s : Sequence) (b : UInt8) : Bool := s.low ≤ b && b ≤ s.high

/-- The bits of a sequence with one more continuation byte. -/
def Sequence.extend (s : Sequence) (b : UInt8) : Nat := s.bits * 0x40 + (b.toNat - 0x80)

/-- A byte that is read outside any sequence is a character, or begins a
sequence, or can do neither and is replaced. -/
def lead (b : UInt8) : List Char × Option Sequence :=
  if b < 0x80 then ([Char.ofNat b.toNat], none)
  else if b < 0xC2 then ([replacement], none)
  else if b < 0xE0 then ([], some ⟨b.toNat - 0xC0, 0x80, 0xBF, 0⟩)
  else if b = 0xE0 then ([], some ⟨0, 0xA0, 0xBF, 1⟩)
  else if b = 0xED then ([], some ⟨0xD, 0x80, 0x9F, 1⟩)
  else if b < 0xF0 then ([], some ⟨b.toNat - 0xE0, 0x80, 0xBF, 1⟩)
  else if b = 0xF0 then ([], some ⟨0, 0x90, 0xBF, 2⟩)
  else if b < 0xF4 then ([], some ⟨b.toNat - 0xF0, 0x80, 0xBF, 2⟩)
  else if b = 0xF4 then ([], some ⟨4, 0x80, 0x8F, 2⟩)
  else ([replacement], none)

/-- A byte that is read within a sequence continues it, or completes it, or
breaks it: then the sequence is replaced and the byte read afresh. -/
def Sequence.next (s : Sequence) (b : UInt8) : List Char × Option Sequence :=
  if s.admits b then
    match s.more with
    | 0 => ([Char.ofNat (s.extend b)], none)
    | more + 1 => ([], some ⟨s.extend b, 0x80, 0xBF, more⟩)
  else (replacement :: (lead b).1, (lead b).2)

/-- One step of the automaton: the characters it puts out and the sequence it is
left in. -/
def step : Option Sequence → UInt8 → List Char × Option Sequence
  | none, b => lead b
  | some s, b => s.next b

/-- The characters of a byte string that is read from a given state.  A sequence
that the end cuts short is replaced. -/
def decodeFrom : Option Sequence → List UInt8 → List Char
  | none, [] => []
  | some _, [] => [replacement]
  | state, b :: rest => (step state b).1 ++ decodeFrom (step state b).2 rest

/-- The text of a byte string, with U+FFFD where it is not well formed. -/
def decodeLossy (bytes : List UInt8) : List Char := decodeFrom none bytes

/-- The text of a well-formed byte string: one that decoding reads without loss. -/
def decode? (bytes : List UInt8) : Option (List Char) :=
  let cs := decodeLossy bytes
  if encode cs = bytes then some cs else none

/-- What `decode?` accepts is the encoding of its answer. -/
theorem encode_of_decode? {bytes : List UInt8} {cs : List Char} (h : decode? bytes = some cs) :
    encode cs = bytes := by
  unfold decode? at h
  simp only [Option.ite_none_right_eq_some, Option.some.injEq] at h
  obtain ⟨heq, rfl⟩ := h
  exact heq

@[simp] theorem encode_nil : encode [] = [] := rfl

theorem encode_cons (c : Char) (cs : List Char) : encode (c :: cs) = encodeChar c ++ encode cs := by
  simp [encode]

theorem encode_append (cs ds : List Char) : encode (cs ++ ds) = encode cs ++ encode ds := by
  simp [encode]

@[simp] theorem decodeLossy_nil : decodeLossy [] = [] := rfl

/-- An ASCII byte is read as itself, and what follows it is read afresh. -/
theorem decodeLossy_cons_ascii {b : UInt8} (h : b < 0x80) (rest : List UInt8) :
    decodeLossy (b :: rest) = Char.ofNat b.toNat :: decodeLossy rest := by
  simp [decodeLossy, decodeFrom, step, lead, h]

end BatchMailer.Text.Utf8
