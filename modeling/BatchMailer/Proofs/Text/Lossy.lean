import BatchMailer.Proofs.Text.Encoding
import Mathlib.Algebra.Group.Nat.Defs

/-!
# BatchMailer.Proofs.Text.Lossy

What a text keeps of bytes that are not well formed.

A sequence that is begun can only be completed to a code point from a range that
is settled by its lead (`Sequence.least`, `Sequence.greatest`).  In every state
that reading leads to this range holds neither ASCII characters nor surrogates
(`Sequence.Sound`, kept by `sound_step`), so ASCII characters come from ASCII
bytes alone and none of these is lost (`filter_isAscii_decodeFrom`).  Each byte
adds at most one character, apart from the one that a begun sequence is worth
(`length_step_le`).
-/

namespace BatchMailer.Text.Utf8

/-- Whether a byte is an ASCII character by itself. -/
def isAsciiByte (b : UInt8) : Bool := b < 0x80

/-- Whether a character is in ASCII. -/
def isAscii (c : Char) : Bool := c.toNat < 0x80

/-- The character of an ASCII byte. -/
def asciiChar (b : UInt8) : Char := Char.ofNat b.toNat

/-! ## what a sequence may become -/

namespace Sequence

/-- The least code point that a sequence can be completed to. -/
def least (s : Sequence) : Nat := s.extend s.low * 0x40 ^ s.more

/-- The greatest code point that a sequence can be completed to. -/
def greatest (s : Sequence) : Nat := s.extend s.high * 0x40 ^ s.more + (0x40 ^ s.more - 1)

/-- A sequence that takes continuation bytes only and is completed to a character
beyond ASCII. -/
structure Sound (s : Sequence) : Prop where
  low : 0x80 ≤ s.low
  high : s.high ≤ 0xBF
  beyond : 0x80 ≤ s.least
  scalar : s.greatest < 0xD800 ∨ 0xDFFF < s.least ∧ s.greatest < 0x110000

instance (s : Sequence) : Decidable s.Sound :=
  decidable_of_iff (0x80 ≤ s.low ∧ s.high ≤ 0xBF ∧ 0x80 ≤ s.least ∧
      (s.greatest < 0xD800 ∨ 0xDFFF < s.least ∧ s.greatest < 0x110000))
    ⟨fun ⟨low, high, beyond, scalar⟩ => ⟨low, high, beyond, scalar⟩,
      fun ⟨low, high, beyond, scalar⟩ => ⟨low, high, beyond, scalar⟩⟩

section

variable {s : Sequence} {b : UInt8}

theorem admits_iff : s.admits b = true ↔ s.low ≤ b ∧ b ≤ s.high := by
  simp [admits]

/-- A byte that a sequence admits leads to a code point between those of the least
and of the greatest such byte. -/
theorem extend_mem (hadmits : s.admits b = true) :
    s.extend s.low ≤ s.extend b ∧ s.extend b ≤ s.extend s.high := by
  obtain ⟨hlow, hhigh⟩ := admits_iff.1 hadmits
  rw [UInt8.le_iff_toNat_le] at hlow hhigh
  unfold extend
  exact ⟨by omega, by omega⟩

/-- No sound sequence admits an ASCII byte. -/
theorem Sound.not_admits (hs : s.Sound) (hb : isAsciiByte b = true) : s.admits b = false := by
  refine Bool.eq_false_iff.2 fun hadmits => ?_
  have hlow := (admits_iff.1 hadmits).1
  have hascii : b < 0x80 := by simpa [isAsciiByte] using hb
  have hsound := hs.low
  rw [UInt8.le_iff_toNat_le] at hlow hsound
  rw [UInt8.lt_iff_toNat_lt] at hascii
  omega

/-- What completes a sound sequence makes a character beyond ASCII. -/
theorem Sound.isAscii_extend (hs : s.Sound) (hmore : s.more = 0) (hadmits : s.admits b = true) :
    isAscii (Char.ofNat (s.extend b)) = false := by
  obtain ⟨hlow, hhigh⟩ := extend_mem hadmits
  have hbeyond := hs.beyond
  have hscalar := hs.scalar
  simp only [least, greatest, hmore, Nat.pow_zero, Nat.mul_one, Nat.sub_self, Nat.add_zero]
    at hbeyond hscalar
  have hvalid : Nat.isValidChar (s.extend b) := by
    simp only [Nat.isValidChar]
    omega
  have hchar : (Char.ofNat (s.extend b)).toNat = s.extend b := by
    rw [Char.ofNat, dif_pos hvalid]
    rfl
  rw [isAscii, hchar]
  simp only [decide_eq_false_iff_not]
  omega

theorem extend_first (bits more : Nat) :
    extend ⟨bits, 0x80, 0xBF, more⟩ 0x80 = bits * 0x40 :=
  rfl

theorem extend_last (bits more : Nat) :
    extend ⟨bits, 0x80, 0xBF, more⟩ 0xBF = bits * 0x40 + 0x3F :=
  rfl

/-- One more continuation byte narrows down what a sequence may become. -/
theorem least_le_of_admits {more : Nat} (hmore : s.more = more + 1) (hadmits : s.admits b = true) :
    s.least ≤ least ⟨s.extend b, 0x80, 0xBF, more⟩ := by
  have hmul := Nat.mul_le_mul_right (0x40 ^ more) (Nat.mul_le_mul_right 0x40 (extend_mem hadmits).1)
  calc s.least
      = s.extend s.low * 0x40 * 0x40 ^ more := by
        rw [least, hmore, Nat.pow_succ', Nat.mul_assoc]
    _ ≤ s.extend b * 0x40 * 0x40 ^ more := hmul
    _ = least ⟨s.extend b, 0x80, 0xBF, more⟩ := by rw [least, extend_first]

theorem greatest_le_of_admits {more : Nat} (hmore : s.more = more + 1)
    (hadmits : s.admits b = true) : greatest ⟨s.extend b, 0x80, 0xBF, more⟩ ≤ s.greatest := by
  have hmul := Nat.mul_le_mul_right (0x40 ^ more) (Nat.mul_le_mul_right 0x40 (extend_mem hadmits).2)
  have hpos : 0 < 0x40 ^ more := Nat.pow_pos (by decide)
  have hlast : extend ⟨s.extend b, 0x80, 0xBF, more⟩ 0xBF * 0x40 ^ more =
      s.extend b * 0x40 * 0x40 ^ more + 0x3F * 0x40 ^ more := by
    rw [extend_last, Nat.add_mul]
  have hgreatest : s.greatest = s.extend s.high * 0x40 * 0x40 ^ more + (0x40 * 0x40 ^ more - 1) := by
    rw [greatest, hmore, Nat.pow_succ', Nat.mul_assoc]
  rw [hgreatest, greatest, hlast]
  generalize 0x40 ^ more = power at *
  omega

/-- One more continuation byte leaves a sound sequence sound. -/
theorem Sound.more_of_admits (hs : s.Sound) {more : Nat} (hmore : s.more = more + 1)
    (hadmits : s.admits b = true) : Sound ⟨s.extend b, 0x80, 0xBF, more⟩ := by
  have hleast := least_le_of_admits hmore hadmits
  have hgreatest := greatest_le_of_admits hmore hadmits
  have hbeyond := hs.beyond
  have hscalar := hs.scalar
  exact ⟨UInt8.le_refl _, UInt8.le_refl _, by omega, by omega⟩

end

end Sequence

/-! ## one byte -/

/-- A state in which reading may be: outside of any sequence, or in a sound one. -/
def SoundState (state : Option Sequence) : Prop := ∀ s ∈ state, s.Sound

theorem sound_lead_byte : ∀ n : Fin 0x100, ∀ s ∈ (lead (byte n)).2, s.Sound := by
  decide +kernel

theorem filter_isAscii_lead_byte : ∀ n : Fin 0x100, (lead (byte n)).1.filter isAscii =
    ([byte n].filter isAsciiByte).map asciiChar := by
  decide +kernel

theorem byte_toNat (b : UInt8) : byte b.toNat = b := by
  rw [byte, UInt8.ofNat_toNat]

theorem sound_lead (b : UInt8) : SoundState (lead b).2 := by
  have hlead := sound_lead_byte ⟨b.toNat, b.toNat_lt⟩
  rwa [byte_toNat] at hlead

theorem filter_isAscii_lead (b : UInt8) :
    (lead b).1.filter isAscii = ([b].filter isAsciiByte).map asciiChar := by
  have hlead := filter_isAscii_lead_byte ⟨b.toNat, b.toNat_lt⟩
  rwa [byte_toNat] at hlead

/-- The ASCII characters that a step puts out are those of its byte, and it leads
from sound states to sound states. -/
theorem sound_step {state : Option Sequence} (hstate : SoundState state) (b : UInt8) :
    SoundState (step state b).2 ∧
      (step state b).1.filter isAscii = ([b].filter isAsciiByte).map asciiChar := by
  cases state with
  | none => exact ⟨sound_lead b, filter_isAscii_lead b⟩
  | some s =>
      have hs : s.Sound := hstate s rfl
      have hreplacement : isAscii replacement = false := by decide
      rw [step, Sequence.next]
      by_cases hadmits : s.admits b = true
      · have hb : isAsciiByte b = false := by
          refine Bool.eq_false_iff.2 fun hb => ?_
          rw [hs.not_admits hb] at hadmits
          contradiction
        rw [if_pos hadmits, List.filter_cons_of_neg (by simp [hb])]
        cases hmore : s.more with
        | zero => simp [SoundState, hs.isAscii_extend hmore hadmits]
        | succ more => simp [SoundState, hs.more_of_admits hmore hadmits]
      · -- the byte is read afresh, behind a replacement
        rw [if_neg hadmits]
        refine ⟨sound_lead b, ?_⟩
        rw [List.filter_cons_of_neg (by simp [hreplacement]), filter_isAscii_lead]

/-- How many characters a state is worth: a sequence that is begun makes one, whatever
becomes of it. -/
def worth (state : Option Sequence) : Nat := state.toList.length

theorem length_lead_byte : ∀ n : Fin 0x100,
    (lead (byte n)).1.length + worth (lead (byte n)).2 = 1 := by
  decide +kernel

theorem length_lead (b : UInt8) : (lead b).1.length + worth (lead b).2 = 1 := by
  have hlead := length_lead_byte ⟨b.toNat, b.toNat_lt⟩
  rwa [byte_toNat] at hlead

/-- A byte is worth one character at most. -/
theorem length_step_le (state : Option Sequence) (b : UInt8) :
    (step state b).1.length + worth (step state b).2 ≤ worth state + 1 := by
  cases state with
  | none => exact Nat.le_of_eq ((length_lead b).trans (Nat.zero_add 1).symm)
  | some s =>
      have hlead := length_lead b
      rw [step, Sequence.next]
      split
      · split <;> simp [worth]
      · simp only [List.length_cons, worth, Option.toList_some] at hlead ⊢
        omega

/-! ## whole byte strings -/

/-- From a sound state on, the ASCII characters of a text are the ASCII bytes it is
read from, in order. -/
theorem filter_isAscii_decodeFrom {state : Option Sequence} (hstate : SoundState state)
    (bytes : List UInt8) : (decodeFrom state bytes).filter isAscii =
      (bytes.filter isAsciiByte).map asciiChar := by
  induction bytes generalizing state with
  | nil => cases state <;> rfl
  | cons b rest ih =>
      obtain ⟨hnext, hstep⟩ := sound_step hstate b
      calc (decodeFrom state (b :: rest)).filter isAscii
          = (step state b).1.filter isAscii ++
              (decodeFrom (step state b).2 rest).filter isAscii := by
            rw [decodeFrom, List.filter_append]
        _ = ([b].filter isAsciiByte).map asciiChar ++ (rest.filter isAsciiByte).map asciiChar := by
            rw [hstep, ih hnext]
        _ = ((b :: rest).filter isAsciiByte).map asciiChar := by
            rw [← List.map_append, ← List.filter_append, List.singleton_append]

theorem length_decodeFrom_le (state : Option Sequence) (bytes : List UInt8) :
    (decodeFrom state bytes).length ≤ worth state + bytes.length := by
  induction bytes generalizing state with
  | nil => cases state <;> simp [decodeFrom, worth]
  | cons b rest ih =>
      have hstep := length_step_le state b
      have hrest := ih (step state b).2
      rw [decodeFrom, List.length_append, List.length_cons]
      omega

theorem soundState_none : SoundState none := fun s hs => by contradiction

/-- The ASCII characters of a text are the ASCII bytes it is read from, in order. -/
theorem filter_isAscii_decodeLossy (bytes : List UInt8) :
    (decodeLossy bytes).filter isAscii = (bytes.filter isAsciiByte).map asciiChar :=
  filter_isAscii_decodeFrom soundState_none bytes

/-- **Reading with replacements is faithful and smuggles in no ASCII.**  A text is
read back from its encoding.  Of any bytes, the ASCII characters of their text are
the ASCII bytes among them, in order, so nothing that is not well formed makes,
swallows or moves a quote or a delimiter.  The text has no more characters than
there are bytes, and it is its own text when it is encoded and read again. -/
theorem decodeLossy_faithful (bytes : List UInt8) :
    (∀ cs, decodeLossy (encode cs) = cs) ∧
    (decodeLossy bytes).filter isAscii = (bytes.filter isAsciiByte).map asciiChar ∧
    (decodeLossy bytes).length ≤ bytes.length ∧
    decodeLossy (encode (decodeLossy bytes)) = decodeLossy bytes := by
  refine ⟨decodeLossy_encode, filter_isAscii_decodeLossy bytes, ?_, decodeLossy_encode _⟩
  have hlength := length_decodeFrom_le none bytes
  rwa [worth, Option.toList_none, List.length_nil, Nat.zero_add] at hlength

/-- An overlong slash, a surrogate that a quote cuts short, and a comma behind a
sequence without its end. -/
example : decodeLossy [0xC0, 0xAF, 0xED, 0xA0, 0x22, 0xF0, 0x9F, 0x2C] =
    ['\uFFFD', '\uFFFD', '\uFFFD', '\uFFFD', '\x22', '\uFFFD', ','] := by decide

end BatchMailer.Text.Utf8
