import BatchMailer.Text.Utf8

/-!
# BatchMailer.Proofs.Text.Encoding

A text is read back from its encoding (`decodeLossy_encode`).

The lead byte of a character says how many bytes follow it and from which range
the second one comes; a few leads leave part of the continuation bytes out
(`lead_three`, `lead_four`).  That each byte of a character lies in its range is
arithmetic on the code point: the second byte of a surrogate, or of a number
that has a shorter form, would not.
-/

namespace BatchMailer.Text.Utf8

theorem toNat_byte {n : Nat} (h : n < 0x100) : (byte n).toNat = n := by
  rw [byte, UInt8.toNat_ofNat']
  exact Nat.mod_eq_of_lt h

/-! ## lead bytes -/

theorem lead_two : ∀ n : Fin 0x1E, lead (byte (0xC2 + n)) = ([], some ⟨n + 2, 0x80, 0xBF, 0⟩) := by
  decide

theorem lead_three : ∀ n : Fin 0x10, lead (byte (0xE0 + n)) =
    ([], some ⟨n, if n.val = 0 then 0xA0 else 0x80, if n.val = 0xD then 0x9F else 0xBF, 1⟩) := by
  decide

theorem lead_four : ∀ n : Fin 5, lead (byte (0xF0 + n)) =
    ([], some ⟨n, if n.val = 0 then 0x90 else 0x80, if n.val = 4 then 0x8F else 0xBF, 2⟩) := by
  decide

/-! ## the bytes behind a lead -/

section

variable {s : Sequence} {bits more k : Nat} {low high : UInt8} (rest : List UInt8)

theorem decodeFrom_lead {b : UInt8} (h : lead b = ([], some s)) :
    decodeFrom none (b :: rest) = decodeFrom (some s) rest := by
  rw [decodeFrom, step, h]
  rfl

/-- What a continuation byte adds to a sequence. -/
theorem extend_byte (hk : k < 0x40) : s.extend (byte (0x80 + k)) = s.bits * 0x40 + k := by
  have hbyte : (byte (0x80 + k)).toNat - 0x80 = k := by
    rw [toNat_byte (by omega)]
    omega
  exact congrArg (s.bits * 0x40 + ·) hbyte

theorem admits_byte (hk : k < 0x40) (hlow : s.low.toNat ≤ 0x80 + k)
    (hhigh : 0x80 + k ≤ s.high.toNat) : s.admits (byte (0x80 + k)) = true := by
  have hbyte : (byte (0x80 + k)).toNat = 0x80 + k := toNat_byte (by omega)
  simp only [Sequence.admits, Bool.and_eq_true, decide_eq_true_eq, UInt8.le_iff_toNat_le, hbyte]
  exact ⟨hlow, hhigh⟩

/-- A byte in the range of a sequence leads on to the next, which may be any
continuation byte. -/
theorem decodeFrom_more (hk : k < 0x40) (hlow : low.toNat ≤ 0x80 + k)
    (hhigh : 0x80 + k ≤ high.toNat) :
    decodeFrom (some ⟨bits, low, high, more + 1⟩) (byte (0x80 + k) :: rest) =
      decodeFrom (some ⟨bits * 0x40 + k, 0x80, 0xBF, more⟩) rest := by
  rw [decodeFrom, step, Sequence.next, if_pos (admits_byte hk hlow hhigh), extend_byte hk]
  rfl

/-- The last byte of a sequence makes a character. -/
theorem decodeFrom_last (hk : k < 0x40) :
    decodeFrom (some ⟨bits, 0x80, 0xBF, 0⟩) (byte (0x80 + k) :: rest) =
      Char.ofNat (bits * 0x40 + k) :: decodeFrom none rest := by
  have hadmits : Sequence.admits ⟨bits, 0x80, 0xBF, 0⟩ (byte (0x80 + k)) = true :=
    admits_byte hk (by simp) (by simp only [UInt8.reduceToNat]; omega)
  rw [decodeFrom, step, Sequence.next, if_pos hadmits, extend_byte hk]
  rfl

end

/-! ## code points -/

section

variable {n : Nat} (rest : List UInt8)

theorem decodeFrom_two (hlow : 0x80 ≤ n) (hhigh : n < 0x800) :
    decodeFrom none (byte (0xC0 + n / 0x40) :: byte (0x80 + n % 0x40) :: rest) =
      Char.ofNat n :: decodeFrom none rest := by
  have hlead := lead_two ⟨n / 0x40 - 2, by omega⟩
  have hbyte : 0xC2 + (n / 0x40 - 2) = 0xC0 + n / 0x40 := by omega
  have hbits : (n / 0x40 - 2 + 2) * 0x40 + n % 0x40 = n := by omega
  rw [hbyte] at hlead
  rw [decodeFrom_lead _ hlead, decodeFrom_last _ (Nat.mod_lt _ (by decide)), hbits]

/-- The range of the second byte leaves out what has two bytes, and surrogates. -/
theorem decodeFrom_three (hlow : 0x800 ≤ n) (hhigh : n < 0x10000)
    (hvalid : n < 0xD800 ∨ 0xDFFF < n) :
    decodeFrom none (byte (0xE0 + n / 0x1000) :: byte (0x80 + n / 0x40 % 0x40) ::
      byte (0x80 + n % 0x40) :: rest) = Char.ofNat n :: decodeFrom none rest := by
  have hlead := lead_three ⟨n / 0x1000, by omega⟩
  have hbits : (n / 0x1000 * 0x40 + n / 0x40 % 0x40) * 0x40 + n % 0x40 = n := by omega
  rw [decodeFrom_lead _ hlead, decodeFrom_more _ (Nat.mod_lt _ (by decide)),
    decodeFrom_last _ (Nat.mod_lt _ (by decide)), hbits]
  · simp only
    split <;> simp only [UInt8.reduceToNat] <;> omega
  · simp only
    split <;> simp only [UInt8.reduceToNat] <;> omega

/-- The range of the second byte leaves out what has three bytes, and numbers that
are too large. -/
theorem decodeFrom_four (hlow : 0x10000 ≤ n) (hhigh : n < 0x110000) :
    decodeFrom none (byte (0xF0 + n / 0x40000) :: byte (0x80 + n / 0x1000 % 0x40) ::
      byte (0x80 + n / 0x40 % 0x40) :: byte (0x80 + n % 0x40) :: rest) =
        Char.ofNat n :: decodeFrom none rest := by
  have hlead := lead_four ⟨n / 0x40000, by omega⟩
  have hbits : ((n / 0x40000 * 0x40 + n / 0x1000 % 0x40) * 0x40 + n / 0x40 % 0x40) * 0x40 +
      n % 0x40 = n := by omega
  rw [decodeFrom_lead _ hlead, decodeFrom_more _ (Nat.mod_lt _ (by decide)),
    decodeFrom_more _ (Nat.mod_lt _ (by decide)), decodeFrom_last _ (Nat.mod_lt _ (by decide)),
    hbits]
  · simp
  · simp only [UInt8.reduceToNat]
    omega
  · simp only
    split <;> simp only [UInt8.reduceToNat] <;> omega
  · simp only
    split <;> simp only [UInt8.reduceToNat] <;> omega

end

/-! ## characters and texts -/

/-- The bytes of a character are read as this character, and what follows them is
read afresh. -/
theorem decodeFrom_encodeChar (c : Char) (rest : List UInt8) :
    decodeFrom none (encodeChar c ++ rest) = c :: decodeFrom none rest := by
  have hvalid : c.toNat < 0xD800 ∨ 0xDFFF < c.toNat ∧ c.toNat < 0x110000 := c.valid
  have hchar : Char.ofNat c.toNat = c := Char.ofNat_toNat c
  rw [encodeChar]
  split
  · next hone =>
      have hbyte : (byte c.toNat).toNat = c.toNat := toNat_byte (by omega)
      have hascii : byte c.toNat < 0x80 := by
        rw [UInt8.lt_iff_toNat_lt, hbyte]
        exact hone
      have hdecode := decodeLossy_cons_ascii hascii rest
      rwa [hbyte, hchar] at hdecode
  · next hone =>
      split
      · next htwo =>
          have hdecode := decodeFrom_two rest (Nat.not_lt.1 hone) htwo
          rwa [hchar] at hdecode
      · next htwo =>
          split
          · next hthree =>
              have hdecode := decodeFrom_three rest (Nat.not_lt.1 htwo) hthree (by omega)
              rwa [hchar] at hdecode
          · next hthree =>
              have hdecode := decodeFrom_four rest (Nat.not_lt.1 hthree) (by omega)
              rwa [hchar] at hdecode

/-- **A text is read back from its encoding.** -/
theorem decodeLossy_encode (cs : List Char) : decodeLossy (encode cs) = cs := by
  induction cs with
  | nil => rfl
  | cons c rest ih =>
      rw [decodeLossy] at ih
      rw [decodeLossy, encode_cons, decodeFrom_encodeChar, ih]

end BatchMailer.Text.Utf8
