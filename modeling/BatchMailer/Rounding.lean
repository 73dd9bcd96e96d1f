/-!
# BatchMailer.Rounding

Rounding a quotient of natural numbers to the nearest one, a half to the even
neighbour.  The result is within half a unit of the quotient
(`two_mul_roundHalfEven_le`, `le_two_mul_roundHalfEven`) and an exact quotient
is left alone (`roundHalfEven_mul`).
-/

namespace BatchMailer

/-- The natural number nearest to `num / den`; of two equally near, the even
one. -/
def roundHalfEven (num den : Nat) : Nat :=
  let quotient := num / den
  let rest := 2 * (num % den)
  if rest < den then quotient
  else if den < rest then quotient + 1
  else quotient + quotient % 2

theorem roundHalfEven_mul {den : Nat} (h : 0 < den) (n : Nat) : roundHalfEven (n * den) den = n := by
  simp [roundHalfEven, Nat.mul_div_cancel _ h, h]

/-- The rounded quotient exceeds the quotient by half a unit at most. -/
theorem two_mul_roundHalfEven_le {den : Nat} (h : 0 < den) (num : Nat) :
    2 * (roundHalfEven num den * den) ≤ 2 * num + den := by
  have hdm := Nat.div_add_mod num den
  have hmod := Nat.mod_lt num h
  have hparity : num / den % 2 ≤ 1 := by omega
  have hprod : num / den % 2 * den ≤ 1 * den := Nat.mul_le_mul_right _ hparity
  rw [Nat.mul_comm] at hdm
  unfold roundHalfEven
  simp only
  split
  · omega
  · split <;> simp only [Nat.add_mul] <;> omega

/-- The rounded quotient falls short of the quotient by half a unit at most. -/
theorem le_two_mul_roundHalfEven {den : Nat} (h : 0 < den) (num : Nat) :
    2 * num ≤ 2 * (roundHalfEven num den * den) + den := by
  have hdm := Nat.div_add_mod num den
  have hmod := Nat.mod_lt num h
  rw [Nat.mul_comm] at hdm
  unfold roundHalfEven
  simp only
  split
  · omega
  · split <;> simp only [Nat.add_mul] <;> omega

end BatchMailer
