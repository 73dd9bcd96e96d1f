import BatchMailer.Rounding

/-!
# BatchMailer.Binary64

Double-precision numbers, exactly.  A finite number is a sign, a mantissa and a
power of two; every operation works on the exact value and rounds once, to the
nearest number and a half to the even mantissa (`ofRatio`).

All numbers built here are in normal form: the mantissa is below `2 ^ 53`, the
exponent is least possible, and it is not below `minExponent`.
-/

namespace BatchMailer

/-- A double-precision number.  `finite negative m e` stands for `m * 2 ^ e`,
negated if `negative` holds; zero has a sign too. -/
inductive Binary64 where
  | nan
  | infinity (negative : Bool)
  | finite (negative : Bool) (mantissa : Nat) (exponent : Int)
  deriving DecidableEq, Repr

namespace Binary64

/-- The exponent of the smallest numbers. -/
def minExponent : Int := -1074

/-- The exponent of the largest numbers. -/
def maxExponent : Int := 971

/-- How many bits a mantissa has at most. -/
def precision : Nat := 53

/-- Zero, with a sign. -/
def signedZero (negative : Bool) : Binary64 := finite negative 0 minExponent

/-- The whole `e` with `2 ^ e ≤ num / den < 2 ^ (e + 1)`, for positive numbers.
The lengths of the two decide it up to one. -/
def floorLog2 (num den : Nat) : Int :=
  let guess : Int := num.log2 - den.log2
  if num <<< (-guess).toNat < den <<< guess.toNat then guess - 1 else guess

/-- The number nearest to `num / den`, or to its negation. -/
def ofRatio (negative : Bool) (num den : Nat) : Binary64 :=
  if num = 0 then signedZero negative
  else
    let exponent := max minExponent (floorLog2 num den + 1 - precision)
    let mantissa := roundHalfEven (num <<< (-exponent).toNat) (den <<< exponent.toNat)
    let (mantissa, exponent) :=
      if mantissa < 1 <<< precision then (mantissa, exponent)
      else (1 <<< (precision - 1), exponent + 1)
    if maxExponent < exponent then infinity negative else finite negative mantissa exponent

/-- The number nearest to a natural number. -/
def ofNat (n : Nat) : Binary64 := ofRatio false n 1

/-- The number nearest to `digits * 10 ^ exponent`, or to its negation.  Numbers
that are out of range whatever their digits are settled by their length, so the
power of ten stays small. -/
def ofDecimal (negative : Bool) (digits : Nat) (exponent : Int) : Binary64 :=
  let length : Int := (Nat.toDigits 10 digits).length
  if digits = 0 then signedZero negative
  else if 400 < length + exponent then infinity negative
  else if length + exponent < -400 then signedZero negative
  else ofRatio negative (digits * Nat.pow 10 exponent.toNat) (Nat.pow 10 (-exponent).toNat)

/-- Whether a number is negative or zero.  This is an assertion about numbers:
it does not hold of `nan`. -/
def isAtMostZero : Binary64 → Bool
  | nan => false
  | infinity negative => negative
  | finite negative mantissa _ => negative || mantissa == 0

/-- Whether a number is above zero.  This too does not hold of `nan`. -/
def isPositive : Binary64 → Bool
  | nan => false
  | infinity negative => !negative
  | finite negative mantissa _ => !negative && mantissa != 0

/-- A number with the other sign. -/
def neg : Binary64 → Binary64
  | nan => nan
  | infinity negative => infinity !negative
  | finite negative mantissa exponent => finite (!negative) mantissa exponent

/-- A mantissa with its sign. -/
def signed (negative : Bool) (mantissa : Nat) : Int :=
  if negative then -(mantissa : Int) else mantissa

/-- The sum of two numbers.  An exact zero is positive unless both summands are
negative zeros. -/
def add : Binary64 → Binary64 → Binary64
  | nan, _ => nan
  | _, nan => nan
  | infinity a, infinity b => if a = b then infinity a else nan
  | infinity a, finite .. => infinity a
  | finite .., infinity b => infinity b
  | finite a m e, finite b n f =>
    let low := min e f
    let sum := signed a (m <<< (e - low).toNat) + signed b (n <<< (f - low).toNat)
    if sum = 0 then signedZero (a && b)
    else ofRatio (sum < 0) (sum.natAbs <<< low.toNat) (1 <<< (-low).toNat)

/-- The difference of two numbers. -/
def sub (x y : Binary64) : Binary64 := add x y.neg

/-- The interchange encoding: sign, biased exponent and fraction in 64 bits.
`nan` has the quiet bit and nothing else. -/
def bits : Binary64 → Nat
  | nan => 0x7FF8000000000000
  | infinity negative => negative.toNat <<< 63 + 0x7FF <<< 52
  | finite negative mantissa exponent =>
    let magnitude :=
      if mantissa < 1 <<< (precision - 1) then mantissa
      else (exponent - minExponent + 1).toNat <<< 52 + (mantissa - 1 <<< (precision - 1))
    negative.toNat <<< 63 + magnitude

/-- A number that is not `nan` is positive or at most zero, and not both. -/
theorem isPositive_eq_not_isAtMostZero {x : Binary64} (h : x ≠ nan) :
    x.isPositive = !x.isAtMostZero := by
  cases x <;> simp_all [isPositive, isAtMostZero, bne]

@[simp] theorem neg_neg (x : Binary64) : x.neg.neg = x := by
  cases x <;> simp [neg]

end Binary64

end BatchMailer
