import BatchMailer.Binary64
import BatchMailer.Text.Digits

/-!
# BatchMailer.Binary64.Fixed

Numbers with a fixed count of decimal places.  The exact value is rounded, a
half to the even last digit; the sign is that of the number, even where all
digits come out zero.
-/

namespace BatchMailer.Binary64

/-- A count of units `10 ^ -places` as a decimal. -/
def placeText (places : Nat) (units : Nat) : String :=
  let whole := toString (units / Nat.pow 10 places)
  whole ++ "." ++ String.ofList (Text.digits 10 places (units % Nat.pow 10 places))

/-- The units `10 ^ -places` nearest to `mantissa * 2 ^ exponent`. -/
def roundUnits (places mantissa : Nat) (exponent : Int) : Nat :=
  roundHalfEven ((mantissa * Nat.pow 10 places) <<< exponent.toNat) (1 <<< (-exponent).toNat)

/-- A number with the given count of decimal places, at least one. -/
def toFixed (places : Nat) : Binary64 → String
  | nan => "nan"
  | infinity negative => if negative then "-inf" else "inf"
  | finite negative mantissa exponent =>
    let magnitude := placeText places (roundUnits places mantissa exponent)
    if negative then "-" ++ magnitude else magnitude

end BatchMailer.Binary64
