import StripChart.Binary
import StripChart.Decimal

/-!
# A fixed number of places

`Decimal.withPlaces` writes a number with a set count of digits after the point. What
is rounded is the exact value, and a value exactly halfway between two neighbours goes
to the one whose last digit is even. The sign is that of the number, also when nothing
but zeros are left to show.
-/

namespace StripChart

namespace Decimal

/-- The whole number nearest to a quotient, a tie going to the even one. -/
def roundDiv (numerator denominator : Nat) : Nat :=
  let quotient := numerator / denominator
  let remainder := numerator % denominator
  if 2 * remainder < denominator then quotient
  else if denominator < 2 * remainder then quotient + 1
  else if quotient % 2 = 0 then quotient
  else quotient + 1

/-- The characters of `units` units of the last of `places` decimal places. -/
def placesChars (places units : Nat) : List Char :=
  let fraction := digitChars (units % Nat.pow 10 places)
  let whole := digitChars (units / Nat.pow 10 places)
  if places = 0 then whole
  else whole ++ '.' :: (List.replicate (places - fraction.length) '0' ++ fraction)

/-- A number with `places` digits after the point; what is not a finite number is named. -/
def withPlaces (places : Nat) (x : Float) : String :=
  match Binary.ofFloat? x with
  | some value =>
    let units := roundDiv (value.numerator * Nat.pow 10 places) value.denominator
    let magnitude := placesChars places units
    String.ofList (if value.negative then '-' :: magnitude else magnitude)
  | none => if x.isNaN then "NaN" else if x < 0.0 then "-inf" else "inf"

end Decimal

end StripChart
