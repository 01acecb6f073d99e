import StripChart.Binary
import StripChart.Decimal

/-!
# The fewest digits that read back

A binary number is written with as few decimal digits as tell it apart from its
neighbours. The reals that round to it form an interval, from halfway to the number
below to halfway to the number above, the ends included exactly when the mantissa is
even; every decimal in the interval reads back to the number.

`Decimal.shortest` looks through the decimal grids from the coarsest on: with one
digit, with two, and so forth. On each it tries the two neighbours of the exact value.
The first grid that has one of them inside the interval wins; of two, the nearer is
taken, and an exact tie is left to a rule of the format that writes the number.

All comparisons are made between whole numbers, so the choice is exact.
-/

namespace StripChart

namespace Decimal

/-- Which of two equally near decimals is taken. -/
inductive Tie
  /-- The one whose last digit is even. -/
  | toEven
  /-- The greater one. -/
  | up
  deriving DecidableEq, Repr

/-- Compares `a · 10 ^ i` with `b · 2 ^ j`. -/
def compareScaled (a : Nat) (i : Int) (b : Nat) (j : Int) : Ordering :=
  compare (a * Nat.pow 10 i.toNat * Nat.pow 2 (-j).toNat)
    (b * Nat.pow 2 j.toNat * Nat.pow 10 (-i).toNat)

/-- Whether the decimal lies among the reals that round to the number. -/
def readsBack (format : Binary.Format) (value : Binary) (d : Decimal) : Bool :=
  let below := if format.narrowBelow value then 4 * value.mantissa - 1 else 4 * value.mantissa - 2
  let above := 4 * value.mantissa + 2
  let closed := value.mantissa % 2 == 0
  let fromBelow := compareScaled d.digits d.exponent below (value.exponent - 2)
  let fromAbove := compareScaled d.digits d.exponent above (value.exponent - 2)
  (fromBelow == .gt || (closed && fromBelow == .eq)) &&
    (fromAbove == .lt || (closed && fromAbove == .eq))

/-- The least exponent `k` with the value below `10 ^ k`. The binary logarithm gives it
up to a few steps, and exact comparisons find it among these. -/
def leadingPlace (value : Binary) : Int :=
  let estimate := ((Nat.log2 value.mantissa + value.exponent) * 1233) / 4096
  let reaches (k : Int) : Bool := compareScaled 1 k value.mantissa value.exponent == .gt
  if reaches estimate then estimate
  else if reaches (estimate + 1) then estimate + 1
  else if reaches (estimate + 2) then estimate + 2
  else estimate + 3

/-- The greatest decimal on the grid `10 ^ place` that is not above the number. -/
def floorOn (value : Binary) (place : Int) : Decimal :=
  ⟨value.numerator * Nat.pow 10 (-place).toNat / (value.denominator * Nat.pow 10 place.toNat),
    place⟩

/-- The decimal of the grid `10 ^ place` that reads back and is nearest to the number,
if the grid has one that reads back. -/
def onGrid? (format : Binary.Format) (tie : Tie) (value : Binary) (place : Int) :
    Option Decimal :=
  let lower := floorOn value place
  let upper : Decimal := ⟨lower.digits + 1, place⟩
  match readsBack format value lower, readsBack format value upper with
  | false, false => none
  | true, false => some lower
  | false, true => some upper
  | true, true =>
    match compareScaled (2 * lower.digits + 1) place (2 * value.mantissa) value.exponent, tie with
    | .gt, _ => some lower
    | .lt, _ => some upper
    | .eq, .up => some upper
    | .eq, .toEven => if lower.digits % 2 = 0 then some lower else some upper

/-- The number's exact value as a decimal. -/
def ofBinary (value : Binary) : Decimal :=
  if 0 ≤ value.exponent then ⟨value.numerator, 0⟩
  else ⟨value.mantissa * Nat.pow 5 (-value.exponent).toNat, value.exponent⟩

/-- The magnitude of a number with the fewest digits that read back. -/
def shortest (format : Binary.Format) (tie : Tie) (value : Binary) : Decimal :=
  if value.mantissa = 0 then ⟨0, 0⟩
  else
    let lead := leadingPlace value
    let grids := (List.range 17).map fun (n : Nat) => lead - (n + 1)
    ((grids.findSome? (onGrid? format tie value)).getD (ofBinary value)).trimZeros

end Decimal

end StripChart
