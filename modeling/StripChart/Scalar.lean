import StripChart.Binary

/-!
# The arithmetic of drawing and zooming

Drawing maps times and readings onto a square and zooming multiplies a capacity by a
factor. Both are written once, over any type of numbers that offers the few operations
of `Scalar`. The program runs them with numbers of 64 bits. With rational numbers the
same definitions say what they compute when nothing is rounded, which is where their
laws hold exactly.

Numbers of 64 bits have members that are no number at all. `least` and `greatest` pass
over these, and `roundNat` counts them as zero. They also have two zeros, of which neither
is smaller; between them `least` and `greatest` take the second argument.
-/

namespace StripChart

/-- The operations on numbers that drawing and zooming use. -/
class Scalar (α : Type) extends Sub α, Mul α, Div α where
  /-- A natural number, rounded if it has to be. -/
  ofNat : Nat → α
  /-- Whether it is greater than zero. -/
  isPositive : α → Bool
  /-- Whether it is a number, and not an infinite one. -/
  isFinite : α → Bool
  /-- The smaller of two; the second if neither is smaller. -/
  least : α → α → α
  /-- The greater of two; the second if neither is greater. -/
  greatest : α → α → α
  /-- The nearest natural number up to a bound, halves going up. -/
  roundNat : (bound : Nat) → α → Nat

namespace Scalar

/-- The smaller of two numbers of 64 bits; if one of them is not a number, the other. -/
def leastFloat (a b : Float) : Float :=
  if b.isNaN then a else if a < b then a else b

/-- The greater of two numbers of 64 bits; if one of them is not a number, the other. -/
def greatestFloat (a b : Float) : Float :=
  if b.isNaN then a else if b < a then a else b

/-- The natural number nearest to a number of 64 bits, up to a bound. -/
def roundFloat (bound : Nat) (x : Float) : Nat :=
  match Binary.ofFloat? x with
  | some value => min bound value.roundNat
  | none => if 0.0 < x then bound else 0

instance : Scalar Float where
  ofNat := Float.ofNat
  isPositive x := decide (0.0 < x)
  isFinite := Float.isFinite
  least := leastFloat
  greatest := greatestFloat
  roundNat := roundFloat

instance : Scalar Rat where
  ofNat n := n
  isPositive x := decide (0 < x)
  isFinite _ := true
  least a b := if a < b then a else b
  greatest a b := if b < a then a else b
  roundNat bound x := min bound (x + 1 / 2).floor.toNat

end Scalar

end StripChart
