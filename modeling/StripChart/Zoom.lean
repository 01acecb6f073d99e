import StripChart.Scalar

/-!
# Zooming

A step of zooming multiplies the capacity of a tab by a factor, or divides it. The
result is rounded to a whole number, never falls below a floor, and stays within what
a number of 64 bits without sign can say.
-/

namespace StripChart

variable {α : Type}

/-- The greatest capacity that can be asked for. -/
def greatestCapacity : Nat :=
  18446744073709551615

/-- The capacity after one step: greater by the factor `scale`, or smaller by it, and at
least `minimum`. -/
def zoomedCapacity [Scalar α] (capacity : Nat) (grow : Bool) (scale : α) (minimum : Nat) : Nat :=
  let size : α := Scalar.ofNat capacity
  let scaled := if grow then size * scale else size / scale
  max 1 (Scalar.roundNat greatestCapacity (Scalar.greatest scaled (Scalar.ofNat minimum)))

theorem zoomedCapacity_pos [Scalar α] (capacity : Nat) (grow : Bool) (scale : α)
    (minimum : Nat) : 0 < zoomedCapacity capacity grow scale minimum :=
  Nat.lt_of_lt_of_le Nat.zero_lt_one (Nat.le_max_left _ _)

end StripChart
