import StripChart.Json.Shape
import StripChart.Scalar

/-!
# Windows and axes

A `Window` is the range of time that all channels of a tab are drawn over, the least one
that covers the samples of every channel. An `Axis` maps a range onto the numbers from
minus one to one. A range without width has no such map, and neither has one whose width
is not finite; on such an axis everything lies at one place.
-/

namespace StripChart

variable {α : Type}

/-- A range of time. -/
structure Window (α : Type) where
  /-- Where it starts. -/
  min : α
  /-- Where it ends. -/
  max : α
  deriving DecidableEq, Repr

namespace Window

/-- The least window that covers both. -/
def union [Scalar α] (first second : Window α) : Window α :=
  ⟨Scalar.least first.min second.min, Scalar.greatest first.max second.max⟩

/-- The least window that covers all, in the order given; there is none that covers
nothing. -/
def unionAll? [Scalar α] : List (Window α) → Option (Window α)
  | [] => none
  | first :: rest => some (rest.foldl union first)

/-- How wide it is. -/
def length [Scalar α] (window : Window α) : α :=
  window.max - window.min

/-- The window that a record of its two ends holds. -/
def ofJson? (json : Json) : Option (Window Float) :=
  if json.isRecord 2 then do
    let min ← Json.required Json.float? (json.field? 0 "min")
    let max ← Json.required Json.float? (json.field? 1 "max")
    return ⟨min, max⟩
  else none

/-- The window as a list of named fields. -/
def fields (window : Window Float) : List (String × Json) :=
  [("min", Json.ofFloat window.min), ("max", Json.ofFloat window.max)]

end Window

/-- A map of a range onto the numbers from minus one to one. -/
structure Axis (α : Type) where
  /-- What is mapped to minus one. -/
  min : α
  /-- By how much the image grows with the argument, if there is a map. -/
  slope : Option α
  /-- Where everything lies if there is no map. -/
  flat : α
  deriving DecidableEq, Repr

namespace Axis

/-- The axis of the range from `min` to `max`. -/
def new [Scalar α] (min max flat : α) : Axis α :=
  let span := max - min
  { min
    slope := if Scalar.isPositive span && Scalar.isFinite span then
        some (Scalar.ofNat 2 / span)
      else none
    flat }

/-- The image of a number. -/
def map [Scalar α] (axis : Axis α) (a : α) : α :=
  match axis.slope with
  | some slope => (a - axis.min) * slope - Scalar.ofNat 1
  | none => axis.flat

/-- Where times lie if the window has no width: at the left edge. -/
def flatTime [Scalar α] : α :=
  Scalar.ofNat 0 - Scalar.ofNat 1

/-- Where readings lie if all are equal: in the middle. -/
def flatValue [Scalar α] : α :=
  Scalar.ofNat 0

end Axis

end StripChart
