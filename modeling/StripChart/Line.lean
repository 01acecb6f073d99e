import StripChart.Color
import StripChart.Ring
import StripChart.Window

/-!
# Lines

A channel is drawn as a line through a fixed number of points, the *slots* of its tab.
Across, a point lies where its time lies in the window that all channels of the tab
share; upwards, where its reading lies between the least and the greatest reading that
the channel holds. With more samples than slots the oldest ones are not drawn, though
their readings still count for the range. With fewer, the newest point is repeated, so
that no slot draws a line back to nowhere. A single sample is no line.
-/

namespace StripChart

variable {α : Type}

/-- A line, ready to be drawn. -/
structure Line (α : Type) where
  /-- The channel it shows. -/
  channel : String
  /-- The color it is drawn in. -/
  color : Color
  /-- Its points, across and upwards, each coordinate from minus one to one. -/
  points : List (α × α)
  deriving DecidableEq

namespace Line

/-- The range of the readings. -/
def valueRange? [Scalar α] : List (Sample α) → Option (α × α)
  | [] => none
  | first :: rest => some (rest.foldl
      (fun range sample =>
        (Scalar.least range.1 sample.value, Scalar.greatest range.2 sample.value))
      (first.value, first.value))

/-- The axis of the readings. -/
def valueAxis [Scalar α] (samples : List (Sample α)) : Axis α :=
  match valueRange? samples with
  | some (least, greatest) => Axis.new least greatest Axis.flatValue
  | none => ⟨Axis.flatValue, none, Axis.flatValue⟩

/-- The axis of the times. -/
def timeAxis [Scalar α] (window : Window α) : Axis α :=
  Axis.new window.min window.max Axis.flatTime

/-- Where a sample lies on two axes. -/
def place [Scalar α] (time value : Axis α) (sample : Sample α) : α × α :=
  (time.map sample.timestamp, value.map sample.value)

/-- Repeats the last point until all slots are taken. -/
def pad (slots : Nat) (points : Array (α × α)) : Array (α × α) :=
  match points.back? with
  | some last => points ++ Array.replicate (slots - points.size) last
  | none => points

/-- Writes the points of a line over those in `out`, and tells whether there is a line
to draw; without one `out` is left empty. -/
def writeInto [Scalar α] (slots : Nat) (samples : Ring α) (window : Window α)
    (out : Array (α × α)) : Bool × Array (α × α) :=
  let out := out.shrink 0
  if samples.size < 2 ∨ slots = 0 then (false, out)
  else
    let time := timeAxis window
    let value := valueAxis samples.toList
    let drawn := samples.toList.drop (samples.size - slots)
    (true, pad slots (drawn.foldl (fun out sample => out.push (place time value sample)) out))

/-- The points of a line, if there is a line to draw. -/
def points? [Scalar α] (slots : Nat) (samples : Ring α) (window : Window α) :
    Option (List (α × α)) :=
  match writeInto slots samples window #[] with
  | (true, points) => some points.toList
  | (false, _) => none

end Line

end StripChart
