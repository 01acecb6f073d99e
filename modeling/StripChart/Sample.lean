import StripChart.Decimal.Numeral
import StripChart.Json.Shape

/-!
# Samples

A sample is one reading of a channel with the time at which it was taken. On the wire
it comes as a *point*, a pair of any JSON value and a time. Numbers, truth values and
texts that spell a number are readings; every other point is dropped, and so is one
whose reading is not finite, so that no infinity gets into a history.

The type of samples leaves open what a number is. The program uses numbers of 64 bits;
what is said about drawing in exact arithmetic is said with rational numbers.
-/

namespace StripChart

/-- One timestamped reading of a channel. -/
structure Sample (α : Type) where
  /-- The reading. -/
  value : α
  /-- When it was taken, in the source's unit of time. -/
  timestamp : α
  deriving DecidableEq, Repr

namespace Sample

/-- The sample that a record of its two fields holds. -/
def ofJson? (json : Json) : Option (Sample Float) :=
  if json.isRecord 2 then do
    let value ← Json.required Json.float? (json.field? 0 "value")
    let timestamp ← Json.required Json.float? (json.field? 1 "timestamp")
    return ⟨value, timestamp⟩
  else none

/-- The sample as a list of named fields. -/
def fields (sample : Sample Float) : List (String × Json) :=
  [("value", Json.ofFloat sample.value), ("timestamp", Json.ofFloat sample.timestamp)]

end Sample

/-- A point as it comes over the wire. -/
structure WirePoint where
  /-- The reading, a value of any kind. -/
  value : Json
  /-- When it was taken. -/
  timestamp : Float

namespace WirePoint

/-- The point that an array of exactly a value and a number holds. -/
def ofJson? : Json → Option WirePoint
  | .array [value, timestamp] => do
    let timestamp ← timestamp.float?
    return ⟨value, timestamp⟩
  | _ => none

/-- The point as an array. -/
def toJson (point : WirePoint) : Json :=
  .array [point.value, Json.ofFloat point.timestamp]

/-- The number that a reading stands for, finite or not. -/
def reading? : Json → Option Float
  | .number value => some value.toFloat
  | .bool true => some 1.0
  | .bool false => some 0.0
  | .string text => Decimal.parse? text
  | _ => none

/-- The sample that a point stands for, if its reading is a finite number. -/
def sample? (point : WirePoint) : Option (Sample Float) :=
  match reading? point.value with
  | some value => if value.isFinite then some ⟨value, point.timestamp⟩ else none
  | none => none

/-- The samples of those points that stand for one, in order. -/
def samples (points : List WirePoint) : List (Sample Float) :=
  points.filterMap sample?

@[simp] theorem samples_nil : samples [] = [] :=
  rfl

@[simp] theorem samples_append (first second : List WirePoint) :
    samples (first ++ second) = samples first ++ samples second :=
  List.filterMap_append

theorem isFinite_of_mem_samples {points : List WirePoint} {sample : Sample Float}
    (h : sample ∈ samples points) : sample.value.isFinite = true := by
  obtain ⟨point, -, hpoint⟩ := List.mem_filterMap.1 h
  unfold sample? at hpoint
  split at hpoint
  · split at hpoint
    · rename_i hfinite
      cases hpoint
      exact hfinite
    · cases hpoint
  · cases hpoint

end WirePoint

end StripChart
