import StripChart.Json

/-!
# Values of an expected shape

A message is given as a JSON value and used as a record of texts, numbers and lists.
This file holds the readers in between. Each takes a value and says whether it has the
shape asked for.

A record can be given in two ways: as an object, whose entries are found by name and
may include others, or as an array of its fields in order, where fields at the end may
be left out (`Json.isRecord`, `Json.field?`). A field that is not given is a matter of
its own reader: `required`, `optional` or `defaulted`.
-/

namespace StripChart

namespace Json

/-! ### Single values -/

/-- A truth value. -/
def bool? : Json → Option Bool
  | .bool value => some value
  | _ => none

/-- A text. -/
def string? : Json → Option String
  | .string value => some value
  | _ => none

/-- A natural number of at most `bits` bits. -/
def nat? (bits : Nat) : Json → Option Nat
  | .number (.integer value) =>
    if 0 ≤ value ∧ value < Nat.pow 2 bits then some value.toNat else none
  | _ => none

/-- A number, rounded to 64 bits. -/
def float? : Json → Option Float
  | .number value => some value.toFloat
  | _ => none

/-- A list with elements of one shape. -/
def list? {α : Type} (read : Json → Option α) : Json → Option (List α)
  | .array elements => elements.mapM read
  | _ => none

/-- A table with values of one shape. -/
def table? {α : Type} (read : Json → Option α) : Json → Option (ByName α)
  | .object entries => do
    let values ← entries.mapM fun entry => do return (entry.1, ← read entry.2)
    return ByName.ofList values
  | _ => none

/-! ### Records -/

/-- Whether the value can be a record of `width` fields. -/
def isRecord (width : Nat) : Json → Bool
  | .object _ => true
  | .array elements => decide (elements.length ≤ width)
  | _ => false

/-- The field of a record with this place and name, if it is given. -/
def field? (place : Nat) (name : String) : Json → Option Json
  | .object entries => Entries.find? name entries
  | .array elements => elements[place]?
  | _ => none

/-- Reads a field that has to be given. -/
def required {α : Type} (read : Json → Option α) : Option Json → Option α
  | some value => read value
  | none => none

/-- Reads a field that may be left out or be `null`. -/
def optional {α : Type} (read : Json → Option α) : Option Json → Option (Option α)
  | none => some none
  | some .null => some none
  | some value => (read value).map some

/-- Reads a field that may be left out and then has a value of its own. -/
def defaulted {α : Type} (fallback : α) (read : Json → Option α) : Option Json → Option α
  | some value => read value
  | none => some fallback

end Json

end StripChart
