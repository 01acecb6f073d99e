import StripChart.ByName
import StripChart.Text.Utf8

/-!
# JSON values

The payload of a frame is a JSON value. Two things about it are fixed by its type.
An object holds its entries in ascending order of key (`Entries.insert` puts them
there), so the order in which a message is handled does not depend on how it was
written. A number is either a whole number or a number of 64 bits: a numeral without
fraction and exponent that fits in 64 bits keeps all its digits, and `5` is not `5.0`.
-/

namespace StripChart

namespace Json

/-- A number of a JSON text. -/
inductive Number
  /-- A whole number. Reading makes one for `-2 ^ 63 ≤ value < 2 ^ 64`. -/
  | integer (value : Int)
  /-- A number of 64 bits. Reading only makes finite ones. -/
  | double (value : Float)
  deriving DecidableEq

/-- The nearest number of 64 bits. -/
def Number.toFloat : Number → Float
  | .integer value => Float.ofInt value
  | .double value => value

end Json

/-- A JSON value. -/
inductive Json
  /-- The value `null`. -/
  | null
  /-- A truth value. -/
  | bool (value : Bool)
  /-- A number. -/
  | number (value : Json.Number)
  /-- A text. -/
  | string (value : String)
  /-- A row of values. -/
  | array (elements : List Json)
  /-- Values by key, the keys in ascending order. -/
  | object (entries : List (String × Json))

namespace Json

instance : Inhabited Json :=
  ⟨.null⟩

/-- What sort of value it is, in one word. -/
def kind : Json → String
  | .null => "null"
  | .bool _ => "bool"
  | .number _ => "number"
  | .string _ => "string"
  | .array _ => "array"
  | .object _ => "object"

/-- A whole number as a value. -/
def ofNat (n : Nat) : Json :=
  .number (.integer n)

/-- A number of 64 bits as a value; what is not finite has no numeral and becomes `null`
in text. -/
def ofFloat (x : Float) : Json :=
  .number (.double x)

/-- The object with the given entries; of two under one key the later stays. -/
def ofEntries (entries : List (String × Json)) : Json :=
  .object (Entries.ofList entries)

/-- The object that holds a table. -/
def ofTable (table : ByName Json) : Json :=
  .object table.entries

/-! ### Well-formed values

A value that was read has the entries of all its objects in order. Values can also be
put together by hand, and then this is a promise of whoever does it. -/

mutual

/-- Every object in the value has its keys in strictly ascending order. -/
def Ordered : Json → Prop
  | .null => True
  | .bool _ => True
  | .number _ => True
  | .string _ => True
  | .array elements => OrderedElements elements
  | .object entries => Entries.Sorted entries ∧ OrderedEntries entries

/-- Every object in the elements has its keys in order. -/
def OrderedElements : List Json → Prop
  | [] => True
  | element :: rest => Ordered element ∧ OrderedElements rest

/-- Every object in the values of the entries has its keys in order. -/
def OrderedEntries : List (String × Json) → Prop
  | [] => True
  | entry :: rest => Ordered entry.2 ∧ OrderedEntries rest

end

mutual

/-- The number of levels of arrays and objects. -/
def depth : Json → Nat
  | .null => 0
  | .bool _ => 0
  | .number _ => 0
  | .string _ => 0
  | .array elements => depthElements elements + 1
  | .object entries => depthEntries entries + 1

/-- The greatest depth among the elements. -/
def depthElements : List Json → Nat
  | [] => 0
  | element :: rest => max (depth element) (depthElements rest)

/-- The greatest depth among the values of the entries. -/
def depthEntries : List (String × Json) → Nat
  | [] => 0
  | entry :: rest => max (depth entry.2) (depthEntries rest)

end

end Json

end StripChart
