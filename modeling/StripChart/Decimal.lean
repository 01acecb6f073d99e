/-!
# Decimals

A decimal is `digits · 10 ^ exponent`, the value that a numeral in text spells out.
This file holds the type, the value of a row of digit characters, and the nearest
number of 64 bits (`Decimal.toFloat`).

A numeral can name an exponent of any size. What lies beyond every number of 64 bits
is therefore settled by its order of magnitude alone, before any power of ten is taken.
-/

namespace StripChart

/-- The value `digits · 10 ^ exponent`. -/
structure Decimal where
  /-- The significant digits, as a whole number. -/
  digits : Nat
  /-- The power of ten that the last digit counts. -/
  exponent : Int
  deriving DecidableEq, Repr

namespace Decimal

/-- The whole number that a row of digit characters spells. -/
def ofDigits (digits : List Char) : Nat :=
  digits.foldl (fun total c => 10 * total + (c.toNat - '0'.toNat)) 0

/-- The digit characters of a whole number, without leading zeros. -/
def digitChars (n : Nat) : List Char :=
  Nat.toDigits 10 n

/-- The exponent of the first place left of all digits: the value is below ten to it. -/
def magnitude (d : Decimal) : Int :=
  d.exponent + (digitChars d.digits).length

/-- Removes the zeros at the end, keeping the value. -/
def trimZeros (d : Decimal) : Decimal :=
  if h : d.digits ≠ 0 ∧ d.digits % 10 = 0 then
    trimZeros ⟨d.digits / 10, d.exponent + 1⟩
  else d
termination_by d.digits
decreasing_by exact Nat.div_lt_self (Nat.pos_of_ne_zero h.1) (by decide)

/-- The value that is greater than every finite number. -/
def infinity : Float :=
  Float.ofBits 0x7FF0000000000000

/-- The nearest number of 64 bits, a tie going to the even one; `infinity` from where
no finite number is nearest. -/
def toFloat (d : Decimal) : Float :=
  if d.digits = 0 then 0.0
  else if 310 < d.magnitude then infinity
  else if d.magnitude < -330 then 0.0
  else Float.ofScientific d.digits (decide (d.exponent < 0)) d.exponent.natAbs

end Decimal

end StripChart
