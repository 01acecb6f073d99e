/-!
# The exact value of a binary number

A binary number in storage is a pattern of bits; what it *stands for* is
`± mantissa · 2 ^ exponent`. Everything that has to be exact in the digits it
shows – the fewest digits that read back, two places after the point, a rounding
to a whole number – starts from that value and goes on in natural numbers, so
none of it depends on how a machine would compute it.

`Binary.Format.value?` reads the bits of either width; `Binary.roundNat` is the
nearest whole number, halves going up.
-/

namespace StripChart

/-- The exact value `± mantissa · 2 ^ exponent` of a finite binary number. -/
structure Binary where
  /-- Whether the sign is set; zero has a sign too. -/
  negative : Bool
  /-- The significant bits, as a whole number. -/
  mantissa : Nat
  /-- The power of two that the last significant bit counts. -/
  exponent : Int
  deriving DecidableEq, Repr

namespace Binary

/-- A storage format: how many bits hold the fraction and how many the exponent. -/
structure Format where
  /-- The bits after the leading one. -/
  fractionBits : Nat
  /-- The bits of the stored exponent. -/
  exponentBits : Nat
  deriving DecidableEq, Repr

/-- Numbers of 64 bits. -/
def binary64 : Format where
  fractionBits := 52
  exponentBits := 11

/-- Numbers of 32 bits. -/
def binary32 : Format where
  fractionBits := 23
  exponentBits := 8

namespace Format

/-- The exponent of the last bit of the smallest numbers. -/
def leastExponent (format : Format) : Int :=
  2 - Nat.pow 2 (format.exponentBits - 1) - format.fractionBits

/-- The value of a pattern of bits; there is none for infinities and for what is not
a number. -/
def value? (format : Format) (bits : Nat) : Option Binary :=
  let fraction := bits % Nat.pow 2 format.fractionBits
  let stored := bits / Nat.pow 2 format.fractionBits % Nat.pow 2 format.exponentBits
  let negative := bits.testBit (format.fractionBits + format.exponentBits)
  if stored = Nat.pow 2 format.exponentBits - 1 then none
  else if stored = 0 then some ⟨negative, fraction, format.leastExponent⟩
  else some ⟨negative, Nat.pow 2 format.fractionBits + fraction, format.leastExponent + stored - 1⟩

/-- Whether the next smaller number is nearer than the next greater one, as it is at
every power of two but the least. -/
def narrowBelow (format : Format) (value : Binary) : Bool :=
  value.mantissa == Nat.pow 2 format.fractionBits && format.leastExponent < value.exponent

end Format

/-- The value of a number of 64 bits. -/
def ofFloat? (x : Float) : Option Binary :=
  binary64.value? x.toBits.toNat

/-- The value of a number of 32 bits. -/
def ofFloat32? (x : Float32) : Option Binary :=
  binary32.value? x.toBits.toNat

/-- The numerator of the magnitude as a fraction of whole numbers. -/
def numerator (value : Binary) : Nat :=
  value.mantissa * Nat.pow 2 value.exponent.toNat

/-- The denominator of the magnitude as a fraction of whole numbers. -/
def denominator (value : Binary) : Nat :=
  Nat.pow 2 (-value.exponent).toNat

theorem denominator_pos (value : Binary) : 0 < value.denominator :=
  Nat.two_pow_pos _

/-- The nearest natural number, halves going up; a negative number is as near to zero
as it can get. -/
def roundNat (value : Binary) : Nat :=
  if value.negative then 0
  else (2 * value.numerator + value.denominator) / (2 * value.denominator)

end Binary

end StripChart
