import StripChart.Decimal.Shortest

/-!
# How a decimal is laid out

Which digits a number is written with is one question (`Decimal.shortest`); where the
point goes and when a power of ten is split off is another. The second is a convention
of whatever is written, and a `Decimal.Layout` records it. `Layout.chars` lays a
number of 64 or 32 bits out by it.
-/

namespace StripChart

namespace Decimal

/-- A convention for writing numbers with the fewest digits. -/
structure Layout where
  /-- Leading-digit exponents written with a point and no power of ten: the least and
  the greatest of them, or all if there is no range. -/
  positional : Option (Int × Int)
  /-- Whether a whole number gets a zero after a point. -/
  pointZero : Bool
  /-- Which of two equally near decimals is taken. -/
  tie : Tie

namespace Layout

/-- Whether a number whose leading digit counts `10 ^ lead` is written positionally. -/
def isPositional (layout : Layout) (lead : Int) : Bool :=
  match layout.positional with
  | some (least, greatest) => decide (least ≤ lead) && decide (lead ≤ greatest)
  | none => true

/-- The digits with the point set among, before or after them. -/
def positionalChars (layout : Layout) (d : Decimal) : List Char :=
  let digits := digitChars d.digits
  if 0 ≤ d.exponent then
    digits ++ List.replicate d.exponent.toNat '0' ++ (if layout.pointZero then ['.', '0'] else [])
  else if 0 < d.magnitude then
    digits.take d.magnitude.toNat ++ '.' :: digits.drop d.magnitude.toNat
  else
    '0' :: '.' :: (List.replicate (-d.magnitude).toNat '0' ++ digits)

/-- One digit before the point, the others behind it, and a signed power of ten. -/
def scientificChars (d : Decimal) : List Char :=
  let lead := d.magnitude - 1
  let power := (if lead < 0 then '-' else '+') :: digitChars lead.natAbs
  match digitChars d.digits with
  | [] => []
  | [digit] => digit :: 'e' :: power
  | digit :: others => digit :: '.' :: (others ++ 'e' :: power)

/-- A magnitude laid out by the convention. -/
def magnitudeChars (layout : Layout) (d : Decimal) : List Char :=
  if layout.isPositional (d.magnitude - 1) then layout.positionalChars d else scientificChars d

/-- A number laid out by the convention, the sign of zero kept. -/
def chars (layout : Layout) (format : Binary.Format) (value : Binary) : List Char :=
  let magnitude := layout.magnitudeChars (shortest format layout.tie value)
  if value.negative then '-' :: magnitude else magnitude

end Layout

end Decimal

end StripChart
