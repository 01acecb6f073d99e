import StripChart.Decimal
import StripChart.Text.Blank

/-!
# Numerals in text

A numeral is a sign, digits around a point, and a power of ten after the letter `e`,
most of which may be left out. The parts are cut off the front of a text one by one;
`Decimal.parse?` puts them together for text in which a number is written freely, as
a person would, with white space around it and with `inf` and `nan` as names of what is
not a finite number.
-/

namespace StripChart

namespace Decimal

/-! ### The parts of a numeral -/

/-- The digits at the front of a text, and what follows them. -/
def splitDigits (text : List Char) : List Char × List Char :=
  (text.takeWhile Char.isDigit, text.dropWhile Char.isDigit)

/-- Whether a text starts with a minus sign, and the text without its sign, which may
also be a plus sign or not be there. -/
def splitSign : List Char → Bool × List Char
  | '-' :: rest => (true, rest)
  | '+' :: rest => (false, rest)
  | text => (false, text)

/-- The exponent after a letter `e`; without the letter there is none. -/
def scanExponent? : List Char → Option (Option Int × List Char)
  | [] => some (none, [])
  | c :: rest =>
    if c = 'e' ∨ c = 'E' then
      match splitDigits (splitSign rest).2 with
      | ([], _) => none
      | (digits, after) =>
        let size : Int := Decimal.ofDigits digits
        some (some (if (splitSign rest).1 then -size else size), after)
    else some (none, c :: rest)

theorem length_of_splitDigits (text : List Char) :
    (splitDigits text).1.length + (splitDigits text).2.length = text.length := by
  rw [← List.length_append]
  exact congrArg List.length List.takeWhile_append_dropWhile

theorem length_of_splitSign (text : List Char) : (splitSign text).2.length ≤ text.length := by
  unfold splitSign
  split <;> simp

theorem length_of_scanExponent? {text after : List Char} {exponent : Option Int}
    (h : scanExponent? text = some (exponent, after)) : after.length ≤ text.length := by
  unfold scanExponent? at h
  split at h
  · cases h
    exact Nat.le_refl _
  · rename_i c rest
    have hsign := length_of_splitSign rest
    have hdigits := length_of_splitDigits (splitSign rest).2
    split at h
    · split at h
      · cases h
      · rename_i heq
        cases h
        rw [heq] at hdigits
        simp only [List.length_cons] at hdigits ⊢
        omega
    · cases h
      exact Nat.le_refl _

/-! ### Numbers written freely -/

/-- The names of infinity. -/
def infinityNames : List (List Char) :=
  [['i', 'n', 'f'], ['i', 'n', 'f', 'i', 'n', 'i', 't', 'y']]

/-- The name of what is not a number. -/
def notANumberName : List Char :=
  ['n', 'a', 'n']

/-- The magnitude of a numeral: digits before or after a point, or both, and possibly an
exponent. -/
def parseDigits? (text : List Char) : Option Float := do
  let (whole, text) := splitDigits text
  let (places, text) := match text with
    | '.' :: rest => splitDigits rest
    | text => ([], text)
  if whole.isEmpty && places.isEmpty then none
  else
    let (exponent, text) ← scanExponent? text
    if text.isEmpty then
      return toFloat ⟨ofDigits (whole ++ places), exponent.getD 0 - places.length⟩
    else none

/-- A magnitude by numeral or by name. -/
def parseMagnitude? (text : List Char) : Option Float :=
  let name := text.map Char.toLower
  if name ∈ infinityNames then some infinity
  else if name = notANumberName then some (0.0 / 0.0)
  else parseDigits? text

/-- The number of 64 bits nearest to what the text says, white space around it left out
of account; `none` if it is no number. -/
def parse? (text : String) : Option Float :=
  let (negative, magnitude) := splitSign (Blank.trim text.toList)
  (parseMagnitude? magnitude).map fun size => if negative then -size else size

end Decimal

end StripChart
