import StripChart.Decimal.Layout
import StripChart.Json.Shape
import StripChart.Text.Blank
import StripChart.Text.Hex
import StripChart.Text.Utf8

/-!
# Colors

A color has four components of 32 bits, each from zero to one. As text it is a row of
six or eight digits in base sixteen, two for each component, the fourth being one if it
is left out. White space around the text does not count, nor do number signs in front.

`Color.parse` reads the text and `Color.toText` writes the first three components back,
rounding each to the nearest of the 256 steps. The digits are counted in bytes, and they are
cut out by places in bytes. A text has no cut in the middle of a character, so
`Color.parse?` says what is read where all cuts can be made. They always can
(`Color.isSome_parse?`): before anything is cut, all characters have been seen to be digits,
and these take one byte each.

A channel that is shown before anyone has given it a color takes the next one of a
`Palette`, an endless row of opaque colors that depends on nothing but a seed.
-/

namespace StripChart

/-- A color; its components go from zero to one. -/
structure Color where
  /-- The red component. -/
  red : Float32
  /-- The green component. -/
  green : Float32
  /-- The blue component. -/
  blue : Float32
  /-- How opaque it is. -/
  alpha : Float32
  deriving DecidableEq

/-- A text that is no color. -/
structure InvalidColor where
  /-- The text as it was given. -/
  text : String
  deriving DecidableEq, Repr

/-- What is said about the text. -/
def InvalidColor.message (error : InvalidColor) : String :=
  s!"invalid color '{error.text}', expected #RRGGBB or #RRGGBBAA"

namespace Color

/-! ### Colors as text -/

/-- The component that one of 256 steps stands for. -/
def component (step : Nat) : Float32 :=
  (UInt8.ofNat step).toFloat32 / 255.0

/-- The digits of a color in text: white space at the ends and number signs in front are
left out. -/
def digits (text : String) : List Char :=
  (Blank.trim text.toList).dropWhile (· == '#')

/-- Whether the digits of a color are six or eight bytes, and digits all of them. -/
def isWritten (digits : List Char) : Bool :=
  (Utf8.size digits == 6 || Utf8.size digits == 8) && digits.all Hex.isDigit

theorem isWritten_iff {digits : List Char} :
    isWritten digits = true ↔
      (digits.length = 6 ∨ digits.length = 8) ∧ ∀ c ∈ digits, Hex.isDigit c = true := by
  rw [isWritten, Bool.and_eq_true, Bool.or_eq_true, beq_iff_eq, beq_iff_eq, List.all_eq_true]
  refine and_congr_left fun hdigits => ?_
  rw [Hex.size_eq_length hdigits]

/-- The component of the two digits behind so many bytes of the digits of a color. -/
def componentAt (text : String) (start : Nat) : ExceptT InvalidColor Option Float32 := do
  let part ← Utf8.slice? (digits text) start 2
  match Hex.number? part with
  | some number => return component number
  | none => throw ⟨text⟩

/-- How opaque the color is that a text stands for. -/
def alphaOf (text : String) : ExceptT InvalidColor Option Float32 :=
  if Utf8.size (digits text) = 8 then componentAt text 6 else pure 1.0

/-- The color that a text stands for, or that it stands for none. There is not even that if
a character would have to be cut in two. -/
def parse? (text : String) : ExceptT InvalidColor Option Color :=
  if isWritten (digits text) then do
    let alpha ← alphaOf text
    let red ← componentAt text 0
    let green ← componentAt text 2
    let blue ← componentAt text 4
    return ⟨red, green, blue, alpha⟩
  else throw ⟨text⟩

section Cuts

variable {text : String} {start : Nat}

/-- Between digits there is always a cut. -/
theorem componentAt_eq (hdigits : ∀ c ∈ digits text, Hex.isDigit c = true) {high low : Char}
    {rest : List Char} (hdrop : (digits text).drop start = high :: low :: rest) {m n : Nat}
    (hhigh : Hex.value? high = some m) (hlow : Hex.value? low = some n) :
    componentAt text start = pure (component (m * 16 + n)) := by
  have hsplit : digits text = (digits text).take start ++ ([high, low] ++ rest) := by
    rw [List.cons_append, List.cons_append, List.nil_append, ← hdrop, List.take_append_drop]
  have hle : start ≤ (digits text).length := by
    have := congrArg List.length hdrop
    rw [List.length_drop, List.length_cons] at this
    omega
  have hfront : Utf8.size ((digits text).take start) = start := by
    rw [Hex.size_eq_length fun c hc => hdigits c (List.mem_of_mem_take hc),
      List.length_take_of_le hle]
  have hpair : Utf8.size [high, low] = 2 := by
    rw [Utf8.size_cons, Utf8.size_cons, Utf8.size_nil, Hex.utf8Size_of_value? hhigh,
      Hex.utf8Size_of_value? hlow]
  have hslice := Utf8.slice?_append ((digits text).take start) [high, low] rest
  rw [← hsplit, hfront, hpair] at hslice
  rw [componentAt, hslice]
  show (match Hex.number? [high, low] with
    | some number => pure (component number)
    | none => throw ⟨text⟩ : ExceptT InvalidColor Option Float32) = _
  rw [Hex.number?_pair hhigh hlow]

theorem exists_componentAt (hdigits : ∀ c ∈ digits text, Hex.isDigit c = true)
    (hle : start + 2 ≤ (digits text).length) :
    ∃ component, componentAt text start = pure component := by
  have hhigh : start < (digits text).length := by omega
  have hlow : start + 1 < (digits text).length := by omega
  have hdrop : (digits text).drop start
      = (digits text)[start] :: (digits text)[start + 1] :: (digits text).drop (start + 2) := by
    rw [List.drop_eq_getElem_cons hhigh, List.drop_eq_getElem_cons hlow]
  obtain ⟨m, hm⟩ := Hex.isDigit_iff_exists.1 (hdigits _ (List.getElem_mem hhigh))
  obtain ⟨n, hn⟩ := Hex.isDigit_iff_exists.1 (hdigits _ (List.getElem_mem hlow))
  exact ⟨_, componentAt_eq hdigits hdrop hm hn⟩

end Cuts

/-- **No character is cut in two.** -/
theorem isSome_parse? (text : String) : (parse? text).run.isSome := by
  rw [parse?]
  cases hwritten : isWritten (digits text) with
  | false => rfl
  | true =>
    obtain ⟨hlength, hdigits⟩ := isWritten_iff.1 hwritten
    obtain ⟨red, hred⟩ := exists_componentAt hdigits (show 0 + 2 ≤ _ by omega)
    obtain ⟨green, hgreen⟩ := exists_componentAt hdigits (show 2 + 2 ≤ _ by omega)
    obtain ⟨blue, hblue⟩ := exists_componentAt hdigits (show 4 + 2 ≤ _ by omega)
    obtain ⟨alpha, halpha⟩ : ∃ alpha, alphaOf text = pure alpha := by
      rw [alphaOf, Hex.size_eq_length hdigits]
      split
      · exact exists_componentAt hdigits (by omega)
      · exact ⟨_, rfl⟩
    rw [hred, hgreen, hblue, halpha]
    rfl

/-- The color that a text stands for. -/
def parse (text : String) : Except InvalidColor Color :=
  (parse? text).run.get (isSome_parse? text)

/-- The step nearest to a component. Components outside the range count as the nearer end
of it, and what is not a number counts as zero. -/
def step (component : Float32) : Nat :=
  let clamped := if component < 0.0 then 0.0 else if 1.0 < component then 1.0 else component
  match Binary.ofFloat32? (clamped * 255.0) with
  | some value => value.roundNat
  | none => 0

/-- The first three components as text. -/
def toText (color : Color) : String :=
  String.ofList ('#' :: (Hex.byteChars (step color.red) ++ Hex.byteChars (step color.green) ++
    Hex.byteChars (step color.blue)))

/-! ### Colors as records -/

/-- Components are written with the fewest digits that tell them apart from the other
numbers of 32 bits. A power of ten is split off later than for numbers of 64 bits below
one, and sooner above. -/
def componentLayout : Decimal.Layout where
  positional := some (-6, 12)
  pointZero := true
  tie := .toEven

/-- A component as the text of a JSON number; what is not a finite number is `null`. -/
def componentText (component : Float32) : String :=
  match Binary.ofFloat32? component with
  | some value => String.ofList (componentLayout.chars Binary.binary32 value)
  | none => "null"

/-- The number of 32 bits nearest to a JSON number. -/
def component? : Json → Option Float32
  | .number (.integer value) =>
    let size := Float32.ofNat value.natAbs
    some (if value < 0 then -size else size)
  | .number (.double value) => some value.toFloat32
  | _ => none

/-- The color that a record of its four components holds. -/
def ofJson? (json : Json) : Option Color :=
  if json.isRecord 4 then do
    let red ← Json.required component? (json.field? 0 "r")
    let green ← Json.required component? (json.field? 1 "g")
    let blue ← Json.required component? (json.field? 2 "b")
    let alpha ← Json.required component? (json.field? 3 "a")
    return ⟨red, green, blue, alpha⟩
  else none

/-- The color as the text of a JSON object. -/
def render (color : Color) : String :=
  "\x7b\"r\":" ++ componentText color.red ++ ",\"g\":" ++ componentText color.green ++
    ",\"b\":" ++ componentText color.blue ++ ",\"a\":" ++ componentText color.alpha ++ "\x7d"

end Color

/-! ### Palettes -/

/-- An endless row of opaque colors, of which a first part may have been used up. It stands
for the program's source of random colors, so that a run can be told from a seed; no theorem
depends on which colors are in it. -/
structure Palette where
  /-- The number from which the rest of the row is made. -/
  seed : UInt64
  deriving DecidableEq, Repr

namespace Palette

/-- The number that follows in the row of numbers behind the colors. -/
def advance (seed : UInt64) : UInt64 :=
  seed * 6364136223846793005 + 1442695040888963407

/-- A component from the highest 24 bits of a number: at least zero and below one. -/
def componentOf (seed : UInt64) : Float32 :=
  (seed >>> 40).toFloat32 / 16777216.0

/-- The next color, and the palette without it. -/
def draw (palette : Palette) : Color × Palette :=
  let red := advance palette.seed
  let green := advance red
  let blue := advance green
  (⟨componentOf red, componentOf green, componentOf blue, 1.0⟩, ⟨blue⟩)

end Palette

end StripChart
