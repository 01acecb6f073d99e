import StripChart.Json
import StripChart.Decimal.Layout
import StripChart.Decimal.Numeral
import StripChart.Text.Hex

/-!
# The words of a JSON text

A JSON text is a row of tokens with white space allowed between them. `Token.chars`
writes a token and `Token.scan` cuts a text into its tokens.

Which rows of tokens make a value is not decided here but in `StripChart.Json.Reader`.
Two tokens that touch without white space are two tokens all the same; since the
grammar asks for a comma, a colon or a bracket between any two values, no text that
should be refused comes through that way.
-/

namespace StripChart

namespace Json

/-- A word of a JSON text. -/
inductive Token
  /-- The word `null`. -/
  | null
  /-- The word `true` or `false`. -/
  | bool (value : Bool)
  /-- A numeral. -/
  | number (value : Number)
  /-- A text in quotes. -/
  | string (value : String)
  /-- An opening bracket `[`. -/
  | openArray
  /-- A closing bracket `]`. -/
  | closeArray
  /-- An opening brace. -/
  | openObject
  /-- A closing brace. -/
  | closeObject
  /-- A comma. -/
  | comma
  /-- A colon. -/
  | colon
  deriving DecidableEq

/-! ### Writing -/

/-- Numbers are written with the fewest digits that read back, positionally from the
fifth place after the point to the sixteenth before it and with a signed power of ten
beyond; a whole number keeps a zero after its point. -/
def numberLayout : Decimal.Layout where
  positional := some (-5, 15)
  pointZero := true
  tie := .toEven

/-- A whole number in decimal digits. -/
def integerChars (value : Int) : List Char :=
  let digits := Decimal.digitChars value.natAbs
  if value < 0 then '-' :: digits else digits

/-- A number as text; what is not finite is written `null`. -/
def Number.chars : Number → List Char
  | .integer value => integerChars value
  | .double value =>
    match Binary.ofFloat? value with
    | some exactly => numberLayout.chars Binary.binary64 exactly
    | none => ['n', 'u', 'l', 'l']

/-- A character inside quotes. The quote, the backslash and the control characters are
escaped, by a letter where there is one; all others stand for themselves. -/
def escapeChar (c : Char) : List Char :=
  match c with
  | '"' => ['\\', '"']
  | '\\' => ['\\', '\\']
  | '\n' => ['\\', 'n']
  | '\t' => ['\\', 't']
  | '\r' => ['\\', 'r']
  | '\x08' => ['\\', 'b']
  | '\x0c' => ['\\', 'f']
  | c =>
    if c.toNat < 0x20 then
      '\\' :: 'u' :: '0' :: '0' :: Hex.byteChars c.toNat
    else [c]

/-- A text in quotes. -/
def quotedChars (text : String) : List Char :=
  '"' :: (text.toList.flatMap escapeChar ++ ['"'])

/-- A token as text. -/
def Token.chars : Token → List Char
  | .null => ['n', 'u', 'l', 'l']
  | .bool true => ['t', 'r', 'u', 'e']
  | .bool false => ['f', 'a', 'l', 's', 'e']
  | .number value => value.chars
  | .string value => quotedChars value
  | .openArray => ['[']
  | .closeArray => [']']
  | .openObject => ['\x7b']
  | .closeObject => ['\x7d']
  | .comma => [',']
  | .colon => [':']

/-! ### Texts in quotes

A text is read in two steps: first every escape becomes a plain character or a unit
of 16 bits, then the units are joined to characters. A character beyond 16 bits comes
as two units, the first from the high and the second from the low surrogates; one of
these without the other stands for nothing. -/

/-- A piece of a text in quotes. -/
inductive Piece
  /-- A character that stands for itself or was escaped by a letter. -/
  | plain (c : Char)
  /-- A unit of 16 bits that was escaped by its number. -/
  | unit (value : Nat)

/-- The value of four digits in base sixteen. -/
def hexUnit? (a b c d : Char) : Option Nat := do
  let high ← Hex.byte? a b
  let low ← Hex.byte? c d
  return high * 256 + low

/-- The character that a letter after a backslash stands for. -/
def letterEscape? : Char → Option Char
  | '"' => some '"'
  | '\\' => some '\\'
  | '/' => some '/'
  | 'b' => some '\x08'
  | 'f' => some '\x0c'
  | 'n' => some '\n'
  | 'r' => some '\r'
  | 't' => some '\t'
  | _ => none

/-- The pieces up to the closing quote, and what follows it. -/
def pieces : List Char → Option (List Piece × List Char)
  | [] => none
  | '"' :: rest => some ([], rest)
  | '\\' :: 'u' :: a :: b :: c :: d :: rest => do
    let value ← hexUnit? a b c d
    let (found, after) ← pieces rest
    return (.unit value :: found, after)
  | '\\' :: c :: rest => do
    let meant ← letterEscape? c
    let (found, after) ← pieces rest
    return (.plain meant :: found, after)
  | c :: rest =>
    if c.toNat < 0x20 ∨ c = '\\' then none
    else do
      let (found, after) ← pieces rest
      return (.plain c :: found, after)

/-- Whether the unit is the first half of a pair. -/
def isHighSurrogate (value : Nat) : Bool :=
  decide (0xD800 ≤ value) && decide (value < 0xDC00)

/-- Whether the unit is the second half of a pair. -/
def isLowSurrogate (value : Nat) : Bool :=
  decide (0xDC00 ≤ value) && decide (value < 0xE000)

/-- The characters that the pieces stand for. -/
def joinPieces : List Piece → Option (List Char)
  | [] => some []
  | .plain c :: rest => (c :: ·) <$> joinPieces rest
  | .unit value :: rest =>
    if isHighSurrogate value then
      match rest with
      | .unit low :: rest =>
        if isLowSurrogate low then
          (Char.ofNat (0x10000 + (value - 0xD800) * 0x400 + (low - 0xDC00)) :: ·) <$>
            joinPieces rest
        else none
      | _ => none
    else if isLowSurrogate value then none
    else (Char.ofNat value :: ·) <$> joinPieces rest

/-- The text up to the closing quote, and what follows it. -/
def scanString? (text : List Char) : Option (String × List Char) := do
  let (found, after) ← pieces text
  let chars ← joinPieces found
  return (String.ofList chars, after)

theorem length_of_pieces {text : List Char} {found : List Piece} {after : List Char}
    (h : pieces text = some (found, after)) : after.length < text.length := by
  fun_induction pieces text generalizing found after with
  | case1 => simp at h
  | case2 rest => simp_all
  | case3 a b c d rest ih =>
    simp only [bind, Option.bind_eq_some_iff] at h
    obtain ⟨value, -, ⟨found', after'⟩, hrest, h⟩ := h
    have := ih hrest
    simp_all
    omega
  | case4 c rest hu ih =>
    simp only [bind, Option.bind_eq_some_iff] at h
    obtain ⟨value, -, ⟨found', after'⟩, hrest, h⟩ := h
    have := ih hrest
    simp_all
    omega
  | case5 => simp at h
  | case6 c rest _ _ _ _ ih =>
    simp only [bind, Option.bind_eq_some_iff] at h
    obtain ⟨⟨found', after'⟩, hrest, h⟩ := h
    have := ih hrest
    simp_all
    omega

theorem length_of_scanString? {text : List Char} {value : String} {after : List Char}
    (h : scanString? text = some (value, after)) : after.length < text.length := by
  simp only [scanString?, bind, Option.bind_eq_some_iff] at h
  obtain ⟨⟨found, after'⟩, hpieces, chars, -, h⟩ := h
  have := length_of_pieces hpieces
  simp_all

/-! ### Numerals -/

/-- The whole part of a numeral: a single zero, or digits of which the first is not. -/
def scanWhole? (text : List Char) : Option (List Char × List Char) :=
  match Decimal.splitDigits text with
  | ([], _) => none
  | ('0' :: _ :: _, _) => none
  | split => some split

/-- The digits after a point; without a point there are none. -/
def scanFraction? : List Char → Option (Option (List Char) × List Char)
  | '.' :: rest =>
    match Decimal.splitDigits rest with
    | ([], _) => none
    | (digits, after) => some (some digits, after)
  | text => some (none, text)

/-- The number that the parts of a numeral stand for. A whole number that fits in 64
bits stays whole, except for a negative zero; anything else is the nearest number of 64
bits, and a numeral beyond all of them stands for nothing.

The nearest number is found by rounding once. The JSON library of the program may round
twice on its way, and then come out one off in the last bit. No theorem depends on which
of the two it is. -/
def numberOf? (negative : Bool) (whole : List Char) (fraction : Option (List Char))
    (exponent : Option Int) : Option Number :=
  let magnitude := Decimal.ofDigits whole
  let isInteger := fraction.isNone && exponent.isNone
  if isInteger && !negative && decide (magnitude < Nat.pow 2 64) then some (.integer magnitude)
  else if isInteger && negative && decide (0 < magnitude) && decide (magnitude ≤ Nat.pow 2 63) then
    some (.integer (-magnitude))
  else
    let places := fraction.getD []
    let size := Decimal.toFloat
      ⟨Decimal.ofDigits (whole ++ places), exponent.getD 0 - places.length⟩
    if size.isFinite then some (.double (if negative then -size else size)) else none

/-- The numeral at the front of a text without its sign, and what follows it. -/
def scanUnsigned? (negative : Bool) (text : List Char) : Option (Number × List Char) := do
  let (whole, text) ← scanWhole? text
  let (fraction, text) ← scanFraction? text
  let (exponent, text) ← Decimal.scanExponent? text
  let value ← numberOf? negative whole fraction exponent
  return (value, text)

/-- The numeral at the front of a text, and what follows it. -/
def scanNumber? : List Char → Option (Number × List Char)
  | '-' :: rest => scanUnsigned? true rest
  | text => scanUnsigned? false text

theorem length_of_scanWhole? {text whole after : List Char}
    (h : scanWhole? text = some (whole, after)) : after.length < text.length := by
  have hlen := Decimal.length_of_splitDigits text
  unfold scanWhole? at h
  split at h
  · cases h
  · cases h
  · rename_i hempty _
    cases h
    have hne : (Decimal.splitDigits text).1 ≠ [] := fun hnil => hempty _ (Prod.ext hnil rfl)
    have := List.length_pos_iff.2 hne
    change (Decimal.splitDigits text).2.length < text.length
    omega

theorem length_of_scanFraction? {text after : List Char} {fraction : Option (List Char)}
    (h : scanFraction? text = some (fraction, after)) : after.length ≤ text.length := by
  unfold scanFraction? at h
  split at h
  · rename_i rest
    have hlen := Decimal.length_of_splitDigits rest
    split at h
    · cases h
    · rename_i heq
      cases h
      rw [heq] at hlen
      simp only [List.length_cons] at hlen ⊢
      omega
  · cases h
    exact Nat.le_refl _

theorem length_of_scanUnsigned? {negative : Bool} {text : List Char} {value : Number}
    {after : List Char} (h : scanUnsigned? negative text = some (value, after)) :
    after.length < text.length := by
  simp only [scanUnsigned?, bind, Option.bind_eq_some_iff] at h
  obtain ⟨⟨whole, text₁⟩, h₁, ⟨fraction, text₂⟩, h₂, ⟨exponent, text₃⟩, h₃, number, -, h⟩ := h
  have := length_of_scanWhole? h₁
  have := length_of_scanFraction? h₂
  have := Decimal.length_of_scanExponent? h₃
  cases h
  simp only at *
  omega

theorem length_of_scanNumber? {text : List Char} {value : Number} {after : List Char}
    (h : scanNumber? text = some (value, after)) : after.length < text.length := by
  unfold scanNumber? at h
  split at h
  · exact Nat.lt_succ_of_lt (length_of_scanUnsigned? h)
  · exact length_of_scanUnsigned? h

/-! ### Cutting a text into tokens -/

/-- White space between tokens: space, tab, line feed and carriage return. -/
def isGap (c : Char) : Bool :=
  c == ' ' || c == '\t' || c == '\n' || c == '\r'

/-- The token at the front of a text, and what follows it. -/
def Token.scanOne? : List Char → Option (Token × List Char)
  | '[' :: rest => some (.openArray, rest)
  | ']' :: rest => some (.closeArray, rest)
  | '\x7b' :: rest => some (.openObject, rest)
  | '\x7d' :: rest => some (.closeObject, rest)
  | ',' :: rest => some (.comma, rest)
  | ':' :: rest => some (.colon, rest)
  | 'n' :: 'u' :: 'l' :: 'l' :: rest => some (.null, rest)
  | 't' :: 'r' :: 'u' :: 'e' :: rest => some (.bool true, rest)
  | 'f' :: 'a' :: 'l' :: 's' :: 'e' :: rest => some (.bool false, rest)
  | '"' :: rest => (scanString? rest).map fun found => (.string found.1, found.2)
  | text => (scanNumber? text).map fun found => (.number found.1, found.2)

theorem Token.length_of_scanOne? {text : List Char} {token : Token} {after : List Char}
    (h : Token.scanOne? text = some (token, after)) : after.length < text.length := by
  unfold Token.scanOne? at h
  split at h
  case h_10 rest =>
    obtain ⟨found, hfound, h⟩ := Option.map_eq_some_iff.1 h
    cases h
    exact Nat.lt_succ_of_lt (length_of_scanString? hfound)
  case h_11 =>
    obtain ⟨found, hfound, h⟩ := Option.map_eq_some_iff.1 h
    cases h
    exact length_of_scanNumber? hfound
  all_goals
    cases h
    simp only [List.length_cons]
    omega

/-- The tokens of a text; `none` if some part of it is no token. -/
def Token.scan? (text : List Char) : Option (List Token) :=
  match _gap : text.dropWhile isGap with
  | [] => some []
  | c :: rest =>
    match _scan : Token.scanOne? (c :: rest) with
    | none => none
    | some (token, after) => (token :: ·) <$> Token.scan? after
termination_by text.length
decreasing_by
  have := Token.length_of_scanOne? _scan
  have := (List.dropWhile_sublist (l := text) isGap).length_le
  rw [_gap] at this
  omega

end Json

end StripChart
