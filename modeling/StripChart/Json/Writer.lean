import StripChart.Json.Token

/-!
# Writing a JSON text

The text of a value is the row of its tokens without white space between them. Objects
are written in the order in which they hold their entries, which is that of their keys.
-/

namespace StripChart

namespace Json

mutual

/-- The tokens of a value. -/
def tokens : Json → List Token
  | .null => [.null]
  | .bool value => [.bool value]
  | .number value => [.number value]
  | .string value => [.string value]
  | .array elements => .openArray :: (elementTokens elements ++ [.closeArray])
  | .object entries => .openObject :: (entryTokens entries ++ [.closeObject])

/-- The tokens of the elements of an array, with commas between them. -/
def elementTokens : List Json → List Token
  | [] => []
  | element :: rest => tokens element ++ moreElementTokens rest

/-- The tokens of further elements, each with a comma in front. -/
def moreElementTokens : List Json → List Token
  | [] => []
  | element :: rest => .comma :: (tokens element ++ moreElementTokens rest)

/-- The tokens of the entries of an object, with commas between them. -/
def entryTokens : List (String × Json) → List Token
  | [] => []
  | entry :: rest => .string entry.1 :: .colon :: (tokens entry.2 ++ moreEntryTokens rest)

/-- The tokens of further entries, each with a comma in front. -/
def moreEntryTokens : List (String × Json) → List Token
  | [] => []
  | entry :: rest =>
    .comma :: .string entry.1 :: .colon :: (tokens entry.2 ++ moreEntryTokens rest)

end

/-- The characters of a value's text. -/
def chars (value : Json) : List Char :=
  (tokens value).flatMap Token.chars

/-- The text of a value. -/
def render (value : Json) : String :=
  String.ofList value.chars

/-- The text of a value in bytes. -/
def encode (value : Json) : List UInt8 :=
  Utf8.encode value.render

end Json

end StripChart
