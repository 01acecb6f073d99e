import StripChart.Json.Token

/-!
# Reading a JSON text

A row of tokens is read from left to right by a machine that keeps the arrays and
objects still open in a stack and knows what may come next. One token is one step
(`Json.Reading.step?`), so a text of any length is read by one pass over its tokens and
the grammar is the table of that one function.

Nesting is limited: an array or object may stand inside at most 126 others. Of two
entries of an object under one key the later stays.
-/

namespace StripChart

namespace Json

/-- The greatest number of arrays and objects that may be open at once. -/
def maxDepth : Nat :=
  127

/-- An array or object that has been opened and not yet closed. -/
inductive Open
  /-- An array with the elements read so far, the last one first. -/
  | array (elements : List Json)
  /-- An object with the entries read so far, and the key whose value is being read. -/
  | object (entries : List (String × Json)) (key : String)

/-- What may come next. -/
inductive Expecting
  /-- A value. -/
  | value
  /-- A first element or the end of an array just opened. -/
  | elementOrEnd
  /-- A first key or the end of an object just opened. -/
  | keyOrEnd
  /-- A key of the object with these entries. -/
  | key (entries : List (String × Json))
  /-- The colon after a key of the object with these entries. -/
  | colon (entries : List (String × Json)) (key : String)
  /-- A comma or the end of an array with these elements, the last one first. -/
  | elementEnd (elements : List Json)
  /-- A comma or the end of an object with these entries. -/
  | entryEnd (entries : List (String × Json))
  /-- Nothing, as the text is complete. -/
  | nothing (value : Json)

/-- How far reading has come. -/
structure Reading where
  /-- The arrays and objects around the point reached, the innermost first. -/
  around : List Open
  /-- What may come next. -/
  expecting : Expecting

namespace Reading

/-- Nothing has been read. -/
def start : Reading :=
  ⟨[], .value⟩

/-- A value has been completed. -/
def complete (value : Json) : List Open → Reading
  | [] => ⟨[], .nothing value⟩
  | .array elements :: around => ⟨around, .elementEnd (value :: elements)⟩
  | .object entries key :: around => ⟨around, .entryEnd (Entries.insert key value entries)⟩

/-- The start of a value is read. An array or object counts as open from here on. -/
def beginValue? (around : List Open) : Token → Option Reading
  | .null => some (complete .null around)
  | .bool value => some (complete (.bool value) around)
  | .number value => some (complete (.number value) around)
  | .string value => some (complete (.string value) around)
  | .openArray => if around.length < maxDepth then some ⟨around, .elementOrEnd⟩ else none
  | .openObject => if around.length < maxDepth then some ⟨around, .keyOrEnd⟩ else none
  | _ => none

/-- One more token is read; `none` if it may not stand here. -/
def step? (reading : Reading) (token : Token) : Option Reading :=
  match reading.expecting, token with
  | .value, token => beginValue? reading.around token
  | .elementOrEnd, .closeArray => some (complete (.array []) reading.around)
  | .elementOrEnd, token => beginValue? (.array [] :: reading.around) token
  | .keyOrEnd, .closeObject => some (complete (.object []) reading.around)
  | .keyOrEnd, .string key => some ⟨reading.around, .colon [] key⟩
  | .key entries, .string key => some ⟨reading.around, .colon entries key⟩
  | .colon entries key, .colon => some ⟨.object entries key :: reading.around, .value⟩
  | .elementEnd elements, .comma => some ⟨.array elements :: reading.around, .value⟩
  | .elementEnd elements, .closeArray =>
    some (complete (.array elements.reverse) reading.around)
  | .entryEnd entries, .comma => some ⟨reading.around, .key entries⟩
  | .entryEnd entries, .closeObject => some (complete (.object entries) reading.around)
  | _, _ => none

/-- The value, if the text is complete. -/
def value? (reading : Reading) : Option Json :=
  match reading.expecting with
  | .nothing value => some value
  | _ => none

end Reading

/-- The value that a row of tokens makes. -/
def ofTokens? (tokens : List Token) : Option Json := do
  let reading ← tokens.foldlM Reading.step? Reading.start
  reading.value?

/-- The value of a JSON text, given by its characters. -/
def ofChars? (text : List Char) : Option Json := do
  let tokens ← Token.scan? text
  ofTokens? tokens

/-- The value of a JSON text. -/
def parse? (text : String) : Option Json :=
  ofChars? text.toList

/-- The value of a JSON text in bytes, which have to be well-formed UTF-8. -/
def decode? (bytes : List UInt8) : Option Json := do
  let text ← Utf8.decode? bytes
  parse? text

end Json

end StripChart
