import StripChart.Json.Shape

/-!
# Requests to change a plot

A `PlotRequest` changes what a tab shows. It names the tab and may say any of seven
things about it; what it does not say stays as it is. The same request comes from the
server under the key `plot` and from the user's side as a command.
-/

namespace StripChart

/-- A change to one tab. -/
structure PlotRequest where
  /-- The tab it is about. -/
  name : String
  /-- The channel that `state` and `color` are about. -/
  channel : Option String := none
  /-- Whether the channel shall be selected. -/
  state : Option Bool := none
  /-- The color of the channel, as text. -/
  color : Option String := none
  /-- Whether the samples of every channel of the tab shall be dropped. -/
  clear : Option Bool := none
  /-- The width of the tab on the screen. -/
  width : Option UInt32 := none
  /-- The height of the tab on the screen. -/
  height : Option UInt32 := none
  /-- Whether the tab shall be the one on the screen. -/
  shown : Option Bool := none
  deriving DecidableEq, Repr

namespace PlotRequest

/-- A width or height, which has at most 32 bits. -/
def pixels? (json : Json) : Option UInt32 :=
  (json.nat? 32).map UInt32.ofNat

/-- A width or height as a value. -/
def pixelsToJson (pixels : UInt32) : Json :=
  Json.ofNat pixels.toNat

/-- The request that a record of its eight fields holds. -/
def ofJson? (json : Json) : Option PlotRequest :=
  if json.isRecord 8 then do
    let name ← Json.required Json.string? (json.field? 0 "name")
    let channel ← Json.optional Json.string? (json.field? 1 "channel")
    let state ← Json.optional Json.bool? (json.field? 2 "state")
    let color ← Json.optional Json.string? (json.field? 3 "color")
    let clear ← Json.optional Json.bool? (json.field? 4 "clear")
    let width ← Json.optional pixels? (json.field? 5 "width")
    let height ← Json.optional pixels? (json.field? 6 "height")
    let shown ← Json.optional Json.bool? (json.field? 7 "shown")
    return { name, channel, state, color, clear, width, height, shown }
  else none

/-- A field that is written only if it is set. -/
def setField {α : Type} (name : String) (write : α → Json) (value : Option α) :
    List (String × Json) :=
  value.toList.map fun value => (name, write value)

/-- The request as a list of named fields, those that are not set left out. -/
def fields (request : PlotRequest) : List (String × Json) :=
  ("name", .string request.name) ::
    (setField "channel" .string request.channel ++ setField "state" .bool request.state ++
      setField "color" .string request.color ++ setField "clear" .bool request.clear ++
      setField "width" pixelsToJson request.width ++
      setField "height" pixelsToJson request.height ++
      setField "shown" .bool request.shown)

/-- The request as an object. -/
def toJson (request : PlotRequest) : Json :=
  Json.ofEntries request.fields

/-! ### Requests that say one thing -/

/-- Selects or deselects a channel. -/
def selecting (tab channel : String) (selected : Bool) : PlotRequest :=
  { name := tab, channel := some channel, state := some selected }

/-- Gives a channel a color. -/
def coloring (tab channel color : String) : PlotRequest :=
  { name := tab, channel := some channel, color := some color }

/-- Drops the samples of every channel. -/
def clearing (tab : String) : PlotRequest :=
  { name := tab, clear := some true }

/-- Reports the size of a tab on the screen. -/
def resizing (tab : String) (width height : UInt32) : PlotRequest :=
  { name := tab, width := some width, height := some height }

/-- Puts a tab on the screen or takes it off. -/
def showing (tab : String) (shown : Bool) : PlotRequest :=
  { name := tab, shown := some shown }

end PlotRequest

end StripChart
