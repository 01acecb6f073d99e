import StripChart.Channels
import StripChart.Log
import StripChart.Message.PlotRequest

/-!
# Tabs

A tab is a surface on which channels are plotted. Beside its channels it knows its size
on the screen, how many points its lines have, and whether anything that its picture
shows has changed since the picture was last taken (`Tab.dirty`).

The number of points follows the width: as many as the tab is wide, but no more than a
limit; and a usual number while the width is not known or zero.
-/

namespace StripChart

/-- What a tab shows, ready to be drawn. -/
structure Picture where
  /-- The name of the tab. -/
  tab : String
  /-- The width of the tab on the screen. -/
  width : Nat
  /-- The height of the tab on the screen. -/
  height : Nat
  /-- How many samples of each channel the tab remembers. -/
  capacity : Nat
  /-- The range of time that is shown. -/
  window : Option (Window Float)
  /-- The lines, in the order of their channels. -/
  lines : List (Line Float)
  deriving DecidableEq

/-- How many points lines have. -/
structure SlotRule where
  /-- How many on a tab whose width is not known. -/
  usual : Nat
  /-- How many at most. -/
  greatest : Nat
  deriving DecidableEq, Repr

/-- The number of points of a line on a tab of a width. -/
def SlotRule.ofWidth (rule : SlotRule) (width : Nat) : Nat :=
  if 0 < width then min width rule.greatest else rule.usual

/-- A surface on which channels are plotted. -/
structure Tab where
  /-- The channels. -/
  channels : Channels Float
  /-- How many points a line has. -/
  slots : Nat
  /-- The width on the screen, as last reported. -/
  width : Nat
  /-- The height on the screen, as last reported. -/
  height : Nat
  /-- Whether the picture may have changed since it was last taken. -/
  dirty : Bool

namespace Tab

/-- A tab on which nothing is plotted yet. Its picture has never been taken. -/
def new (channels : Channels Float) (slots : Nat) : Tab where
  channels := channels
  slots := slots
  width := 0
  height := 0
  dirty := true

/-- The picture of the tab. -/
def picture (tab : Tab) (name : String) : Picture where
  tab := name
  width := tab.width
  height := tab.height
  capacity := tab.channels.capacity
  window := tab.channels.window
  lines := tab.channels.draw tab.slots

/-! ### What a request does to the tab that it names -/

/-- Takes over the size that the request reports. -/
def applySize (tab : Tab) (rule : SlotRule) (request : PlotRequest) : Tab :=
  let tab := match request.width with
    | some width => { tab with width := width.toNat, slots := rule.ofWidth width.toNat }
    | none => tab
  match request.height with
  | some height => { tab with height := height.toNat }
  | none => tab

/-- Drops all samples if the request asks for it. -/
def applyClear (tab : Tab) (request : PlotRequest) : Tab :=
  if request.clear = some true then { tab with channels := tab.channels.clear } else tab

/-- Gives a channel the color of the request; a text that is no color is reported and
nothing changes. -/
def applyColor (tab : Tab) (name channel : String) (color : Option String) :
    Tab × List LogLine :=
  match color with
  | some text =>
    match Color.parse text with
    | .ok color => ({ tab with channels := tab.channels.recolor channel color }, [])
    | .error error => (tab, [⟨.warn, s!"Tab '{name}' channel '{channel}': {error.message}"⟩])
  | none => (tab, [])

/-- Selects or deselects a channel if the request asks for it. -/
def applyState (tab : Tab) (channel : String) (state : Option Bool) (palette : Palette) :
    Tab × Palette :=
  match state with
  | some selected =>
    let (channels, palette) := tab.channels.setSelection channel selected palette
    ({ tab with channels }, palette)
  | none => (tab, palette)

/-- Does what the request says about a channel, first its color and then its selection. A
request that says something about a channel without naming one is reported. -/
def applyChannel (tab : Tab) (request : PlotRequest) (palette : Palette) :
    Tab × Palette × List LogLine :=
  match request.channel with
  | some channel =>
    let (tab, lines) := tab.applyColor request.name channel request.color
    let (tab, palette) := tab.applyState channel request.state palette
    (tab, palette, lines)
  | none =>
    if request.color.isSome || request.state.isSome then
      (tab, palette,
        [⟨.warn, s!"Tab '{request.name}': plot message has color/state but no channel"⟩])
    else (tab, palette, [])

/-- Does all that the request says about the tab. -/
def fulfil (tab : Tab) (rule : SlotRule) (request : PlotRequest) (palette : Palette) :
    Tab × Palette × List LogLine :=
  let (tab, palette, lines) :=
    ((tab.applySize rule request).applyClear request).applyChannel request palette
  ({ tab with dirty := true }, palette, lines)

end Tab

end StripChart
