import StripChart.Config
import StripChart.Tab

/-!
# The tabs of a session

A `Registry` holds all tabs of a session and knows which of them is on the screen. A tab
comes into being when it is first named by a request, a command or the config; it then
has the usual capacity and nothing plotted. News of samples never makes a tab, so what a
server sends beyond what is plotted takes no room.

Pictures are taken only of tabs that are dirty, and taking them makes the tabs clean
(`Registry.takePictures`). Every operation that may change what a picture shows marks
the tab.
-/

namespace StripChart

/-- All tabs of a session. -/
structure Registry where
  /-- The tabs. -/
  tabs : ByName Tab
  /-- The tab on the screen. -/
  shown : Option String
  /-- The colors for channels that were never given one. -/
  palette : Palette
  /-- What the channels of a new tab are like. -/
  fresh : Channels Float
  /-- How many points lines have. -/
  slotRule : SlotRule
  /-- The least capacity that zooming goes down to. -/
  minCapacity : Nat
  /-- The factor of one step of zooming. -/
  capacityScale : Float

namespace Registry

/-- A registry without tabs. -/
def new? (config : Config) (palette : Palette) : Except InvalidCapacity Registry :=
  (Channels.new? config.defaultCapacity).map fun fresh =>
    { tabs := ByName.empty
      shown := none
      palette
      fresh
      slotRule := ⟨config.defaultDrawSlots, config.maxDrawSlots⟩
      minCapacity := config.minCapacity
      capacityScale := config.capacityScale }

/-- A tab as it is when it is first named. -/
def freshTab (registry : Registry) : Tab :=
  Tab.new registry.fresh registry.slotRule.usual

/-- The tab of the name, a fresh one if there is none. -/
def tabOrFresh (registry : Registry) (name : String) : Tab :=
  (registry.tabs.find? name).getD registry.freshTab

/-- Puts a tab under a name. -/
def putTab (registry : Registry) (name : String) (tab : Tab) : Registry :=
  { registry with tabs := registry.tabs.insert name tab }

/-- Makes sure that there is a tab of the name. -/
def touch (registry : Registry) (name : String) : Registry :=
  registry.putTab name (registry.tabOrFresh name)

/-- Takes a tab away with all it holds, and tells whether it was there. The tab is then
no longer on the screen. -/
def remove (registry : Registry) (name : String) : Registry × Bool :=
  ({ registry with
      shown := if registry.shown = some name then none else registry.shown
      tabs := registry.tabs.erase name },
    registry.tabs.contains name)

/-- Which tab is on the screen after a request has said whether its tab shall be. -/
def shownAfter (shown : Option String) (name : String) : Option Bool → Option String
  | some true => some name
  | some false => if shown = some name then none else shown
  | none => shown

/-- Does what a request says. The tab that it names is made if there is none. -/
def fulfil (registry : Registry) (request : PlotRequest) : Registry × List LogLine :=
  let (tab, palette, lines) := (registry.tabOrFresh request.name).fulfil registry.slotRule request
    registry.palette
  ({ registry with
      shown := shownAfter registry.shown request.name request.shown
      palette
      tabs := registry.tabs.insert request.name tab },
    lines)

/-- Puts samples into the ring of a channel, and tells whether the channel is selected on
a tab that is there; if not, nothing happens. -/
def record (registry : Registry) (name channel : String) (batch : List (Sample Float)) :
    Registry × Bool :=
  match registry.tabs.find? name with
  | some tab =>
    let (channels, recorded) := tab.channels.record channel batch
    (registry.putTab name { tab with channels, dirty := tab.dirty || recorded }, recorded)
  | none => (registry, false)

/-- Changes the capacity of a tab, if the capacity is allowed. The tab is looked up, and
made if there is none, before the capacity is looked at. -/
def resize (registry : Registry) (name : String) (capacity : Nat) :
    Registry × Except InvalidCapacity Unit :=
  let tab := registry.tabOrFresh name
  match tab.channels.resize? capacity with
  | .ok channels => (registry.putTab name { tab with channels, dirty := true }, .ok ())
  | .error error => (registry.putTab name tab, .error error)

/-- Changes the capacity of a tab by one step of zooming, and tells the new capacity. -/
def zoom (registry : Registry) (name : String) (grow : Bool) : Registry × Nat :=
  let tab := registry.tabOrFresh name
  let channels := tab.channels.zoom grow registry.capacityScale registry.minCapacity
  (registry.putTab name { tab with channels, dirty := true }, channels.capacity)

/-- The pictures of the dirty tabs, in the order of their names. -/
def dirtyPictures (registry : Registry) : List Picture :=
  registry.tabs.entries.filterMap fun entry =>
    if entry.2.dirty then some (entry.2.picture entry.1) else none

/-- Takes the pictures of the dirty tabs and makes these clean. -/
def takePictures (registry : Registry) : Registry × List Picture :=
  ({ registry with tabs := registry.tabs.mapValues fun tab => { tab with dirty := false } },
    registry.dirtyPictures)

/-! ### The registry that a config describes -/

/-- Selects channels, one after the other. -/
def selectAll (set : Channels Float) (channels : List String) (palette : Palette) :
    Channels Float × Palette :=
  channels.foldl (fun (set, palette) channel => set.select channel palette) (set, palette)

/-- Does what the config says about one tab. -/
def applyTabSettings (registry : Registry) (entry : TabSettings) :
    Except InvalidCapacity Registry := do
  let tab := registry.tabOrFresh entry.name
  let resized ← match entry.capacity with
    | some capacity => tab.channels.resize? capacity
    | none => .ok tab.channels
  let (channels, palette) := selectAll resized entry.channels registry.palette
  return { registry with
    shown := if entry.shown then some entry.name else registry.shown
    palette
    tabs := registry.tabs.insert entry.name { tab with channels } }

/-- The registry in which everything is plotted that the config wants from the start. -/
def ofConfig? (config : Config) (palette : Palette) : Except InvalidCapacity Registry := do
  let registry ← new? config palette
  config.tabs.foldlM applyTabSettings registry

end Registry

end StripChart
