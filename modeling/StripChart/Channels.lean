import StripChart.Line
import StripChart.Zoom

/-!
# The channels of a tab

A tab plots some of the channels that the server knows of, the *selected* ones. Each has
a color and a ring of its samples; all rings of a tab have the same capacity, and all
are drawn over one window, the least that covers the samples in all of them.

Selecting a channel gives it an empty ring, and deselecting it takes the ring away with
all it holds. A color that was given to a channel outlives this: it is kept by name, and
the channel has it again when it is selected again. A channel that was never given one
takes the next color of a palette.

The window is kept beside the rings and found anew whenever one of them changes, so that
drawing does not have to go through all channels to find it.
-/

namespace StripChart

variable {α : Type}

/-- A selected channel. -/
structure Channel (α : Type) where
  /-- The color of its line. -/
  color : Color
  /-- Its samples. -/
  samples : Ring α

/-- The channels of a tab. -/
structure Channels (α : Type) where
  /-- How many samples of each channel are remembered. -/
  capacity : Nat
  /-- The selected channels. -/
  plotted : ByName (Channel α)
  /-- The colors that were given to channels, selected or not. -/
  colors : ByName Color
  /-- The window that covers all samples, if there are any. -/
  window : Option (Window α)
  /-- There is room for one sample at least. -/
  capacity_pos : 0 < capacity

namespace Channels

/-- A set with no channel selected and no color given. -/
def new (capacity : Nat) (h : 0 < capacity) : Channels α where
  capacity := capacity
  plotted := ByName.empty
  colors := ByName.empty
  window := none
  capacity_pos := h

/-- A set with no channel selected, if the capacity is allowed. -/
def new? (capacity : Nat) : Except InvalidCapacity (Channels α) :=
  if h : 0 < capacity then .ok (new capacity h) else .error .zero

/-! ### What is there -/

/-- Whether the channel is selected. -/
def contains (set : Channels α) (channel : String) : Bool :=
  set.plotted.contains channel

/-- The color of the channel: that of its line, or the one kept for it. -/
def color? (set : Channels α) (channel : String) : Option Color :=
  match set.plotted.find? channel with
  | some plotted => some plotted.color
  | none => set.colors.find? channel

/-- The samples of the channel, if it is selected. -/
def samples? (set : Channels α) (channel : String) : Option (Ring α) :=
  (set.plotted.find? channel).map Channel.samples

/-- The window that covers the samples of one channel, if it has any. -/
def extent? (samples : Ring α) : Option (Window α) := do
  let (oldest, newest) ← samples.timeRange?
  return ⟨oldest, newest⟩

/-- The window that covers the samples of all selected channels, taken in the order of
their names. -/
def windowOf [Scalar α] (plotted : ByName (Channel α)) : Option (Window α) :=
  Window.unionAll? (plotted.values.filterMap fun channel => extent? channel.samples)

/-! ### Selection and colors -/

/-- Selects the channel, with an empty ring. Its color is the one kept for it, or else
the next of the palette. A channel that is selected already stays as it is. -/
def select [Scalar α] (set : Channels α) (channel : String) (palette : Palette) :
    Channels α × Palette :=
  if set.contains channel then (set, palette)
  else
    let (color, palette) := match set.colors.find? channel with
      | some color => (color, palette)
      | none => palette.draw
    let plotted := ⟨color, Ring.new set.capacity set.capacity_pos⟩
    ({ set with plotted := set.plotted.insert channel plotted }, palette)

/-- Deselects the channel and drops its samples. -/
def deselect [Scalar α] (set : Channels α) (channel : String) : Channels α :=
  if set.contains channel then
    let plotted := set.plotted.erase channel
    { set with plotted, window := windowOf plotted }
  else set

/-- Selects or deselects the channel. -/
def setSelection [Scalar α] (set : Channels α) (channel : String) (selected : Bool)
    (palette : Palette) : Channels α × Palette :=
  if selected then set.select channel palette else (set.deselect channel, palette)

/-- Gives the channel a color. A selected channel changes to it and keeps its samples. -/
def recolor (set : Channels α) (channel : String) (color : Color) : Channels α :=
  { set with
    colors := set.colors.insert channel color
    plotted := set.plotted.modify channel fun plotted => { plotted with color } }

/-! ### Samples -/

/-- Puts samples into the ring of a channel, and tells whether the channel is selected;
if it is not, nothing happens. -/
def record [Scalar α] (set : Channels α) (channel : String) (batch : List (Sample α)) :
    Channels α × Bool :=
  match set.plotted.find? channel with
  | some found =>
    let plotted := set.plotted.insert channel { found with samples := found.samples.pushAll batch }
    ({ set with plotted, window := windowOf plotted }, true)
  | none => (set, false)

/-- Changes the capacity to an allowed one. Every ring keeps its newest samples. -/
def resize [Scalar α] (set : Channels α) (capacity : Nat) (h : 0 < capacity) : Channels α :=
  let plotted := set.plotted.mapValues fun channel =>
    { channel with samples := channel.samples.resize capacity h }
  { set with capacity, plotted, window := windowOf plotted, capacity_pos := h }

/-- Changes the capacity, if it is allowed. -/
def resize? [Scalar α] (set : Channels α) (capacity : Nat) :
    Except InvalidCapacity (Channels α) :=
  if h : 0 < capacity then .ok (set.resize capacity h) else .error .zero

/-- A capacity that is allowed is taken on, and no other. -/
theorem resize?_eq_ok_iff [Scalar α] {set after : Channels α} {capacity : Nat} :
    set.resize? capacity = .ok after ↔ ∃ h : 0 < capacity, after = set.resize capacity h := by
  rw [resize?]
  split
  · rename_i hpos
    exact ⟨fun h => ⟨hpos, (Except.ok.inj h).symm⟩, fun ⟨_, h⟩ => congrArg Except.ok h.symm⟩
  · rename_i hzero
    constructor
    · intro h
      cases h
    · rintro ⟨hpos, -⟩
      exact absurd hpos hzero

/-- Changes the capacity by one step of zooming. -/
def zoom [Scalar α] (set : Channels α) (grow : Bool) (scale : α) (minimum : Nat) :
    Channels α :=
  set.resize (zoomedCapacity set.capacity grow scale minimum) (zoomedCapacity_pos ..)

/-- Drops the samples of every channel. -/
def clear (set : Channels α) : Channels α :=
  { set with
    plotted := set.plotted.mapValues fun channel =>
      { channel with samples := channel.samples.clear }
    window := none }

/-! ### Drawing -/

/-- The lines of all channels with at least two samples, in the order of their names. -/
def draw [Scalar α] (set : Channels α) (slots : Nat) : List (Line α) :=
  match set.window with
  | some window => set.plotted.entries.filterMap fun (name, channel) =>
    (Line.points? slots channel.samples window).map fun points => ⟨name, channel.color, points⟩
  | none => []

@[simp] theorem capacity_zoom [Scalar α] (set : Channels α) (grow : Bool) (scale : α)
    (minimum : Nat) :
    (set.zoom grow scale minimum).capacity = zoomedCapacity set.capacity grow scale minimum :=
  rfl

end Channels

end StripChart
