import StripChart.Proofs.Requests
import StripChart.Proofs.Ring

/-!
# What is done to the ring of a channel

The channels of a tab are many things at once: which are selected, in what colors, over what
window they are drawn. Whoever asks what becomes of the samples of one channel needs none of
this, only the capacity and the ring of the channel. This file says of every operation what
it does to these two, level by level: of the channels of a tab, of a tab, and of a registry,
where a ring is found by the name of its tab and its own (`Registry.ring?`).

What a request for a tab does to a ring is the longest of these (`Tab.samples?_fulfil`): it
may be cleared, and then be dropped or made.
-/

namespace StripChart

/-! ### The channels of a tab -/

namespace Channels

variable {α : Type} (set : Channels α)

/-- A selected channel has a ring. -/
theorem exists_samples?_of_contains {set : Channels α} {channel : String}
    (h : set.contains channel = true) : ∃ ring, set.samples? channel = some ring := by
  obtain ⟨found, hfound⟩ := Option.isSome_iff_exists.1 h
  exact ⟨found.samples, by rw [samples?, hfound, Option.map_some]⟩

/-- A channel that is not selected has none. -/
theorem samples?_of_not_contains {set : Channels α} {channel : String}
    (h : ¬set.contains channel = true) : set.samples? channel = none := by
  rw [samples?, Option.not_isSome_iff_eq_none.1 h, Option.map_none]

/-- **A color** has nothing to do with samples. -/
theorem samples?_recolor (channel : String) (color : Color) (other : String) :
    (set.recolor channel color).samples? other = set.samples? other := by
  rw [samples?, samples?, recolor, ByName.find?_modify]
  split
  · rw [Option.map_map]
    rfl
  · rfl

/-- **Clearing** empties all rings. -/
theorem samples?_clear (other : String) :
    set.clear.samples? other = (set.samples? other).map Ring.clear := by
  rw [samples?, samples?, clear, ByName.find?_mapValues, Option.map_map, Option.map_map]
  rfl

variable [Scalar α]

theorem capacity_select (channel : String) (palette : Palette) :
    (set.select channel palette).1.capacity = set.capacity := by
  rw [select]
  split <;> rfl

/-- **Selecting** gives an empty ring to a channel that has none. -/
theorem samples?_select (channel other : String) (palette : Palette) :
    (set.select channel palette).1.samples? other
      = if other = channel then
          some ((set.samples? channel).getD (Ring.new set.capacity set.capacity_pos))
        else set.samples? other := by
  rw [select]
  split
  · rename_i hthere
    obtain ⟨ring, hring⟩ := exists_samples?_of_contains hthere
    split
    · rename_i heq
      rw [heq, hring, Option.getD_some]
    · rfl
  · rename_i hnot
    rw [samples?, ByName.find?_insert, samples?_of_not_contains hnot, Option.getD_none]
    split <;> rfl

theorem capacity_deselect (channel : String) :
    (set.deselect channel).capacity = set.capacity := by
  rw [deselect]
  split <;> rfl

/-- **Deselecting** takes the ring away. -/
theorem samples?_deselect (channel other : String) :
    (set.deselect channel).samples? other
      = if other = channel then none else set.samples? other := by
  rw [deselect]
  split
  · rw [samples?, ByName.find?_erase]
    split <;> rfl
  · rename_i hnot
    split
    · rename_i heq
      rw [heq, samples?_of_not_contains hnot]
    · rfl

theorem capacity_record (channel : String) (batch : List (Sample α)) :
    (set.record channel batch).1.capacity = set.capacity := by
  rw [record]
  split <;> rfl

/-- **Recording** puts the samples into the ring of the channel, if it has one. -/
theorem samples?_record (channel other : String) (batch : List (Sample α)) :
    (set.record channel batch).1.samples? other
      = if other = channel then (set.samples? channel).map (Ring.pushAll · batch)
        else set.samples? other := by
  rw [record]
  split
  · rename_i found hfound
    rw [samples?, ByName.find?_insert, samples?, hfound]
    split <;> rfl
  · rename_i hnone
    split
    · rename_i heq
      rw [heq, samples?, hnone]
      rfl
    · rfl

/-- **Another capacity** is one for all rings. -/
theorem samples?_resize (capacity : Nat) (h : 0 < capacity) (other : String) :
    (set.resize capacity h).samples? other
      = (set.samples? other).map (Ring.resize · capacity h) := by
  rw [samples?, samples?, resize, ByName.find?_mapValues, Option.map_map, Option.map_map]
  rfl

end Channels

/-! ### A tab -/

namespace Tab

variable (tab : Tab) (request : PlotRequest) (palette : Palette)

theorem channels_applySize (rule : SlotRule) :
    (tab.applySize rule request).channels = tab.channels := by
  rw [applySize]
  cases request.width <;> cases request.height <;> rfl

theorem capacity_applyClear :
    (tab.applyClear request).channels.capacity = tab.channels.capacity := by
  rw [applyClear]
  split <;> rfl

theorem samples?_applyClear (channel : String) :
    (tab.applyClear request).channels.samples? channel
      = if request.clear = some true then (tab.channels.samples? channel).map Ring.clear
        else tab.channels.samples? channel := by
  rw [applyClear]
  split
  · exact tab.channels.samples?_clear channel
  · rfl

/-- The color of a channel has nothing to do with capacity and samples. -/
theorem channels_applyColor (name channel : String) (color : Option String) :
    (tab.applyColor name channel color).1.channels.capacity = tab.channels.capacity ∧
      ∀ other, (tab.applyColor name channel color).1.channels.samples? other
        = tab.channels.samples? other := by
  cases color with
  | none => exact ⟨rfl, fun _ => rfl⟩
  | some text =>
    simp only [applyColor]
    split
    · exact ⟨rfl, tab.channels.samples?_recolor channel _⟩
    · exact ⟨rfl, fun _ => rfl⟩

theorem capacity_applyState (channel : String) (state : Option Bool) :
    (tab.applyState channel state palette).1.channels.capacity = tab.channels.capacity := by
  rcases state with - | (_ | _)
  · rfl
  · exact tab.channels.capacity_deselect channel
  · exact tab.channels.capacity_select channel palette

theorem samples?_applyState (channel other : String) (state : Option Bool) :
    (tab.applyState channel state palette).1.channels.samples? other
      = if other = channel then
          match state with
          | some true => some ((tab.channels.samples? other).getD
              (Ring.new tab.channels.capacity tab.channels.capacity_pos))
          | some false => none
          | none => tab.channels.samples? other
        else tab.channels.samples? other := by
  rcases state with - | (_ | _)
  · exact (ite_self _).symm
  · exact tab.channels.samples?_deselect channel other
  · refine (tab.channels.samples?_select channel other palette).trans ?_
    split
    · rename_i heq
      rw [heq]
    · rfl

theorem capacity_applyChannel :
    (tab.applyChannel request palette).1.channels.capacity = tab.channels.capacity := by
  rw [applyChannel]
  cases request.channel with
  | none =>
    dsimp only
    split <;> rfl
  | some channel =>
    exact (capacity_applyState _ _ channel request.state).trans
      (tab.channels_applyColor request.name channel request.color).1

/-- What a request says of a channel, it does to the ring of this channel alone. -/
theorem samples?_applyChannel (other : String) :
    (tab.applyChannel request palette).1.channels.samples? other
      = if request.channel = some other then
          match request.state with
          | some true => some ((tab.channels.samples? other).getD
              (Ring.new tab.channels.capacity tab.channels.capacity_pos))
          | some false => none
          | none => tab.channels.samples? other
        else tab.channels.samples? other := by
  rw [applyChannel]
  cases request.channel with
  | none =>
    dsimp only
    split <;> rfl
  | some channel =>
    obtain ⟨hcapacity, hsamples⟩ := tab.channels_applyColor request.name channel request.color
    refine (samples?_applyState _ _ channel other request.state).trans ?_
    simp only [hcapacity, hsamples, Option.some.injEq, eq_comm]

theorem capacity_fulfil (rule : SlotRule) :
    (tab.fulfil rule request palette).1.channels.capacity = tab.channels.capacity := by
  refine (capacity_applyChannel _ request palette).trans ?_
  rw [capacity_applyClear, channels_applySize]

/-- **What a request does to the ring of a channel**: first it is cleared, if the request asks
for this, and then made or dropped, if the request is about this channel. -/
theorem samples?_fulfil (rule : SlotRule) (other : String) :
    (tab.fulfil rule request palette).1.channels.samples? other
      = let cleared := if request.clear = some true then
            (tab.channels.samples? other).map Ring.clear
          else tab.channels.samples? other
        if request.channel = some other then
          match request.state with
          | some true => some (cleared.getD
              (Ring.new tab.channels.capacity tab.channels.capacity_pos))
          | some false => none
          | none => cleared
        else cleared := by
  refine (samples?_applyChannel _ request palette other).trans ?_
  simp only [samples?_applyClear, capacity_applyClear, channels_applySize]

end Tab

/-! ### A registry -/

namespace Registry

/-- The ring of a channel on a tab, if there is the tab and the channel is selected. -/
def ring? (registry : Registry) (name channel : String) : Option (Ring Float) :=
  (registry.tabs.find? name).bind fun tab => tab.channels.samples? channel

variable {name channel : String}

theorem ring?_putTab (registry : Registry) (other : String) (tab : Tab) :
    (registry.putTab other tab).ring? name channel
      = if other = name then tab.channels.samples? channel else registry.ring? name channel := by
  rw [ring?, putTab, ByName.find?_insert]
  by_cases hname : other = name
  · rw [if_pos hname, if_pos hname.symm]
    rfl
  · rw [if_neg hname, if_neg (Ne.symm hname)]
    rfl

/-- **Samples** get into the ring of their channel on their tab, and into no other. -/
theorem ring?_record (registry : Registry) (tab other : String) (batch : List (Sample Float)) :
    (registry.record tab other batch).1.ring? name channel
      = if tab = name ∧ other = channel then
          (registry.ring? name channel).map (Ring.pushAll · batch)
        else registry.ring? name channel := by
  rcases hfind : registry.tabs.find? tab with - | found
  · rw [record_of_none hfind]
    split
    · rename_i hboth
      rw [ring?, ← hboth.1, hfind]
      rfl
    · rfl
  · rw [record_of_some hfind, ring?_putTab]
    by_cases hname : tab = name
    · subst hname
      have hring : registry.ring? tab channel = found.channels.samples? channel := by
        rw [ring?, hfind, Option.bind_some]
      rw [if_pos rfl, Channels.samples?_record, hring]
      by_cases hother : other = channel
      · rw [if_pos hother.symm, if_pos ⟨rfl, hother⟩, hother]
      · rw [if_neg (Ne.symm hother), if_neg fun hboth => hother hboth.2]
    · rw [if_neg hname, if_neg fun hboth => hname hboth.1]

end Registry

end StripChart
