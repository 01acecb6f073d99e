import StripChart.Proofs.Sizes
import StripChart.Proofs.Upkeep

/-!
# Requests that are fulfilled already

A request for a tab may say seven things, and what it says is done in a fixed order: the
samples are dropped, a channel gets a color, the channel is selected or deselected. Each of
these touches what the others have made, and selecting may take a color from the palette. It is
still true that a request asks for a state of the tab, and not for a change of it: whoever sends
it twice has gained nothing.

The one fact that carries this file is that the state asked for can be said without saying how
it is reached (`Tab.Meets`). A request leads to such a state from every tab
(`Tab.meets_fulfil`), and in such a state it changes nothing, whatever color would come next
(`Tab.Meets.fulfil_eq`). For this it has to be seen that what is done later leaves what has been
done before: a color or a selection leaves the samples dropped (`Channels.IsClear`), and a
selection leaves the color that was given (`Channels.Wears`). The second is also why a color in
the request comes before one that is kept and one that would be drawn.
-/

namespace StripChart

variable {α : Type}

/-! ### A set of channels in the state asked for -/

namespace Channels

/-- **The samples are dropped**: dropping them again would change nothing. -/
structure IsClear (set : Channels α) : Prop where
  /-- No ring would be changed. -/
  clear_ring {channel : String} {ring : Ring α} :
    set.samples? channel = some ring → ring.clear = ring
  /-- There is no window. -/
  window_eq : set.window = none

variable {set : Channels α} {channel : String} {color : Color}

theorem isClear_clear (set : Channels α) : set.clear.IsClear where
  clear_ring hring := by
    rw [samples?_clear] at hring
    obtain ⟨found, -, rfl⟩ := Option.map_eq_some_iff.1 hring
    rfl
  window_eq := rfl

theorem IsClear.clear_eq (h : set.IsClear) : set.clear = set := by
  have hplotted : set.plotted.mapValues (fun channel =>
      { channel with samples := channel.samples.clear }) = set.plotted := by
    refine ByName.ext_find? fun name => ?_
    rw [ByName.find?_mapValues]
    rcases hfind : set.plotted.find? name with - | found
    · rfl
    · have hring : set.samples? name = some found.samples := by
        rw [samples?, hfind, Option.map_some]
      rw [Option.map_some, h.clear_ring hring]
  rw [clear, hplotted, ← h.window_eq]

theorem IsClear.recolor (h : set.IsClear) (channel : String) (color : Color) :
    (set.recolor channel color).IsClear where
  clear_ring hring := h.clear_ring ((samples?_recolor set channel color _).symm.trans hring)
  window_eq := h.window_eq

theorem contains_eq_isSome_samples? (set : Channels α) (channel : String) :
    set.contains channel = (set.samples? channel).isSome :=
  Option.isSome_map.symm

/-- A channel that has been given a color wears it, whatever it wore before. -/
theorem wears_recolor (set : Channels α) (channel : String) (color : Color) :
    (set.recolor channel color).Wears channel (some color) := by
  refine ⟨ByName.find?_insert_self .., fun {found worn} hfound hgiven => ?_⟩
  rw [Channels.recolor, ByName.find?_modify, if_pos rfl] at hfound
  obtain ⟨before, -, rfl⟩ := Option.map_eq_some_iff.1 hfound
  exact Option.some.inj hgiven

/-- **Giving a channel the color that it wears changes nothing.** -/
theorem Wears.recolor_eq (h : set.Wears channel (some color)) :
    set.recolor channel color = set := by
  have hcolors : set.colors.insert channel color = set.colors :=
    ByName.insert_of_find?_eq_some h.kept
  have hplotted : set.plotted.modify channel (fun plotted => { plotted with color })
      = set.plotted := by
    rw [ByName.modify]
    split
    · rename_i found hfound
      obtain rfl : found.color = color := h.drawn hfound rfl
      exact ByName.insert_of_find?_eq_some hfound
    · rfl
  rw [Channels.recolor, hcolors, hplotted]

/-- Dropping samples selects no channel, deselects none, and leaves all colors. -/
theorem colors_clear (set : Channels α) (channel : String) :
    set.clear.colors = set.colors ∧ set.clear.contains channel = set.contains channel ∧
      set.clear.color? channel = set.color? channel := by
  refine ⟨rfl, ?_, ?_⟩
  · rw [contains, clear, ByName.contains, ByName.find?_mapValues]
    exact Option.isSome_map
  · rw [color?, color?, clear, ByName.find?_mapValues]
    cases set.plotted.find? channel <;> rfl

variable [Scalar α]

theorem IsClear.setSelection (h : set.IsClear) (channel : String) (selected : Bool)
    (palette : Palette) : (set.setSelection channel selected palette).1.IsClear := by
  cases selected with
  | false =>
    refine ⟨fun {other ring} hring => ?_, ?_⟩
    · refine IsClear.clear_ring h (?_ : set.samples? other = some ring)
      have := (set.samples?_deselect channel other).symm.trans hring
      split at this
      · exact absurd this.symm (Option.some_ne_none _)
      · exact this
    · show (set.deselect channel).window = none
      rw [deselect]
      split
      · -- the window is found anew, from rings without samples
        have hnone : (set.plotted.erase channel).values.filterMap
            (fun found => extent? found.samples) = ([] : List (Window α)) := by
          refine List.filterMap_eq_nil_iff.2 fun found hmem => ?_
          obtain ⟨name, hname⟩ := ByName.mem_values_iff.1 hmem
          rw [ByName.find?_erase] at hname
          split at hname
          · exact absurd hname.symm (Option.some_ne_none _)
          · have hring : set.samples? name = some found.samples := by
              rw [samples?, hname, Option.map_some]
            rw [← h.clear_ring hring]
            rfl
        show windowOf (set.plotted.erase channel) = none
        rw [windowOf, hnone]
        rfl
      · exact h.window_eq
  | true =>
    refine ⟨fun {other ring} hring => ?_, ?_⟩
    · rw [show (set.setSelection channel true palette).1.samples? other = _ from
        set.samples?_select channel other palette] at hring
      split at hring
      · rcases hfind : set.samples? channel with - | found
        · -- the ring is new
          rw [hfind, Option.getD_none] at hring
          obtain rfl := Option.some.inj hring
          rfl
        · rw [hfind, Option.getD_some] at hring
          exact h.clear_ring (hfind.trans hring)
      · exact h.clear_ring hring
    · show (set.select channel palette).1.window = none
      rw [select]
      split <;> exact h.window_eq

theorem Wears.setSelection {given : Option Color} (h : set.Wears channel given) (other : String)
    (selected : Bool) (palette : Palette) :
    (set.setSelection other selected palette).1.Wears channel given := by
  cases selected with
  | false => exact h.deselect other
  | true => exact h.select other palette

/-- **A channel is afterwards what it shall be.** -/
theorem contains_setSelection (set : Channels α) (channel : String) (selected : Bool)
    (palette : Palette) :
    (set.setSelection channel selected palette).1.contains channel = selected := by
  cases selected with
  | false =>
    rw [contains_eq_isSome_samples?]
    show ((set.deselect channel).samples? channel).isSome = false
    rw [samples?_deselect, if_pos rfl, Option.isSome_none]
  | true => exact set.contains_setSelection_true channel palette

/-- **A channel that is what it shall be stays so**, and no color is taken from the palette. -/
theorem setSelection_of_contains_eq {selected : Bool} (h : set.contains channel = selected)
    (palette : Palette) : set.setSelection channel selected palette = (set, palette) := by
  cases selected with
  | false =>
    show (set.deselect channel, palette) = (set, palette)
    rw [deselect, if_neg (by rw [h]; exact Bool.false_ne_true)]
  | true =>
    show set.select channel palette = (set, palette)
    rw [select, if_pos h]

/-- Selecting and deselecting leaves the colors that are kept, and those of channels that stay
what they were. -/
theorem colors_setSelection (set : Channels α) (channel : String) (selected : Bool)
    (palette : Palette) :
    (set.setSelection channel selected palette).1.colors = set.colors ∧
      ∀ other, (set.setSelection channel selected palette).1.contains other = set.contains other →
        (set.setSelection channel selected palette).1.color? other = set.color? other := by
  by_cases hselected : set.contains channel = selected
  · rw [setSelection_of_contains_eq hselected]
    exact ⟨rfl, fun _ _ => rfl⟩
  · have hother {other : String} (h : (set.setSelection channel selected palette).1.contains other
        = set.contains other) : other ≠ channel := by
      rintro rfl
      exact hselected (h.symm.trans (set.contains_setSelection other selected palette))
    cases selected with
    | false =>
      refine ⟨?_, fun other h => ?_⟩
      · show (set.deselect channel).colors = set.colors
        rw [deselect]
        split <;> rfl
      · show (set.deselect channel).color? other = set.color? other
        rw [deselect]
        split
        · rw [color?, color?, ByName.find?_erase_of_ne _ (hother h)]
        · rfl
    | true =>
      have hselect : set.setSelection channel true palette
          = ({ set with
                plotted := set.plotted.insert channel
                  ⟨((set.colors.find? channel).map (·, palette) |>.getD palette.draw).1,
                    Ring.new set.capacity set.capacity_pos⟩ },
              ((set.colors.find? channel).map (·, palette) |>.getD palette.draw).2) := by
        show set.select channel palette = _
        rw [select, if_neg hselected]
        cases set.colors.find? channel <;> rfl
      refine ⟨by rw [hselect], fun other h => ?_⟩
      have hne := hother h
      rw [hselect, color?, color?, ByName.find?_insert_of_ne _ hne]

end Channels

/-! ### A tab in the state asked for -/

namespace Tab

variable {rule : SlotRule} {request : PlotRequest} {tab : Tab}

/-- **The tab is as the request wants it to be**, in all that the request says. -/
structure Meets (rule : SlotRule) (request : PlotRequest) (tab : Tab) : Prop where
  /-- It has the width that is reported, and the number of points that follows from it. -/
  width {width : UInt32} : request.width = some width →
    tab.width = width.toNat ∧ tab.slots = rule.ofWidth width.toNat
  /-- It has the height that is reported. -/
  height {height : UInt32} : request.height = some height → tab.height = height.toNat
  /-- The samples are dropped if they are to be. -/
  clear : request.clear = some true → tab.channels.IsClear
  /-- The channel wears the color of the request, if the text is a color. -/
  color {channel text : String} {color : Color} : request.channel = some channel →
    request.color = some text → Color.parse text = .ok color →
      tab.channels.Wears channel (some color)
  /-- The channel is selected or not, as it shall be. -/
  state {channel : String} {selected : Bool} : request.channel = some channel →
    request.state = some selected → tab.channels.contains channel = selected
  /-- Its picture is to be taken. -/
  dirty : tab.dirty = true

/-- What is reported depends on the request only. -/
theorem snd_snd_fulfil (tab other : Tab) (rule : SlotRule) (request : PlotRequest)
    (palette another : Palette) :
    (tab.fulfil rule request palette).2.2 = (other.fulfil rule request another).2.2 := by
  have hcolor (one two : Tab) (channel : String) :
      (one.applyColor request.name channel request.color).2
        = (two.applyColor request.name channel request.color).2 := by
    cases request.color with
    | none => rfl
    | some text =>
      simp only [applyColor]
      split <;> rfl
  simp only [fulfil, applyChannel]
  cases request.channel with
  | none => dsimp only; split <;> rfl
  | some channel => exact hcolor _ _ channel

namespace Meets

/-- The size is there already. -/
theorem applySize_eq (h : tab.Meets rule request) : tab.applySize rule request = tab := by
  rw [applySize]
  rcases hwidth : request.width with - | width <;> rcases hheight : request.height with - | height
  · rfl
  · dsimp only
    rw [← h.height hheight]
  · obtain ⟨hwide, hslots⟩ := h.width hwidth
    dsimp only
    rw [← hslots, ← hwide]
  · obtain ⟨hwide, hslots⟩ := h.width hwidth
    dsimp only
    rw [← hslots, ← hwide, ← h.height hheight]

/-- The samples are dropped already. -/
theorem applyClear_eq (h : tab.Meets rule request) : tab.applyClear request = tab := by
  rw [applyClear]
  split
  · rename_i hclear
    rw [(h.clear hclear).clear_eq]
  · rfl

/-- The channel is already in the color of the request, and selected or not. -/
theorem applyChannel_eq (h : tab.Meets rule request) (palette : Palette) :
    ∃ lines, tab.applyChannel request palette = (tab, palette, lines) := by
  rw [applyChannel]
  rcases hchannel : request.channel with - | channel
  · dsimp only
    split <;> exact ⟨_, rfl⟩
  · have hcolor : (tab.applyColor request.name channel request.color).1 = tab := by
      rcases htext : request.color with - | text
      · rfl
      · rw [applyColor]
        rcases hparse : Color.parse text with error | color
        · rfl
        · dsimp only
          rw [(h.color hchannel htext hparse).recolor_eq]
    have hstate : tab.applyState channel request.state palette = (tab, palette) := by
      rcases hselected : request.state with - | selected
      · rfl
      · rw [applyState]
        dsimp only
        rw [Channels.setSelection_of_contains_eq (h.state hchannel hselected)]
    refine ⟨(tab.applyColor request.name channel request.color).2, ?_⟩
    dsimp only
    rw [hcolor, hstate]

/-- **A request that is fulfilled changes nothing**, and draws no color. What it reports, it
reports again, as it does on every tab. -/
theorem fulfil_eq (h : tab.Meets rule request) (palette : Palette) (other : Tab)
    (another : Palette) :
    tab.fulfil rule request palette
      = (tab, palette, (other.fulfil rule request another).2.2) := by
  rw [← tab.snd_snd_fulfil other rule request palette another]
  obtain ⟨lines, hlines⟩ := h.applyChannel_eq palette
  rw [fulfil, h.applySize_eq, h.applyClear_eq, hlines, ← h.dirty]

end Meets

/-- What colors and selections keep, is kept by all that a request says of a channel. -/
theorem keeps_applyChannel {keeps : Channels Float → Prop}
    (hrecolor : ∀ set channel color, keeps set → keeps (set.recolor channel color))
    (hselection : ∀ set channel selected palette, keeps set →
      keeps (set.setSelection channel selected palette).1)
    (h : keeps tab.channels) (request : PlotRequest) (palette : Palette) :
    keeps (tab.applyChannel request palette).1.channels := by
  rw [applyChannel]
  cases request.channel with
  | none =>
    dsimp only
    split <;> exact h
  | some channel =>
    have hcolor : keeps (tab.applyColor request.name channel request.color).1.channels := by
      cases request.color with
      | none => exact h
      | some text =>
        rw [applyColor]
        rcases Color.parse text with error | color
        · exact h
        · exact hrecolor tab.channels channel color h
    dsimp only
    cases request.state with
    | none => exact hcolor
    | some selected => exact hselection _ channel selected palette hcolor

/-- A channel is first given its color and then selected or deselected. -/
theorem channels_applyChannel (tab : Tab) (palette : Palette) {channel : String}
    (h : request.channel = some channel) :
    (tab.applyChannel request palette).1.channels
      = ((tab.applyColor request.name channel request.color).1.applyState channel request.state
          palette).1.channels := by
  rw [applyChannel, h]

/-- **A request leads to the state that it asks for**, from every tab. -/
theorem meets_fulfil (tab : Tab) (rule : SlotRule) (request : PlotRequest) (palette : Palette) :
    (tab.fulfil rule request palette).1.Meets rule request := by
  have hsize : (tab.fulfil rule request palette).1.SameSize (tab.applySize rule request) := by
    obtain ⟨hwidth, hheight, hslots⟩ := ((tab.applySize rule request).applyClear
      request).sameSize_applyChannel request palette
    have hclear : ((tab.applySize rule request).applyClear request).SameSize
        (tab.applySize rule request) := by
      rw [applyClear]
      split <;> exact ⟨rfl, rfl, rfl⟩
    exact ⟨hwidth.trans hclear.1, hheight.trans hclear.2, hslots.trans hclear.3⟩
  refine ⟨fun {width} h => ?_, fun {height} h => ?_, fun h => ?_, fun {channel text color} h => ?_,
    fun {channel selected} h => ?_, rfl⟩
  · rw [hsize.width_eq, hsize.slots_eq, applySize, h]
    cases request.height <;> exact ⟨rfl, rfl⟩
  · rw [hsize.height_eq, applySize, h]
  · refine keeps_applyChannel (fun set channel color hset => hset.recolor channel color)
      (fun set channel selected palette hset => hset.setSelection channel selected palette) ?_
      request palette
    rw [applyClear, if_pos h]
    exact Channels.isClear_clear _
  · intro htext hparse
    show ((((tab.applySize rule request).applyClear request).applyChannel request
      palette).1.channels).Wears channel (some color)
    rw [channels_applyChannel _ _ h, htext, applyColor, hparse]
    cases request.state with
    | none => exact Channels.wears_recolor _ channel color
    | some selected =>
      exact (Channels.wears_recolor _ channel color).setSelection channel selected _
  · intro hselected
    show ((((tab.applySize rule request).applyClear request).applyChannel request
      palette).1.channels).contains channel = selected
    rw [channels_applyChannel _ _ h, hselected]
    exact Channels.contains_setSelection _ channel selected palette

/-! ### Requests without a color -/

/-- A text that is no color is reported, and otherwise it is as if there were none. -/
theorem fulfil_of_error {text : String} {error : InvalidColor} (htext : request.color = some text)
    (hparse : Color.parse text = .error error) (tab : Tab) (rule : SlotRule)
    (palette : Palette) :
    (tab.fulfil rule request palette).1
        = (tab.fulfil rule { request with color := none } palette).1 ∧
      (tab.fulfil rule request palette).2.1
        = (tab.fulfil rule { request with color := none } palette).2.1 := by
  have hchannel (tab : Tab) :
      (tab.applyChannel request palette).1
          = (tab.applyChannel { request with color := none } palette).1 ∧
        (tab.applyChannel request palette).2.1
          = (tab.applyChannel { request with color := none } palette).2.1 := by
    simp only [applyChannel]
    cases request.channel with
    | none =>
      dsimp only
      split <;> split <;> exact ⟨rfl, rfl⟩
    | some channel =>
      dsimp only
      rw [htext, applyColor, hparse]
      exact ⟨rfl, rfl⟩
  obtain ⟨htab, hpalette⟩ := hchannel ((tab.applySize rule request).applyClear request)
  exact ⟨congrArg (fun tab : Tab => { tab with dirty := true }) htab, hpalette⟩

/-- Dropping samples leaves selections and colors. -/
theorem colors_applyClear (tab : Tab) (request : PlotRequest) :
    (tab.applyClear request).channels.colors = tab.channels.colors ∧
      ∀ channel, (tab.applyClear request).channels.contains channel
          = tab.channels.contains channel ∧
        (tab.applyClear request).channels.color? channel = tab.channels.color? channel := by
  rw [applyClear]
  split
  · exact ⟨rfl, fun channel => (tab.channels.colors_clear channel).2⟩
  · exact ⟨rfl, fun _ => ⟨rfl, rfl⟩⟩

/-- **A request that gives no color** leaves the colors that are kept, and those of the channels
that stay selected or stay not. -/
theorem colors_fulfil (h : request.channel = none ∨ request.color = none) (tab : Tab)
    (rule : SlotRule) (palette : Palette) :
    (tab.fulfil rule request palette).1.channels.colors = tab.channels.colors ∧
      ∀ channel, (tab.fulfil rule request palette).1.channels.contains channel
          = tab.channels.contains channel →
        (tab.fulfil rule request palette).1.channels.color? channel
          = tab.channels.color? channel := by
  -- without a color only a selection is left of what is said of a channel
  have hchannel (tab : Tab) :
      (tab.applyChannel request palette).1.channels.colors = tab.channels.colors ∧
        ∀ channel, (tab.applyChannel request palette).1.channels.contains channel
            = tab.channels.contains channel →
          (tab.applyChannel request palette).1.channels.color? channel
            = tab.channels.color? channel := by
    rcases hnamed : request.channel with - | named
    · rw [applyChannel, hnamed]
      dsimp only
      split <;> exact ⟨rfl, fun _ _ => rfl⟩
    · rw [channels_applyChannel tab palette hnamed,
        h.resolve_left (hnamed ▸ Option.some_ne_none named)]
      cases request.state with
      | none => exact ⟨rfl, fun _ _ => rfl⟩
      | some selected => exact tab.channels.colors_setSelection named selected palette
  obtain ⟨hkept, hcolor⟩ := hchannel ((tab.applySize rule request).applyClear request)
  obtain ⟨hkept', hcolor'⟩ := (tab.applySize rule request).colors_applyClear request
  simp only [channels_applySize] at hkept' hcolor'
  refine ⟨hkept.trans hkept', fun channel hsame => ?_⟩
  exact (hcolor channel (hsame.trans (hcolor' channel).1.symm)).trans (hcolor' channel).2

/-- Without a channel nothing is selected, and nothing deselected. -/
theorem contains_fulfil (h : request.channel = none) (tab : Tab) (rule : SlotRule)
    (palette : Palette) (channel : String) :
    (tab.fulfil rule request palette).1.channels.contains channel
      = tab.channels.contains channel := by
  rw [Channels.contains_eq_isSome_samples?, Channels.contains_eq_isSome_samples?,
    samples?_fulfil, h, if_neg (Option.some_ne_none channel).symm]
  split
  · exact Option.isSome_map
  · rfl

/-- **A channel that is to be plotted in a color** is plotted in it afterwards. It has the ring
it had, if it had one, without the samples if these are to be dropped. -/
theorem plotted_fulfil {channel text : String} {color : Color}
    (hchannel : request.channel = some channel) (htext : request.color = some text)
    (hparse : Color.parse text = .ok color) (hstate : request.state = some true) (tab : Tab)
    (rule : SlotRule) (palette : Palette) :
    ∃ found, (tab.fulfil rule request palette).1.channels.plotted.find? channel = some found ∧
      found.color = color ∧ ∀ ring, tab.channels.samples? channel = some ring →
        found.samples = if request.clear = some true then ring.clear else ring := by
  have hmeets := tab.meets_fulfil rule request palette
  obtain ⟨found, hfound⟩ := Option.isSome_iff_exists.1 (hmeets.state hchannel hstate)
  refine ⟨found, hfound, (hmeets.color hchannel htext hparse).drawn hfound rfl,
    fun ring hring => ?_⟩
  have hsamples : some found.samples = _ :=
    (congrArg (Option.map Channel.samples) hfound).symm.trans
      (tab.samples?_fulfil request palette rule channel)
  rw [hchannel, if_pos rfl, hstate, hring] at hsamples
  have := Option.some.inj hsamples
  split at this <;> rename_i hclear
  · rw [this, if_pos hclear]
    rfl
  · rw [this, if_neg hclear]
    rfl

end Tab

/-! ### A registry -/

namespace Registry

variable {config : Config} {palette : Palette} {registry : Registry}

/-- The color of a channel on a tab, if there is the tab and the channel has one. -/
def color? (registry : Registry) (name channel : String) : Option Color :=
  (registry.tabs.find? name).bind fun tab => tab.channels.color? channel

/-- The color that is kept for a channel on a tab, if there is the tab and one is kept. -/
def keptColor? (registry : Registry) (name channel : String) : Option Color :=
  (registry.tabs.find? name).bind fun tab => tab.channels.colors.find? channel

/-- Whether a channel of a tab is selected; it is not if there is no such tab. -/
def isSelected (registry : Registry) (name channel : String) : Bool :=
  (registry.tabs.find? name).any fun tab => tab.channels.contains channel

/-- What is selected and colored on a tab of the registry is the same on a tab that is made for
the name, as nothing is on a new one. -/
theorem MakesTabsOf.colors_tabOrFresh (h : registry.MakesTabsOf config) (name channel : String) :
    registry.color? name channel = (registry.tabOrFresh name).channels.color? channel ∧
      registry.keptColor? name channel
        = (registry.tabOrFresh name).channels.colors.find? channel ∧
      registry.isSelected name channel = (registry.tabOrFresh name).channels.contains channel ∧
      registry.ring? name channel = (registry.tabOrFresh name).channels.samples? channel := by
  rw [color?, keptColor?, isSelected, ring?]
  rcases hfind : registry.tabs.find? name with - | tab
  · have hblank := h.isBlank_freshTab
    rw [tabOrFresh_of_none hfind, Channels.color?, Channels.contains, Channels.samples?,
      hblank.plotted_eq, hblank.colors_eq]
    exact ⟨rfl, rfl, rfl, rfl⟩
  · rw [tabOrFresh_of_some hfind]
    exact ⟨rfl, rfl, rfl, rfl⟩

theorem tabOrFresh_fulfil_self (registry : Registry) (request : PlotRequest) :
    (registry.fulfil request).1.tabOrFresh request.name
      = ((registry.tabOrFresh request.name).fulfil registry.slotRule request
          registry.palette).1 :=
  tabOrFresh_of_some (ByName.find?_insert_self ..)

/-- Tabs of other names are left alone. -/
theorem find?_fulfil_of_ne (registry : Registry) {request : PlotRequest} {name : String}
    (h : name ≠ request.name) :
    (registry.fulfil request).1.tabs.find? name = registry.tabs.find? name :=
  ByName.find?_insert_of_ne _ h _

/-- To say twice whether a tab shall be on the screen is to say it once. -/
theorem shownAfter_shownAfter (shown : Option String) (name : String) (wish : Option Bool) :
    shownAfter (shownAfter shown name wish) name wish = shownAfter shown name wish := by
  rcases wish with - | (_ | _)
  · rfl
  · simp only [shownAfter]
    split <;> rfl
  · rfl

/-- **To be asked twice is to be asked once**, whatever color would come next. -/
theorem fulfil_fulfil (registry : Registry) (request : PlotRequest) (palette : Palette) :
    ({ (registry.fulfil request).1 with palette } : Registry).fulfil request
      = ({ (registry.fulfil request).1 with palette }, (registry.fulfil request).2) := by
  have hmeets := (registry.tabOrFresh request.name).meets_fulfil registry.slotRule request
    registry.palette
  have hself : ({ (registry.fulfil request).1 with palette } : Registry).tabOrFresh request.name
      = ((registry.tabOrFresh request.name).fulfil registry.slotRule request
          registry.palette).1 :=
    registry.tabOrFresh_fulfil_self request
  rw [fulfil, hself]
  dsimp only
  rw [show (registry.fulfil request).1.slotRule = registry.slotRule from rfl,
    hmeets.fulfil_eq palette (registry.tabOrFresh request.name) registry.palette]
  simp only [fulfil, shownAfter_shownAfter, ByName.insert_insert]

/-- **A request that gives no color** leaves the colors that are kept on any tab, and those of
the channels that stay selected or stay not. -/
theorem MakesTabsOf.colors_fulfil (h : registry.MakesTabsOf config) {request : PlotRequest}
    (hgives : request.channel = none ∨ request.color = none) (name channel : String) :
    (registry.fulfil request).1.keptColor? name channel = registry.keptColor? name channel ∧
      ((registry.fulfil request).1.isSelected name channel = registry.isSelected name channel →
        (registry.fulfil request).1.color? name channel = registry.color? name channel) := by
  by_cases hname : name = request.name
  · subst hname
    obtain ⟨hcolor, hkept, hselected, -⟩ := h.colors_tabOrFresh request.name channel
    obtain ⟨hcolor', hkept', hselected', -⟩ :=
      (h.serve (.fulfil request)).colors_tabOrFresh request.name channel
    obtain ⟨hcolors, hstays⟩ := (registry.tabOrFresh request.name).colors_fulfil hgives
      registry.slotRule registry.palette
    simp only [Registry.serve, tabOrFresh_fulfil_self] at hcolor' hkept' hselected'
    refine ⟨by rw [hkept, hkept', hcolors], fun hsame => ?_⟩
    rw [hcolor, hcolor']
    exact hstays channel (by rw [← hselected, ← hselected', hsame])
  · rw [keptColor?, color?, registry.find?_fulfil_of_ne hname]
    exact ⟨rfl, fun _ => rfl⟩

/-- Without a channel nothing is selected on any tab, and nothing deselected. -/
theorem MakesTabsOf.isSelected_fulfil (h : registry.MakesTabsOf config) {request : PlotRequest}
    (hnone : request.channel = none) (name channel : String) :
    (registry.fulfil request).1.isSelected name channel = registry.isSelected name channel := by
  by_cases hname : name = request.name
  · subst hname
    obtain ⟨-, -, hselected, -⟩ := h.colors_tabOrFresh request.name channel
    obtain ⟨-, -, hselected', -⟩ :=
      (h.serve (.fulfil request)).colors_tabOrFresh request.name channel
    simp only [Registry.serve, tabOrFresh_fulfil_self] at hselected'
    rw [hselected, hselected']
    exact Tab.contains_fulfil hnone _ _ _ channel
  · rw [isSelected, registry.find?_fulfil_of_ne hname]
    rfl

/-- A text that is no color makes no difference to the registry. -/
theorem fulfil_of_error {request : PlotRequest} {text : String} {error : InvalidColor}
    (htext : request.color = some text) (hparse : Color.parse text = .error error)
    (registry : Registry) :
    (registry.fulfil request).1 = (registry.fulfil { request with color := none }).1 := by
  obtain ⟨htab, hpalette⟩ := Tab.fulfil_of_error htext hparse (registry.tabOrFresh request.name)
    registry.slotRule registry.palette
  simp only [fulfil, htab, hpalette]

/-- **What a request for a tab comes to**, after any requests to a registry as it is to begin
with:

* To be asked twice is to be asked once, with the same lines to be told. The second time the
  palette is left as it is, whatever color would come next in it.
* No other tab changes, and another tab comes on the screen, or none, only if the request says
  whether its own shall be there.
* A channel that is given a color has this color, selected or not. If it shall be selected, it is
  plotted in the color, and has the ring it had, without the samples if these are to be dropped.
* A text that is no color changes nothing that the request does without it. No kept color
  changes, and no color of a channel that stays selected or stays not.
* A request without a channel changes no selection and no color. -/
theorem IsInitial.fulfil_after (h : IsInitial config palette registry) (requests : List Request)
    (request : PlotRequest) :
    let now := registry.after requests
    let done := (now.fulfil request).1
    (done.fulfil request = now.fulfil request ∧
      ∀ other : Palette, ({ done with palette := other } : Registry).fulfil request
        = ({ done with palette := other }, (now.fulfil request).2)) ∧
    ((∀ name, name ≠ request.name → done.tabs.find? name = now.tabs.find? name) ∧
      (request.shown = none → done.shown = now.shown)) ∧
    (∀ channel text color, request.channel = some channel → request.color = some text →
      Color.parse text = .ok color →
        done.color? request.name channel = some color ∧
          done.keptColor? request.name channel = some color ∧
          (request.state = some true → ∃ tab found, done.tabs.find? request.name = some tab ∧
            tab.channels.plotted.find? channel = some found ∧ found.color = color ∧
            ∀ ring, now.ring? request.name channel = some ring →
              found.samples = if request.clear = some true then ring.clear else ring)) ∧
    (∀ text error, request.color = some text → Color.parse text = .error error →
      done = (now.fulfil { request with color := none }).1 ∧
        ∀ name channel, done.keptColor? name channel = now.keptColor? name channel ∧
          (done.isSelected name channel = now.isSelected name channel →
            done.color? name channel = now.color? name channel)) ∧
    (request.channel = none → ∀ name channel,
      done.isSelected name channel = now.isSelected name channel ∧
        done.color? name channel = now.color? name channel) := by
  intro now done
  have hmakes : now.MakesTabsOf config :=
    keeps_after (MakesTabsOf config) (fun _ request hmakes => hmakes.serve request)
      h.makesTabsOf requests
  refine ⟨⟨now.fulfil_fulfil request done.palette, now.fulfil_fulfil request⟩,
    ⟨fun name hname => now.find?_fulfil_of_ne hname, fun hshown => ?_⟩,
    fun channel text color hchannel htext hparse => ?_, fun text error htext hparse => ?_,
    fun hnone name channel => ?_⟩
  · show shownAfter now.shown request.name request.shown = now.shown
    rw [hshown]
    rfl
  · have hmeets := (now.tabOrFresh request.name).meets_fulfil now.slotRule request now.palette
    have hwears := hmeets.color hchannel htext hparse
    have hfind : done.tabs.find? request.name
        = some ((now.tabOrFresh request.name).fulfil now.slotRule request now.palette).1 :=
      ByName.find?_insert_self ..
    refine ⟨by rw [color?, hfind, Option.bind_some, hwears.color?_eq],
      by rw [keptColor?, hfind, Option.bind_some, hwears.kept], fun hstate => ?_⟩
    obtain ⟨found, hfound, hcolor, hring⟩ := Tab.plotted_fulfil hchannel htext hparse hstate
      (now.tabOrFresh request.name) now.slotRule now.palette
    refine ⟨_, found, hfind, hfound, hcolor, fun ring hnow => hring ring ?_⟩
    rw [← hnow, (hmakes.colors_tabOrFresh request.name channel).2.2.2]
  · have hdone : done = (now.fulfil { request with color := none }).1 :=
      fulfil_of_error htext hparse now
    refine ⟨hdone, fun name channel => ?_⟩
    rw [hdone]
    exact hmakes.colors_fulfil (Or.inr rfl) name channel
  · have hselected := hmakes.isSelected_fulfil hnone name channel
    exact ⟨hselected, (hmakes.colors_fulfil (Or.inl hnone) name channel).2 hselected⟩

/-- A channel is colored while it is selected in a drawn color, and its samples are dropped. -/
def recoloring : PlotRequest :=
  { name := "power", channel := some "volts", state := some true, color := some "#ff0000",
    clear := some true, width := some 300 }

theorem IsInitial.fulfil_after_recoloring :
    ∃ registry, ofConfig? onePlot ⟨0⟩ = .ok registry ∧
      let now := registry.after [.record "power" "volts" [⟨10.0, 1.0⟩, ⟨20.0, 4.0⟩]]
      let done := (now.fulfil recoloring).1
      done.fulfil recoloring = now.fulfil recoloring ∧
        done.color? "power" "volts"
          = some ⟨Color.component 255, Color.component 0, Color.component 0, 1.0⟩ := by
  have hparse : Color.parse "#ff0000"
      = .ok ⟨Color.component 255, Color.component 0, Color.component 0, 1.0⟩ := rfl
  obtain ⟨registry, hregistry⟩ : ∃ registry, ofConfig? onePlot ⟨0⟩ = .ok registry := ⟨_, rfl⟩
  obtain ⟨⟨htwice, -⟩, -, hcolor, -⟩ := IsInitial.fulfil_after (Or.inr hregistry)
    [.record "power" "volts" [⟨10.0, 1.0⟩, ⟨20.0, 4.0⟩]] recoloring
  exact ⟨registry, hregistry, htwice, (hcolor "volts" "#ff0000" _ rfl rfl hparse).1⟩

end Registry

end StripChart
