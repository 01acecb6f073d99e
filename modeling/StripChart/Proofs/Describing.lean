import StripChart.Proofs.Fulfilment

/-!
# What a config says of its tabs

A config lists what is to be plotted from the start, entry by entry. A tab may have several
entries: each of them adds channels, and each may set a capacity for the tab as a whole, also
for the channels that entries before it have selected. The registry is made by going through
the entries in order.

What comes of it can be said without going through anything (`Registry.exists_ofConfig?_describes`):
a tab has the channels of all its entries, and the capacity of the last that sets one. The fact
that carries this is about one entry more (`Registry.IsSetBy.applyTabSettings`), and it speaks of
tabs that are there and of tabs that would be made alike, as a tab without entries is set by no
entries at all. That nothing has been recorded yet is nothing that has to be followed through the
entries: it holds of sets of channels that are new, and selecting and resizing keep it
(`Registry.IsInitial.isUntouched`). The same is true of windows.
-/

namespace StripChart

/-! ### Several channels are selected -/

namespace Channels

variable {set : Channels Float}

/-- Afterwards the channel is selected, and otherwise those that were. -/
theorem contains_select (set : Channels Float) (channel other : String) (palette : Palette) :
    (set.select channel palette).1.contains other = true
      ↔ other = channel ∨ set.contains other = true := by
  rw [contains_eq_isSome_samples?, samples?_select]
  by_cases hother : other = channel
  · simp [hother]
  · rw [if_neg hother, contains_eq_isSome_samples?, or_iff_right hother]

theorem capacity_selectAll (set : Channels Float) (channels : List String) (palette : Palette) :
    (Registry.selectAll set channels palette).1.capacity = set.capacity := by
  rw [Registry.selectAll]
  induction channels generalizing set palette with
  | nil => rfl
  | cons channel rest ih => exact (ih _ _).trans (set.capacity_select channel palette)

/-- **Afterwards all the channels are selected**, and otherwise those that were. -/
theorem contains_selectAll (set : Channels Float) (channels : List String) (other : String)
    (palette : Palette) :
    (Registry.selectAll set channels palette).1.contains other = true
      ↔ other ∈ channels ∨ set.contains other = true := by
  rw [Registry.selectAll]
  induction channels generalizing set palette with
  | nil => simp
  | cons channel rest ih =>
    rw [List.foldl_cons, ih, contains_select, List.mem_cons, or_left_comm, or_assoc]

/-- Another capacity leaves the selection. -/
theorem contains_resize (set : Channels Float) (capacity : Nat) (hpos : 0 < capacity)
    (other : String) : (set.resize capacity hpos).contains other = set.contains other := by
  rw [contains_eq_isSome_samples?, contains_eq_isSome_samples?, samples?_resize, Option.isSome_map]

end Channels

/-! ### Tabs that are set by entries -/

/-- **A tab is set by entries**: it has the capacity of the last that sets one, or else the usual
one, and the channels of all of them. -/
structure Tab.IsSetBy (usual : Nat) (entries : List TabSettings) (tab : Tab) : Prop where
  /-- How many samples of each channel are remembered. -/
  capacity_eq : tab.channels.capacity
    = (entries.filterMap TabSettings.capacity).getLast?.getD usual
  /-- Which channels are selected. -/
  contains_iff (channel : String) : tab.channels.contains channel = true
    ↔ ∃ entry ∈ entries, channel ∈ entry.channels

/-- One entry more sets its capacity, if it has one, and adds its channels. -/
theorem Tab.IsSetBy.concat {usual : Nat} {entries : List TabSettings} {tab : Tab}
    (h : tab.IsSetBy usual entries) {entry : TabSettings} {resized : Channels Float}
    (hresized : entry.capacity = none ∧ resized = tab.channels ∨
      ∃ capacity hpos, entry.capacity = some capacity ∧
        resized = tab.channels.resize capacity hpos) (palette : Palette) :
    { tab with channels := (Registry.selectAll resized entry.channels palette).1 }.IsSetBy usual
      (entries ++ [entry]) where
  capacity_eq := by
    dsimp only
    rw [Channels.capacity_selectAll, List.filterMap_append, List.getLast?_append]
    rcases hresized with ⟨hnone, rfl⟩ | ⟨capacity, hpos, hsome, rfl⟩
    · simpa [hnone] using h.capacity_eq
    · simp [hsome, Channels.resize]
  contains_iff channel := by
    have hcontains : resized.contains channel = tab.channels.contains channel := by
      rcases hresized with ⟨-, rfl⟩ | ⟨capacity, hpos, -, rfl⟩
      · rfl
      · exact tab.channels.contains_resize capacity hpos channel
    simp only [Channels.contains_selectAll, hcontains, h.contains_iff, List.mem_append,
      List.mem_singleton, or_and_right, exists_or, exists_eq_left]
    exact or_comm

namespace Registry

variable {config : Config} {palette : Palette} {registry : Registry} {name channel : String}

/-- **A registry is set by entries**: its tabs are those that have entries, each is set by its
own, and the tab on the screen is the last that is to be. -/
structure IsSetBy (config : Config) (entries : List TabSettings) (registry : Registry) : Prop where
  /-- Tabs are made as the config says. -/
  makesTabsOf : registry.MakesTabsOf config
  /-- There are the tabs with entries, and no others. -/
  contains_iff (name : String) : registry.tabs.contains name = true
    ↔ ∃ entry ∈ entries, entry.name = name
  /-- The tab of a name, made or not, is set by the entries of the name. -/
  tab (name : String) : (registry.tabOrFresh name).IsSetBy config.defaultCapacity
    (entries.filter (·.name == name))
  /-- The tab on the screen is that of the last entry that says so. -/
  shown_eq : registry.shown = (entries.filter (·.shown)).getLast?.map TabSettings.name

theorem isSetBy_new? (h : new? config palette = .ok registry) : registry.IsSetBy config [] := by
  obtain ⟨hmakes, htabs⟩ := makesTabsOf_new? h
  refine ⟨hmakes, fun name => ?_, fun name => ?_, ?_⟩
  · simp [htabs, ByName.contains]
  · have hblank := hmakes.isBlank_freshTab
    rw [tabOrFresh_of_none (by rw [htabs, ByName.find?_empty])]
    refine ⟨hblank.capacity_eq, fun channel => ?_⟩
    simp [Channels.contains, hblank.plotted_eq, ByName.contains]
  · rw [new?, Channels.new?] at h
    split at h
    · rw [← Except.ok.inj h]
      rfl
    · cases h

/-- **One entry more** is the last of its tab, and of all. -/
theorem IsSetBy.applyTabSettings {entries : List TabSettings}
    (h : registry.IsSetBy config entries) {entry : TabSettings} {after : Registry}
    (hafter : registry.applyTabSettings entry = .ok after) :
    after.IsSetBy config (entries ++ [entry]) := by
  obtain ⟨resized, hresized, hafter⟩ := exists_of_applyTabSettings hafter
  have htabs : after.tabs = _ := congrArg Registry.tabs hafter
  have hfresh : after.freshTab = registry.freshTab := by
    rw [hafter]
    rfl
  refine ⟨?_, fun name => ?_, fun name => ?_, ?_⟩
  · rw [hafter]
    exact ⟨h.makesTabsOf.1, h.makesTabsOf.2⟩
  · have hbefore := h.contains_iff name
    rw [ByName.contains] at hbefore ⊢
    rw [htabs, ByName.find?_insert]
    by_cases hname : name = entry.name
    · simp [hname]
    · simp [hname, hbefore, Ne.symm hname]
  · rw [tabOrFresh_of_insert htabs hfresh, List.filter_append]
    by_cases hname : name = entry.name
    · subst hname
      rw [if_pos rfl, show [entry].filter (·.name == entry.name) = [entry] by simp]
      exact (h.tab entry.name).concat hresized registry.palette
    · rw [if_neg hname, show [entry].filter (·.name == name) = [] by simp [Ne.symm hname],
        List.append_nil]
      exact h.tab name
  · rw [hafter, List.filter_append, List.getLast?_append]
    dsimp only
    cases hshown : entry.shown with
    | true => simp [hshown]
    | false => simpa [hshown] using h.shown_eq

/-- **Further entries** are put behind those that there were. -/
theorem IsSetBy.foldlM {done rest : List TabSettings} (h : registry.IsSetBy config done)
    {last : Registry} (hlast : rest.foldlM Registry.applyTabSettings registry = .ok last) :
    last.IsSetBy config (done ++ rest) := by
  induction rest generalizing done registry with
  | nil =>
    rw [List.append_nil, ← Except.ok.inj hlast]
    exact h
  | cons entry rest ih =>
    rw [List.foldlM_cons] at hlast
    obtain ⟨next, hnext, hrest⟩ := exists_of_bind_eq_ok hlast
    have hdone := ih (h.applyTabSettings hnext) hrest
    rwa [List.append_assoc, List.singleton_append] at hdone

/-- **The registry that a config describes is set by the entries of the config.** -/
theorem isSetBy_ofConfig? (h : ofConfig? config palette = .ok registry) :
    registry.IsSetBy config config.tabs := by
  obtain ⟨bare, hbare, hfold⟩ := exists_of_bind_eq_ok h
  exact (isSetBy_new? hbare).foldlM hfold

/-- What an entry selects is selected on its tab. -/
theorem IsSetBy.exists_find? {entries : List TabSettings} (h : registry.IsSetBy config entries)
    {entry : TabSettings} (hentry : entry ∈ entries) (hchannel : channel ∈ entry.channels) :
    ∃ tab, registry.tabs.find? entry.name = some tab ∧ tab.channels.contains channel = true := by
  obtain ⟨tab, hfind⟩ :=
    Option.isSome_iff_exists.1 ((h.contains_iff entry.name).2 ⟨entry, hentry, rfl⟩)
  have htab := h.tab entry.name
  rw [tabOrFresh_of_some hfind] at htab
  refine ⟨tab, hfind, (htab.contains_iff channel).2 ⟨entry, ?_, hchannel⟩⟩
  exact List.mem_filter.2 ⟨hentry, beq_self_eq_true _⟩

/-- To begin with there are no windows. -/
theorem IsInitial.window_eq (h : IsInitial config palette registry) {tab : Tab}
    (hfind : registry.tabs.find? name = some tab) : tab.channels.window = none := by
  have hcoherent : tab.channels.Coherent :=
    h.keeps_channels Channels.Coherent (fun capacity hpos => Channels.coherent_new capacity hpos)
      (fun set capacity hpos _ => set.coherent_resize capacity hpos)
      (fun _ channel palette hset => hset.select channel palette) hfind
  refine hcoherent.window_eq_none_iff.2 fun channel ring hring => ?_
  exact (h.isUntouched hfind channel ring hring).toList

/-- **A config that can be used describes a registry, and this is the one.**

* It has the tabs that are listed, and no others.
* A tab remembers as many samples of each channel as the last of its entries says that says so,
  and as many as usual if none does.
* Its selected channels are those of all its entries. Their rings are empty and have the capacity
  of the tab.
* It has no window, and no picture of it has been taken.
* The tab on the screen is that of the last entry that is to be shown, if there is one.

An array of any capacity is taken to be had (`Circle.new`). A config may ask for capacities at
which none can be, of two to the power of 59 and more: `Representable` in
`StripChart.Proofs.Capacities` tells them apart. -/
theorem exists_ofConfig?_describes (h : config.check = .ok ()) (palette : Palette) :
    ∃ registry, ofConfig? config palette = .ok registry ∧
      (∀ name, registry.tabs.contains name = true ↔ ∃ entry ∈ config.tabs, entry.name = name) ∧
      (∀ name tab, registry.tabs.find? name = some tab →
        let entries := config.tabs.filter (·.name == name)
        tab.channels.capacity
          = (entries.filterMap TabSettings.capacity).getLast?.getD config.defaultCapacity ∧
        (∀ channel, tab.channels.contains channel = true ↔
          ∃ entry ∈ entries, channel ∈ entry.channels) ∧
        (∀ channel ring, tab.channels.samples? channel = some ring →
          ring.toList = [] ∧ ring.capacity = tab.channels.capacity) ∧
        tab.channels.window = none ∧ tab.dirty = true) ∧
      registry.shown = (config.tabs.filter (·.shown)).getLast?.map TabSettings.name := by
  obtain ⟨registry, hregistry⟩ := exists_ofConfig?_eq_ok (Config.check_eq_ok_iff.1 h) palette
  have hinitial : IsInitial config palette registry := .inr hregistry
  have hset := isSetBy_ofConfig? hregistry
  refine ⟨registry, hregistry, hset.contains_iff, fun name tab hfind => ?_, hset.shown_eq⟩
  intro entries
  have htab := hset.tab name
  rw [tabOrFresh_of_some hfind] at htab
  refine ⟨htab.capacity_eq, htab.contains_iff, fun channel ring hring => ?_,
    hinitial.window_eq hfind, hinitial.allDirty name tab hfind⟩
  have hheld := hinitial.isUntouched hfind channel ring hring
  exact ⟨hheld.toList, hheld.capacity⟩

/-- A config with three entries for one tab, and one for another between them. -/
def repeatedTabs : Config where
  tabs := [⟨"power", ["volts", "amps"], some 8, true⟩, ⟨"heat", [], none, true⟩,
    ⟨"power", ["watts", "volts"], some 3, false⟩, ⟨"power", ["ohms"], none, false⟩]

theorem exists_ofConfig?_describes_repeatedTabs :
    ∃ registry, ofConfig? repeatedTabs ⟨0⟩ = .ok registry ∧ registry.shown = some "heat" ∧
      registry.tabs.contains "volts" = false ∧
      (∃ tab, registry.tabs.find? "heat" = some tab ∧ tab.channels.capacity = 512) ∧
      ∃ tab ring, registry.tabs.find? "power" = some tab ∧ tab.channels.capacity = 3 ∧
        (∀ channel, tab.channels.contains channel = true ↔
          channel ∈ ["volts", "amps", "watts", "ohms"]) ∧
        tab.channels.samples? "amps" = some ring ∧ ring.toList = [] ∧ ring.capacity = 3 := by
  obtain ⟨registry, hregistry, hnames, htabs, hshown⟩ :=
    exists_ofConfig?_describes (show repeatedTabs.check = .ok () from rfl) ⟨0⟩
  have hthere (name : String) (hname : ∃ entry ∈ repeatedTabs.tabs, entry.name = name) :
      ∃ tab, registry.tabs.find? name = some tab :=
    Option.isSome_iff_exists.1 ((hnames name).2 hname)
  obtain ⟨heat, hheat⟩ := hthere "heat" (by decide)
  obtain ⟨power, hpower⟩ := hthere "power" (by decide)
  obtain ⟨hheatCapacity, -⟩ := htabs "heat" heat hheat
  obtain ⟨hcapacity, hcontains, hrings, -⟩ := htabs "power" power hpower
  have hselected (channel : String) : power.channels.contains channel = true ↔
      channel ∈ ["volts", "amps", "watts", "ohms"] := by
    rw [hcontains]
    simp [repeatedTabs]
    tauto
  obtain ⟨ring, hring⟩ := Channels.exists_samples?_of_contains ((hselected "amps").2 (by decide))
  obtain ⟨hempty, hroom⟩ := hrings "amps" ring hring
  refine ⟨registry, hregistry, hshown, ?_, ⟨heat, hheat, hheatCapacity⟩, power, ring, hpower,
    hcapacity, hselected, hring, hempty, hroom.trans hcapacity⟩
  exact Bool.eq_false_iff.2 fun hvolts => absurd ((hnames "volts").1 hvolts) (by decide)

end Registry

end StripChart
