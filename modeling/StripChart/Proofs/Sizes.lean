import StripChart.Proofs.History
import StripChart.Proofs.Lines
import StripChart.Proofs.Pictures
import StripChart.Proofs.Screen

/-!
# How large tabs are, and what they begin with

The width of a tab is whatever the server says it is, and the lines on the tab have as many
points as it is wide. What keeps a server from asking for lines of any length is the greatest
number of points in the config. The number is found when a width is reported and kept from
then on, through all that is done to the tab and to others, so that it is the same as long as
nothing is reported, and the usual one again when the tab has gone and comes back.

This file says which number it is after any row of requests, from what has been reported of
the tab since it was last taken away (`Registry.lastReported`), and what of it is to be seen in
pictures. The fact that carries it is about tabs that are there and tabs that are not alike:
the tab of a name, or else the one that would be made, has the size reported
(`Registry.hasSize_serve`). For a tab that is made is the same as one that was there already
and blank (`Registry.serve_putTab_tabOrFresh`); and it is blank whatever happened before, as
no request changes what new tabs are made from (`Registry.MakesTabsOf.serve`).
-/

namespace StripChart

/-! ### Configs that can be used -/

/-- **A config that can be used**: what `Config.check` asks for. -/
structure Config.IsUsable (config : Config) : Prop where
  /-- A new tab remembers something. -/
  defaultCapacity_ne : config.defaultCapacity ≠ 0
  /-- So does a tab that zooming has made as small as it can be. -/
  minCapacity_ne : config.minCapacity ≠ 0
  /-- A step of zooming makes something greater. -/
  one_lt_capacityScale : 1.0 < config.capacityScale
  /-- A line may have a point. -/
  maxDrawSlots_ne : config.maxDrawSlots ≠ 0
  /-- It may have as many as it usually has. -/
  defaultDrawSlots_le : config.defaultDrawSlots ≤ config.maxDrawSlots
  /-- Time passes between two looks for changed tabs. -/
  renderPeriodMs_ne : config.renderPeriodMs ≠ 0
  /-- A command may wait. -/
  commandQueue_ne : config.commandQueue ≠ 0
  /-- A notice may wait. -/
  notificationQueue_ne : config.notificationQueue ≠ 0
  /-- No tab is to remember nothing. -/
  capacity_ne : ∀ tab ∈ config.tabs, tab.capacity ≠ some 0

namespace Config

theorem checkTabs_eq_ok_iff {tabs : List TabSettings} :
    checkTabs tabs = .ok () ↔ ∀ tab ∈ tabs, tab.capacity ≠ some 0 := by
  induction tabs with
  | nil => simp [checkTabs]
  | cons tab rest ih =>
    rw [checkTabs, List.forall_mem_cons, ← ih]
    split
    · rename_i hzero
      exact iff_of_false (fun h => by cases h) fun h => h.1 hzero
    · rename_i hne
      exact (and_iff_right hne).symm

/-- A chain of conditions comes to its end if the first does not hold and the rest does. -/
theorem ite_error_eq_ok_iff {ε : Type} {condition : Prop} [Decidable condition] {error : ε}
    {rest : Except ε Unit} :
    (if condition then .error error else rest) = .ok () ↔ ¬condition ∧ rest = .ok () := by
  split
  · rename_i hcondition
    exact iff_of_false (fun h => by cases h) fun h => h.1 hcondition
  · rename_i hcondition
    exact (and_iff_right hcondition).symm

/-- **The configs that can be used are those that pass the check.** -/
theorem check_eq_ok_iff {config : Config} : config.check = .ok () ↔ config.IsUsable := by
  simp only [check, ite_error_eq_ok_iff, checkTabs_eq_ok_iff, Decidable.not_not, Nat.not_lt]
  constructor
  · rintro ⟨h1, h2, h3, h4, h5, h6, h7, h8, h9⟩
    exact ⟨h1, h2, h3, h4, h5, h6, h7, h8, h9⟩
  · rintro ⟨h1, h2, h3, h4, h5, h6, h7, h8, h9⟩
    exact ⟨h1, h2, h3, h4, h5, h6, h7, h8, h9⟩

end Config

namespace Registry

variable {config : Config} {palette : Palette} {registry : Registry} {name : String}

/-- The settings of a tab are applied unless they ask for no capacity at all. -/
theorem exists_applyTabSettings_eq_ok (registry : Registry) {entry : TabSettings}
    (h : entry.capacity ≠ some 0) : ∃ after, registry.applyTabSettings entry = .ok after := by
  rw [applyTabSettings]
  rcases hcapacity : entry.capacity with - | (_ | capacity)
  · exact ⟨_, rfl⟩
  · exact absurd hcapacity h
  · exact ⟨_, rfl⟩

/-- **A config that can be used describes a registry.** -/
theorem exists_ofConfig?_eq_ok (h : config.IsUsable) (palette : Palette) :
    ∃ registry, ofConfig? config palette = .ok registry := by
  have hnew : ∃ bare, new? config palette = .ok bare := by
    rw [new?, Channels.new?, dif_pos (Nat.pos_of_ne_zero h.defaultCapacity_ne)]
    exact ⟨_, rfl⟩
  obtain ⟨bare, hbare⟩ := hnew
  have hcapacity := h.capacity_ne
  show ∃ registry, ((new? config palette).bind fun bare => config.tabs.foldlM applyTabSettings bare)
    = .ok registry
  rw [hbare]
  show ∃ registry, config.tabs.foldlM applyTabSettings bare = .ok registry
  generalize config.tabs = entries at hcapacity
  clear hbare
  induction entries generalizing bare with
  | nil => exact ⟨bare, rfl⟩
  | cons entry rest ih =>
    obtain ⟨after, hafter⟩ := bare.exists_applyTabSettings_eq_ok
      (hcapacity entry List.mem_cons_self)
    rw [List.foldlM_cons, hafter]
    exact ih after fun tab hmem => hcapacity tab (List.mem_cons_of_mem _ hmem)

end Registry

/-! ### Sizes -/

/-- **A tab has the size reported**: width and height are those reported, or zero, and the
number of points follows from the width. -/
structure Tab.HasSize (rule : SlotRule) (width height : Option UInt32) (tab : Tab) : Prop where
  /-- The width is kept as it was reported. -/
  width_eq : tab.width = (width.map UInt32.toNat).getD 0
  /-- So is the height. -/
  height_eq : tab.height = (height.map UInt32.toNat).getD 0
  /-- Only the number of points is limited. -/
  slots_eq : tab.slots = rule.ofWidth tab.width

/-- **Two tabs are of one size.** -/
structure Tab.SameSize (one other : Tab) : Prop where
  /-- They are equally wide. -/
  width_eq : one.width = other.width
  /-- They are equally high. -/
  height_eq : one.height = other.height
  /-- Their lines have equally many points. -/
  slots_eq : one.slots = other.slots

namespace Tab

variable {tab : Tab} {rule : SlotRule} {width height : Option UInt32}

theorem HasSize.of_sameSize (h : tab.HasSize rule width height) {other : Tab}
    (hsame : other.SameSize tab) : other.HasSize rule width height where
  width_eq := hsame.width_eq.trans h.width_eq
  height_eq := hsame.height_eq.trans h.height_eq
  slots_eq := by rw [hsame.slots_eq, h.slots_eq, hsame.width_eq]

/-- What a request says about a channel changes channels only. -/
theorem sameSize_applyChannel (tab : Tab) (request : PlotRequest) (palette : Palette) :
    (tab.applyChannel request palette).1.SameSize tab := by
  have hcolor (channel : String) (color : Option String) :
      ∃ channels, (tab.applyColor request.name channel color).1 = { tab with channels } := by
    cases color with
    | none => exact ⟨_, rfl⟩
    | some text =>
      simp only [applyColor]
      split <;> exact ⟨_, rfl⟩
  rw [applyChannel]
  split
  · rename_i channel _
    obtain ⟨channels, hchannels⟩ := hcolor channel request.color
    dsimp only
    rw [hchannels]
    cases request.state <;> exact ⟨rfl, rfl, rfl⟩
  · split <;> exact ⟨rfl, rfl, rfl⟩

/-- **A request reports what it says of the size**, and nothing else that it says matters. -/
theorem HasSize.fulfil (h : tab.HasSize rule width height) (request : PlotRequest)
    (palette : Palette) :
    (tab.fulfil rule request palette).1.HasSize rule (request.width.or width)
      (request.height.or height) := by
  have hsize : (tab.applySize rule request).HasSize rule (request.width.or width)
      (request.height.or height) := by
    obtain ⟨hwidth, hheight, hslots⟩ := h
    rw [applySize]
    rcases request.width with - | reported <;> rcases request.height with - | reported'
    · exact ⟨hwidth, hheight, hslots⟩
    · exact ⟨hwidth, rfl, hslots⟩
    · exact ⟨rfl, hheight, rfl⟩
    · exact ⟨rfl, rfl, rfl⟩
  have hclear : ((tab.applySize rule request).applyClear request).SameSize
      (tab.applySize rule request) := by
    rw [applyClear]
    split <;> exact ⟨rfl, rfl, rfl⟩
  have hchannel := ((tab.applySize rule request).applyClear request).sameSize_applyChannel request
    palette
  -- that the tab is marked has nothing to do with its size
  exact (hsize.of_sameSize hclear).of_sameSize ⟨hchannel.1, hchannel.2, hchannel.3⟩

/-- A tab that is made has no size yet. -/
theorem hasSize_new (channels : Channels Float) (rule : SlotRule) :
    (new channels rule.usual).HasSize rule none none :=
  ⟨rfl, rfl, rfl⟩

/-- Without a width there are as many points as usual. -/
theorem HasSize.slots_of_zero (h : tab.HasSize rule width height)
    (hwidth : width = none ∨ width = some 0) : tab.slots = rule.usual := by
  rw [h.slots_eq, h.width_eq]
  rcases hwidth with rfl | rfl <;> rfl

/-- With a width there are as many points, up to the greatest number. -/
theorem HasSize.slots_of_ne_zero {reported : UInt32} (h : tab.HasSize rule (some reported) height)
    (hne : reported ≠ 0) : tab.slots = min reported.toNat rule.greatest := by
  have hpos : 0 < reported.toNat :=
    Nat.pos_of_ne_zero fun hzero => hne (UInt32.toNat_inj.1 hzero)
  rw [h.slots_eq, h.width_eq]
  exact if_pos hpos

theorem HasSize.slots_le (h : tab.HasSize rule width height) (hrule : rule.usual ≤ rule.greatest) :
    tab.slots ≤ rule.greatest := by
  rw [h.slots_eq, SlotRule.ofWidth]
  split
  · exact Nat.min_le_right _ _
  · exact hrule

end Tab

namespace Registry

variable {config : Config} {palette : Palette} {registry : Registry} {name : String}

/-! ### What has been reported -/

/-- Whether a request takes the tab away. -/
def Request.removes (name : String) : Request → Bool
  | .remove tab => tab == name
  | _ => false

/-- What a request reports of one side of the tab, if it does. -/
def Request.reported? (side : PlotRequest → Option UInt32) (name : String) :
    Request → Option UInt32
  | .fulfil request => if request.name = name then side request else none
  | _ => none

/-- What was reported last of one side of the tab, since it was last taken away. -/
def lastReported (side : PlotRequest → Option UInt32) (name : String) (requests : List Request) :
    Option UInt32 :=
  ((requests.rtakeWhile fun request => !request.removes name).filterMap
    (Request.reported? side name)).getLast?

theorem lastReported_concat (side : PlotRequest → Option UInt32) (name : String)
    (requests : List Request) (request : Request) :
    lastReported side name (requests ++ [request])
      = if request.removes name then none
        else (request.reported? side name).or (lastReported side name requests) := by
  rw [lastReported]
  split
  · rename_i hremoves
    rw [List.rtakeWhile_concat_neg _ _ _ (by simp [hremoves])]
    rfl
  · rename_i hremoves
    rw [List.rtakeWhile_concat_pos _ _ _ (by simp [hremoves]), List.filterMap_append,
      List.getLast?_append]
    cases hreported : request.reported? side name <;> simp [hreported, lastReported]

/-! ### What tabs are made from -/

/-- **The registry makes tabs as the config says**: with the usual capacity and the usual number
of points, and with nothing on them. -/
structure MakesTabsOf (config : Config) (registry : Registry) : Prop where
  /-- How many points lines have. -/
  slotRule_eq : registry.slotRule = ⟨config.defaultDrawSlots, config.maxDrawSlots⟩
  /-- What the channels of a new tab are like. -/
  fresh_eq : ∃ hpos, registry.fresh = Channels.new config.defaultCapacity hpos

/-- No request changes what tabs are made from. -/
theorem made_serve (registry : Registry) (request : Request) :
    (registry.serve request).1.slotRule = registry.slotRule ∧
      (registry.serve request).1.fresh = registry.fresh := by
  cases request with
  | record tab channel batch =>
    rcases hfind : registry.tabs.find? tab with - | found
    · simp only [Registry.serve, record_of_none hfind, and_self]
    · simp only [Registry.serve, record_of_some hfind]
      exact ⟨rfl, rfl⟩
  | resize tab capacity =>
    simp only [Registry.serve, Registry.resize]
    split <;> exact ⟨rfl, rfl⟩
  | _ => exact ⟨rfl, rfl⟩

theorem MakesTabsOf.serve (h : registry.MakesTabsOf config) (request : Request) :
    (registry.serve request).1.MakesTabsOf config := by
  obtain ⟨hrule, hfresh⟩ := registry.made_serve request
  exact ⟨hrule.trans h.slotRule_eq, hfresh ▸ h.fresh_eq⟩

/-- A row of requests does not, either. -/
theorem made_after (registry : Registry) (requests : List Request) :
    (registry.after requests).slotRule = registry.slotRule ∧
      (registry.after requests).freshTab = registry.freshTab := by
  refine keeps_after (fun later => later.slotRule = registry.slotRule ∧
    later.freshTab = registry.freshTab) ?_ ⟨rfl, rfl⟩ requests
  rintro later request ⟨hrule, hfresh⟩
  obtain ⟨hrule', hfresh'⟩ := later.made_serve request
  exact ⟨hrule'.trans hrule, by rw [← hfresh, freshTab, freshTab, hrule', hfresh']⟩

/-- A registry without tabs makes them as the config says. -/
theorem makesTabsOf_new? (h : new? config palette = .ok registry) :
    registry.MakesTabsOf config ∧ registry.tabs = ByName.empty := by
  rw [new?, Channels.new?] at h
  split at h
  · rename_i hpos
    obtain rfl := Except.ok.inj h
    exact ⟨⟨rfl, hpos, rfl⟩, rfl⟩
  · cases h

theorem IsInitial.makesTabsOf (h : IsInitial config palette registry) :
    registry.MakesTabsOf config := by
  refine h.keeps (MakesTabsOf config) (fun bare hbare => (makesTabsOf_new? hbare).1) ?_
  · intro before after entry hbefore hafter
    obtain ⟨resized, -, rfl⟩ := exists_of_applyTabSettings hafter
    exact ⟨hbefore.1, hbefore.2⟩

/-! ### The tab of a name, made or not -/

theorem tabOrFresh_of_some {tab : Tab} (h : registry.tabs.find? name = some tab) :
    registry.tabOrFresh name = tab := by
  rw [tabOrFresh, h, Option.getD_some]

theorem tabOrFresh_of_none (h : registry.tabs.find? name = none) :
    registry.tabOrFresh name = registry.freshTab := by
  rw [tabOrFresh, h, Option.getD_none]

/-- Putting a tab in, whatever else is done, leaves the tabs of other names. -/
theorem tabOrFresh_of_insert {after : Registry} {other : String} {tab : Tab}
    (htabs : after.tabs = registry.tabs.insert other tab)
    (hfresh : after.freshTab = registry.freshTab) (name : String) :
    after.tabOrFresh name = if name = other then tab else registry.tabOrFresh name := by
  rw [tabOrFresh, htabs, ByName.find?_insert, hfresh]
  split <;> rfl

/-- The tab is put in anew, and has the size it had. -/
theorem hasSize_of_insert {rule : SlotRule} {width height : Option UInt32}
    (h : (registry.tabOrFresh name).HasSize rule width height) {after : Registry} {other : String}
    {tab : Tab} (htabs : after.tabs = registry.tabs.insert other tab)
    (hfresh : after.freshTab = registry.freshTab)
    (hsame : tab.SameSize (registry.tabOrFresh other)) :
    (after.tabOrFresh name).HasSize rule width height := by
  rw [tabOrFresh_of_insert htabs hfresh]
  split
  · rename_i heq
    exact h.of_sameSize (heq ▸ hsame)
  · exact h

/-- **What a request does to the size of a tab**, or to that of the tab that would be made:
taking the tab away resets it, a report replaces it, and everything else leaves it. -/
theorem hasSize_serve {width height : Option UInt32}
    (h : (registry.tabOrFresh name).HasSize registry.slotRule width height) (request : Request) :
    ((registry.serve request).1.tabOrFresh name).HasSize registry.slotRule
      (if request.removes name then none
        else (request.reported? PlotRequest.width name).or width)
      (if request.removes name then none
        else (request.reported? PlotRequest.height name).or height) := by
  cases request with
  | fulfil request =>
    have htab : (registry.fulfil request).1.tabOrFresh name
        = if name = request.name then
            ((registry.tabOrFresh request.name).fulfil registry.slotRule request registry.palette).1
          else registry.tabOrFresh name :=
      @tabOrFresh_of_insert registry (registry.fulfil request).1 request.name _ rfl rfl name
    show ((registry.fulfil request).1.tabOrFresh name).HasSize _ _ _
    rw [htab]
    by_cases hname : request.name = name
    · subst hname
      simp only [Request.reported?, Request.removes, if_true, Bool.false_eq_true, if_false]
      exact h.fulfil request registry.palette
    · simp only [Request.reported?, Request.removes, if_neg hname, if_neg (Ne.symm hname),
        Bool.false_eq_true, if_false, Option.none_or]
      exact h
  | record tab channel batch =>
    rcases hfind : registry.tabs.find? tab with - | found
    · simp only [Registry.serve, record_of_none hfind]
      exact h
    · simp only [Registry.serve, record_of_some hfind]
      refine hasSize_of_insert h rfl rfl ?_
      rw [tabOrFresh_of_some hfind]
      exact ⟨rfl, rfl, rfl⟩
  | resize tab capacity =>
    simp only [Registry.serve, Registry.resize]
    cases (registry.tabOrFresh tab).channels.resize? capacity with
    | ok channels => exact hasSize_of_insert h rfl rfl ⟨rfl, rfl, rfl⟩
    | error error => exact hasSize_of_insert h rfl rfl ⟨rfl, rfl, rfl⟩
  | zoom tab grow => exact hasSize_of_insert h rfl rfl ⟨rfl, rfl, rfl⟩
  | touch tab => exact hasSize_of_insert h rfl rfl ⟨rfl, rfl, rfl⟩
  | remove tab =>
    have htab : (registry.remove tab).1.tabOrFresh name
        = if name = tab then registry.freshTab else registry.tabOrFresh name := by
      rw [tabOrFresh]
      show ((registry.tabs.erase tab).find? name).getD registry.freshTab = _
      rw [ByName.find?_erase]
      split <;> rfl
    show ((registry.remove tab).1.tabOrFresh name).HasSize _ _ _
    rw [htab]
    by_cases hname : tab = name
    · subst hname
      simp only [Request.removes, beq_self_eq_true, if_true]
      exact Tab.hasSize_new _ _
    · simp only [Request.reported?, Request.removes, beq_eq_false_iff_ne.2 hname,
        if_neg (Ne.symm hname), Bool.false_eq_true, if_false, Option.none_or]
      exact h
  | takePictures =>
    have htab : registry.takePictures.1.tabOrFresh name
        = (((registry.tabs.find? name).map fun tab => { tab with dirty := false }).getD
            registry.freshTab) := by
      rw [tabOrFresh, ← ByName.find?_mapValues]
      rfl
    show (registry.takePictures.1.tabOrFresh name).HasSize _ _ _
    rw [htab]
    rw [tabOrFresh] at h
    rcases hfind : registry.tabs.find? name with - | tab
    · rw [hfind] at h
      exact h
    · rw [hfind] at h
      exact ⟨h.1, h.2, h.3⟩

/-! ### Tabs that are made -/

/-- The tab that a request makes if it is not there. -/
def Request.makes? : Request → Option String
  | .fulfil request => some request.name
  | .resize tab _ => some tab
  | .zoom tab _ => some tab
  | .touch tab => some tab
  | _ => none

@[simp] theorem tabOrFresh_putTab_self (registry : Registry) (name : String) (tab : Tab) :
    (registry.putTab name tab).tabOrFresh name = tab := by
  rw [tabOrFresh, putTab, ByName.find?_insert_self, Option.getD_some]

@[simp] theorem putTab_putTab (registry : Registry) (name : String) (first second : Tab) :
    (registry.putTab name first).putTab name second = registry.putTab name second := by
  simp only [putTab, ByName.insert_insert]

/-- **A tab that a request makes may as well be there before.** -/
theorem serve_putTab_tabOrFresh (registry : Registry) {request : Request}
    (h : request.makes? = some name) :
    (registry.putTab name (registry.tabOrFresh name)).serve request = registry.serve request := by
  cases request with
  | fulfil request =>
    obtain rfl := Option.some.inj h
    have hfulfil : (registry.putTab request.name (registry.tabOrFresh request.name)).fulfil request
        = registry.fulfil request := by
      simp only [fulfil, tabOrFresh_putTab_self]
      simp only [putTab, ByName.insert_insert]
    simp only [Registry.serve, hfulfil]
  | resize tab capacity =>
    obtain rfl := Option.some.inj h
    have hresize : (registry.putTab tab (registry.tabOrFresh tab)).resize tab capacity
        = registry.resize tab capacity := by
      simp only [resize, tabOrFresh_putTab_self, putTab_putTab]
    simp only [Registry.serve, hresize]
  | zoom tab grow =>
    obtain rfl := Option.some.inj h
    have hzoom : (registry.putTab tab (registry.tabOrFresh tab)).zoom tab grow
        = registry.zoom tab grow := by
      simp only [zoom, tabOrFresh_putTab_self, putTab_putTab]
      rfl
    simp only [Registry.serve, hzoom]
  | touch tab =>
    obtain rfl := Option.some.inj h
    simp only [Registry.serve, touch, tabOrFresh_putTab_self, putTab_putTab]
  | record tab channel batch => cases h
  | remove tab => cases h
  | takePictures => cases h

/-- Other requests make no tab of the name. -/
theorem find?_serve_of_makes?_ne (hnone : registry.tabs.find? name = none) {request : Request}
    (h : request.makes? ≠ some name) : (registry.serve request).1.tabs.find? name = none := by
  have hinsert {other : String} (hother : some other ≠ some name) (tab : Tab) :
      (registry.tabs.insert other tab).find? name = none := by
    rw [ByName.find?_insert_of_ne _ fun heq => hother (congrArg some heq.symm), hnone]
  cases request with
  | fulfil request => exact hinsert h _
  | record tab channel batch =>
    rcases hfind : registry.tabs.find? tab with - | found
    · simp only [Registry.serve, record_of_none hfind]
      exact hnone
    · have hother : some tab ≠ some name := by
        rintro ⟨⟩
        exact Option.some_ne_none found (hfind.symm.trans hnone)
      simp only [Registry.serve, record_of_some hfind]
      exact hinsert hother _
  | resize tab capacity =>
    simp only [Registry.serve, Registry.resize]
    split <;> exact hinsert h _
  | zoom tab grow => exact hinsert h _
  | touch tab => exact hinsert h _
  | remove tab =>
    show (registry.tabs.erase tab).find? name = none
    rw [ByName.find?_erase, hnone, ite_self]
  | takePictures =>
    show registry.clean.tabs.find? name = none
    rw [find?_clean, hnone, Option.map_none]

/-- **A tab that was not there begins as a new one**, whichever request makes it. -/
theorem serve_eq_of_made (hnone : registry.tabs.find? name = none) {request : Request}
    (hmade : (registry.serve request).1.tabs.find? name ≠ none) :
    registry.serve request = (registry.putTab name registry.freshTab).serve request := by
  by_cases hmakes : request.makes? = some name
  · rw [← tabOrFresh_of_none hnone, serve_putTab_tabOrFresh registry hmakes]
  · exact absurd (find?_serve_of_makes?_ne hnone hmakes) hmade

end Registry

/-- **A tab is blank**: it has the usual capacity and number of points, and nothing has been
plotted, colored or reported on it. -/
structure Tab.IsBlank (config : Config) (tab : Tab) : Prop where
  /-- How many samples of each channel it will remember. -/
  capacity_eq : tab.channels.capacity = config.defaultCapacity
  /-- No channel is selected. -/
  plotted_eq : tab.channels.plotted = ByName.empty
  /-- No color is kept. -/
  colors_eq : tab.channels.colors = ByName.empty
  /-- There is no window. -/
  window_eq : tab.channels.window = none
  /-- How many points its lines will have. -/
  slots_eq : tab.slots = config.defaultDrawSlots
  /-- It has no size. -/
  size_eq : tab.width = 0 ∧ tab.height = 0

namespace Registry

variable {config : Config} {palette : Palette} {registry : Registry} {name : String}

theorem MakesTabsOf.isBlank_freshTab (h : registry.MakesTabsOf config) :
    registry.freshTab.IsBlank config := by
  obtain ⟨hrule, hpos, hfresh⟩ := h
  rw [freshTab, hrule, hfresh]
  exact ⟨rfl, rfl, rfl, rfl, rfl, rfl, rfl⟩

/-! ### Rows of requests -/

/-- To begin with, no tab has a size. -/
theorem IsInitial.hasSize (h : IsInitial config palette registry) (name : String) :
    (registry.tabOrFresh name).HasSize registry.slotRule none none := by
  refine h.keeps (fun registry => ∀ name,
    (registry.tabOrFresh name).HasSize registry.slotRule none none) ?_ ?_ name
  · intro bare hbare name
    have hnone : bare.tabs.find? name = none := by
      rw [(makesTabsOf_new? hbare).2, ByName.find?_empty]
    rw [tabOrFresh_of_none hnone]
    exact Tab.hasSize_new _ _
  · intro before after entry hbefore hafter name
    obtain ⟨resized, -, rfl⟩ := exists_of_applyTabSettings hafter
    exact hasSize_of_insert (hbefore name) rfl rfl ⟨rfl, rfl, rfl⟩

/-- **After any requests the tab of a name has the size reported**, and so has the tab that
would be made: none. -/
theorem IsInitial.hasSize_after (h : IsInitial config palette registry) (requests : List Request)
    (name : String) :
    ((registry.after requests).tabOrFresh name).HasSize registry.slotRule
      (lastReported PlotRequest.width name requests)
      (lastReported PlotRequest.height name requests) := by
  induction requests using List.reverseRecOn with
  | nil => exact h.hasSize name
  | append_singleton requests request ih =>
    have hrule := (registry.made_after requests).1
    rw [after_concat, lastReported_concat, lastReported_concat, ← hrule]
    exact hasSize_serve (hrule ▸ ih) request

/-- **What a config that can be used says of tabs is kept to.** It describes a registry, and
after any requests to this:

* The tab on the screen is there.
* A tab has the width and the height that were reported last, since it was last taken away. Its
  lines have as many points as it is wide, up to the greatest number, and the usual number if
  it has no width; and it remembers at least one sample of each channel.
* The pictures that are taken are of tabs that are there, as large as these. Every line has the
  number of points of its tab, and there are no more lines than selected channels.
* A tab that a request makes is blank before anything else is done to it, and always the same
  one. -/
theorem exists_ofConfig?_sized (h : config.check = .ok ()) (palette : Palette) :
    ∃ registry blank, ofConfig? config palette = .ok registry ∧ blank.IsBlank config ∧
      ∀ requests,
        let now := registry.after requests
        (∀ name, now.shown = some name → ∃ tab, now.tabs.find? name = some tab) ∧
        (∀ name tab, now.tabs.find? name = some tab →
          let width := lastReported PlotRequest.width name requests
          let height := lastReported PlotRequest.height name requests
          tab.width = (width.map UInt32.toNat).getD 0 ∧
          tab.height = (height.map UInt32.toNat).getD 0 ∧
          (width = none ∨ width = some 0 → tab.slots = config.defaultDrawSlots) ∧
          (∀ reported, width = some reported → reported ≠ 0 →
            tab.slots = min reported.toNat config.maxDrawSlots) ∧
          tab.slots ≤ config.maxDrawSlots ∧ 1 ≤ tab.channels.capacity) ∧
        (∀ picture ∈ now.takePictures.2, ∃ tab, now.tabs.find? picture.tab = some tab ∧
          picture.width = tab.width ∧ picture.height = tab.height ∧
          (∀ line ∈ picture.lines, line.points.length = tab.slots) ∧
          picture.lines.length ≤ tab.channels.plotted.size) ∧
        ∀ name request, now.tabs.find? name = none →
          (now.serve request).1.tabs.find? name ≠ none →
            now.serve request = (now.putTab name blank).serve request := by
  have husable := Config.check_eq_ok_iff.1 h
  obtain ⟨registry, hregistry⟩ := exists_ofConfig?_eq_ok husable palette
  have hinitial : IsInitial config palette registry := .inr hregistry
  have hmakes := hinitial.makesTabsOf
  refine ⟨registry, registry.freshTab, hregistry, hmakes.isBlank_freshTab, fun requests => ?_⟩
  intro now
  have hfresh : now.freshTab = registry.freshTab := (registry.made_after requests).2
  refine ⟨fun name hshown => ?_, fun name tab hfind => ?_, fun picture hmem => ?_,
    fun name request hnone hmade => hfresh ▸ serve_eq_of_made hnone hmade⟩
  · have hthere := keeps_after HasShown (fun _ request hlater => hlater.serve request)
      hinitial.hasShown requests
    exact Option.ne_none_iff_exists'.1 (hthere name hshown)
  · intro width height
    have hsize : tab.HasSize ⟨config.defaultDrawSlots, config.maxDrawSlots⟩ width height := by
      have hafter := hinitial.hasSize_after requests name
      rwa [tabOrFresh_of_some hfind, hmakes.slotRule_eq] at hafter
    refine ⟨hsize.width_eq, hsize.height_eq, hsize.slots_of_zero, fun reported hreported hne => ?_,
      hsize.slots_le husable.defaultDrawSlots_le, tab.channels.capacity_pos⟩
    rw [hreported] at hsize
    exact hsize.slots_of_ne_zero hne
  · obtain ⟨name, tab, hfind, -, rfl⟩ := mem_dirtyPictures.1 hmem
    exact ⟨tab, hfind, rfl, rfl, fun line hline => Channels.length_points_of_mem_draw hline,
      tab.channels.length_draw_le tab.slots⟩

/-- A tab is reported to be wider than lines may be long, goes, and comes back with samples for a
channel that is no longer plotted on it. -/
def comeBack : List Request :=
  [.fulfil { PlotRequest.showing "power" true with width := some 70000, height := some 300 },
    .remove "power", .record "power" "volts" [], .touch "power"]

theorem exists_ofConfig?_sized_comeBack :
    ∃ registry blank, ofConfig? onePlot ⟨0⟩ = .ok registry ∧ blank.IsBlank onePlot ∧
      (∃ tab, (registry.after (comeBack.take 1)).tabs.find? "power" = some tab ∧
        tab.width = 70000 ∧ tab.height = 300 ∧ tab.slots = 4096) ∧
      (registry.after (comeBack.take 3)).serve (.touch "power")
        = ((registry.after (comeBack.take 3)).putTab "power" blank).serve (.touch "power") := by
  obtain ⟨registry, blank, hregistry, hblank, hall⟩ :=
    exists_ofConfig?_sized (show onePlot.check = .ok () from rfl) ⟨0⟩
  obtain ⟨-, hsized, -⟩ := hall (comeBack.take 1)
  obtain ⟨-, -, -, hmade⟩ := hall (comeBack.take 3)
  obtain rfl := Except.ok.inj (hregistry.symm.trans (show ofConfig? onePlot ⟨0⟩ = .ok _ from rfl))
  refine ⟨_, blank, hregistry, hblank, ⟨_, rfl, ?_⟩, hmade "power" (.touch "power") rfl ?_⟩
  · obtain ⟨hwidth, hheight, -, hslots, -⟩ := hsized "power" _ rfl
    exact ⟨hwidth, hheight, hslots 70000 rfl (by decide)⟩
  · exact Option.some_ne_none _

end Registry

end StripChart
