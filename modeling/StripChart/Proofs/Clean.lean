import StripChart.Proofs.Marks

/-!
# It does not matter when pictures are taken

Taking pictures makes tabs clean, and that is all it does to them. Nothing else that is
done to tabs looks at whether they are dirty: it comes to the same tabs, and says the
same, whether pictures have been taken before or not (`Registry.Blind`).

So registries that differ in nothing but which of their tabs are dirty stay like that
(`Registry.Alike`), and engines that have such registries, and the same endpoint, handle
frames and delivery units in the same way (`Engine.likeness_alike`,
`Engine.Alike.receive`).
-/

namespace StripChart

/-! ### Tabs -/

namespace Tab

/-- The tab with its picture taken. -/
def clean (tab : Tab) : Tab :=
  { tab with dirty := false }

theorem applySize_clean (tab : Tab) (rule : SlotRule) (request : PlotRequest) :
    tab.clean.applySize rule request = (tab.applySize rule request).clean := by
  rw [applySize, applySize]
  cases request.width <;> cases request.height <;> rfl

theorem applyClear_clean (tab : Tab) (request : PlotRequest) :
    tab.clean.applyClear request = (tab.applyClear request).clean := by
  rw [applyClear, applyClear]
  split <;> rfl

theorem applyColor_clean (tab : Tab) (name channel : String) (color : Option String) :
    tab.clean.applyColor name channel color
      = ((tab.applyColor name channel color).1.clean, (tab.applyColor name channel color).2) := by
  cases color with
  | none => rfl
  | some text =>
    simp only [applyColor]
    cases Color.parse text <;> rfl

theorem applyState_clean (tab : Tab) (channel : String) (state : Option Bool)
    (palette : Palette) :
    tab.clean.applyState channel state palette
      = ((tab.applyState channel state palette).1.clean,
          (tab.applyState channel state palette).2) := by
  cases state <;> rfl

theorem applyChannel_clean (tab : Tab) (request : PlotRequest) (palette : Palette) :
    tab.clean.applyChannel request palette
      = ((tab.applyChannel request palette).1.clean, (tab.applyChannel request palette).2) := by
  rw [applyChannel, applyChannel]
  cases request.channel with
  | none =>
    dsimp only
    split <;> rfl
  | some channel => simp only [applyColor_clean, applyState_clean]

/-- A request comes to the same whether the picture of its tab has been taken or not. -/
theorem fulfil_clean (tab : Tab) (rule : SlotRule) (request : PlotRequest) (palette : Palette) :
    tab.clean.fulfil rule request palette = tab.fulfil rule request palette := by
  rw [fulfil, applySize_clean, applyClear_clean, applyChannel_clean]
  rfl

end Tab

namespace Registry

/-! ### Registries -/

/-- The registry with all pictures taken, as `takePictures` leaves it. -/
def clean (registry : Registry) : Registry :=
  { registry with tabs := registry.tabs.mapValues Tab.clean }

theorem find?_clean (registry : Registry) (name : String) :
    registry.clean.tabs.find? name = (registry.tabs.find? name).map Tab.clean :=
  ByName.find?_mapValues _ _ _

theorem mapValues_clean_clean (tabs : ByName Tab) :
    (tabs.mapValues Tab.clean).mapValues Tab.clean = tabs.mapValues Tab.clean := by
  refine ByName.ext_find? fun name => ?_
  rw [ByName.find?_mapValues, ByName.find?_mapValues, Option.map_map]
  rfl

theorem clean_clean (registry : Registry) : registry.clean.clean = registry.clean := by
  simp only [clean, mapValues_clean_clean]

theorem clean_putTab (registry : Registry) (name : String) (tab : Tab) :
    (registry.putTab name tab).clean = registry.clean.putTab name tab.clean := by
  simp only [clean, putTab, ByName.mapValues_insert]

theorem tabOrFresh_clean (registry : Registry) (name : String) :
    (registry.clean.tabOrFresh name).clean = (registry.tabOrFresh name).clean := by
  rw [tabOrFresh, tabOrFresh]
  rw [find?_clean]
  cases registry.tabs.find? name <;> rfl

/-- Taking pictures does not change what is on them. -/
theorem picture?_clean (registry : Registry) (name : String) :
    registry.clean.picture? name = registry.picture? name := by
  rw [picture?, picture?]
  rw [find?_clean, Option.map_map]
  rfl

/-- **An operation on registries that does not look at whether tabs are dirty**: with all
pictures taken before, it comes to the same registry up to this, and says the same. -/
def Blind {β : Type} (op : Registry → Registry × β) : Prop :=
  ∀ registry, (op registry.clean).1.clean = (op registry).1.clean ∧
    (op registry.clean).2 = (op registry).2

theorem blind_record (name channel : String) (batch : List (Sample Float)) :
    Blind fun registry => registry.record name channel batch := by
  intro registry
  dsimp only
  rcases htab : registry.tabs.find? name with - | tab
  · -- without a tab nothing happens, before and after
    rw [record_of_none htab, record_of_none (by rw [find?_clean, htab, Option.map_none])]
    exact ⟨registry.clean_clean, rfl⟩
  · have htab' : registry.clean.tabs.find? name = some tab.clean := by
      rw [find?_clean, htab, Option.map_some]
    rw [record_of_some htab, record_of_some htab']
    refine ⟨?_, rfl⟩
    rw [clean_putTab, clean_putTab, clean_clean]
    rfl

/-- The channels of a tab are there whether its picture has been taken or not. -/
theorem channels_tabOrFresh_clean (registry : Registry) (name : String) :
    (registry.clean.tabOrFresh name).channels = (registry.tabOrFresh name).channels := by
  show (registry.clean.tabOrFresh name).clean.channels = (registry.tabOrFresh name).clean.channels
  rw [tabOrFresh_clean]

theorem blind_fulfil (request : PlotRequest) :
    Blind fun registry => registry.fulfil request := by
  intro registry
  -- a fresh tab is dirty and one that was found is clean now, but the request marks either
  have htab : (registry.clean.tabOrFresh request.name).fulfil registry.clean.slotRule request
        registry.clean.palette
      = (registry.tabOrFresh request.name).fulfil registry.slotRule request registry.palette := by
    rw [← Tab.fulfil_clean, tabOrFresh_clean, Tab.fulfil_clean]
    rfl
  simp only [fulfil, htab, and_true]
  simp only [clean, ByName.mapValues_insert, mapValues_clean_clean]

theorem blind_resize (name : String) (capacity : Nat) :
    Blind fun registry => registry.resize name capacity := by
  intro registry
  unfold resize
  dsimp only
  rw [channels_tabOrFresh_clean]
  cases (registry.tabOrFresh name).channels.resize? capacity with
  | ok channels =>
    refine ⟨?_, rfl⟩
    rw [clean_putTab, clean_putTab, clean_clean]
    exact congrArg (fun tab : Tab => registry.clean.putTab name { tab with channels })
      (registry.tabOrFresh_clean name)
  | error fault =>
    refine ⟨?_, rfl⟩
    rw [clean_putTab, clean_putTab, clean_clean, tabOrFresh_clean]

theorem blind_zoom (name : String) (grow : Bool) :
    Blind fun registry => registry.zoom name grow := by
  intro registry
  unfold zoom
  dsimp only
  rw [channels_tabOrFresh_clean, clean_putTab, clean_putTab, clean_clean]
  refine ⟨?_, rfl⟩
  exact congrArg (fun tab : Tab => registry.clean.putTab name { tab with
    channels := (registry.tabOrFresh name).channels.zoom grow registry.capacityScale
      registry.minCapacity })
    (registry.tabOrFresh_clean name)

theorem blind_remove (name : String) : Blind fun registry => registry.remove name := by
  intro registry
  constructor
  · simp only [remove, clean, ByName.mapValues_erase, mapValues_clean_clean]
    rfl
  · show (registry.clean.tabs.find? name).isSome = (registry.tabs.find? name).isSome
    rw [find?_clean, Option.isSome_map]

/-- **Registries that differ in nothing but which of their tabs are dirty.** -/
def Alike (one other : Registry) : Prop :=
  one.clean = other.clean

/-- Registries that are alike stay alike, and say the same, under what does not look at
whether tabs are dirty. -/
theorem Alike.of_blind {β : Type} {op : Registry → Registry × β} {one other : Registry}
    (h : one.Alike other) (hop : Blind op) :
    (op one).1.Alike (op other).1 ∧ (op one).2 = (op other).2 := by
  obtain ⟨hone, hsaid⟩ := hop one
  obtain ⟨hother, hsaid'⟩ := hop other
  constructor
  · exact hone.symm.trans ((congrArg (fun registry => (op registry).1.clean) h).trans hother)
  · exact hsaid.symm.trans ((congrArg (fun registry => (op registry).2) h).trans hsaid')

/-- A registry is like itself with all pictures taken. -/
theorem alike_clean (registry : Registry) : registry.Alike registry.clean :=
  registry.clean_clean.symm

end Registry

/-! ### Engines -/

namespace Engine

/-- **Engines that are alike**: their endpoints are the same, and their registries differ
in nothing but which tabs are dirty. -/
structure Alike (one other : Engine) : Prop where
  /-- The endpoints are the same. -/
  endpoint_eq : one.endpoint = other.endpoint
  /-- The registries are alike. -/
  registry_alike : one.registry.Alike other.registry

theorem likeness_alike : Likeness Alike where
  name_eq h := by rw [h.endpoint_eq]
  handlers_eq h := by rw [h.endpoint_eq]
  count {_ _ f} h _ := ⟨congrArg (Endpoint.count · f) h.endpoint_eq, h.registry_alike⟩
  withHandler key handler h :=
    ⟨congrArg (Endpoint.withHandler · key handler) h.endpoint_eq, h.registry_alike⟩
  record tab channel batch h := by
    obtain ⟨hregistry, hsaid⟩ := h.registry_alike.of_blind (Registry.blind_record tab channel batch)
    exact ⟨⟨h.endpoint_eq, hregistry⟩, hsaid⟩
  fulfil request h := by
    obtain ⟨hregistry, hsaid⟩ := h.registry_alike.of_blind (Registry.blind_fulfil request)
    exact ⟨⟨h.endpoint_eq, hregistry⟩, hsaid⟩

/-- **A delivery unit** leaves engines alike that were, and comes to the same. -/
theorem Alike.receive {one other : Engine} (h : one.Alike other) (unit : Bytes) :
    (one.receive unit).1.Alike (other.receive unit).1 ∧
      (one.receive unit).2 = (other.receive unit).2 := by
  obtain ⟨endpoint, registry⟩ := one
  obtain ⟨endpoint', registry'⟩ := other
  obtain ⟨rfl, hregistry⟩ : endpoint = endpoint' ∧ registry.Alike registry' :=
    ⟨h.endpoint_eq, h.registry_alike⟩
  by_cases hopen : endpoint.connection.isOpen = true
  · rcases hunit : endpoint.splitter.receive unit with ⟨fault | frames, splitter⟩
    · rw [receive_of_error hopen hunit, receive_of_error hopen hunit]
      exact ⟨⟨rfl, hregistry⟩, rfl⟩
    · rw [receive_of_ok hopen hunit, receive_of_ok hopen hunit]
      obtain ⟨hengine, heffects⟩ := likeness_alike.takeFrames h frames
      refine ⟨⟨?_, hengine.registry_alike⟩, by rw [heffects]⟩
      simp only [credit, hengine.endpoint_eq]
  · rw [Engine.receive, Engine.receive, if_neg hopen, if_neg hopen]
    exact ⟨⟨rfl, hregistry⟩, rfl⟩

end Engine

end StripChart
