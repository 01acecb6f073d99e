import StripChart.Proofs.Describing

/-!
# Which capacities rings have

A ring is made with the capacity of its tab, and is given another one with its tab. Where the
capacity of the tab comes from is another matter: it is the usual one, or was set by an entry of
the config, or asked for, or reached by zooming, perhaps long before there was any channel on the
tab. None of these is held against what an array can have room for. All that is refused is to
remember nothing.

So the capacity of a ring can be anything that a tab may have been given, and no more can be said
than where it comes from: the last request that has set it (`Registry.capacityAfter`), and the
config before that (`Registry.exists_ofConfig?_capacities`). The arrays of rings can be had
(`Representable`) as long as only such capacities are set; and there are requests that are granted
and lead to a ring whose array cannot (`Registry.exists_ring_not_representable`).

What a request does to the capacity of a tab has been said already, in the account of any of its
channels. The capacity is all that is taken from there (`Registry.account_capacity_serve`).
-/

namespace StripChart

/-- **An array of so many samples can be had**: a sample takes sixteen bytes, and an array has
less than two to the power of 63. -/
def Representable (capacity : Nat) : Prop :=
  capacity * 16 ≤ 9223372036854775807

instance (capacity : Nat) : Decidable (Representable capacity) :=
  inferInstanceAs (Decidable (_ ≤ _))

namespace Config

/-- The config with the first so many of its entries for tabs. -/
def firstTabs (config : Config) (count : Nat) : Config :=
  { config with tabs := config.tabs.take count }

/-- The capacity that the config gives to a tab: the last that is set, or else the usual one. -/
def capacityOf (config : Config) (name : String) : Nat :=
  ((config.tabs.filter (·.name == name)).filterMap TabSettings.capacity).getLast?.getD
    config.defaultCapacity

variable {config : Config}

theorem IsUsable.firstTabs (h : config.IsUsable) (count : Nat) :
    (config.firstTabs count).IsUsable where
  defaultCapacity_ne := h.defaultCapacity_ne
  minCapacity_ne := h.minCapacity_ne
  one_lt_capacityScale := h.one_lt_capacityScale
  maxDrawSlots_ne := h.maxDrawSlots_ne
  defaultDrawSlots_le := h.defaultDrawSlots_le
  renderPeriodMs_ne := h.renderPeriodMs_ne
  commandQueue_ne := h.commandQueue_ne
  notificationQueue_ne := h.notificationQueue_ne
  capacity_ne tab hmem := h.capacity_ne tab (List.mem_of_mem_take hmem)

/-- It is one of those that stand in the config. -/
theorem capacityOf_cases (config : Config) (name : String) :
    config.capacityOf name = config.defaultCapacity ∨
      ∃ entry ∈ config.tabs, entry.capacity = some (config.capacityOf name) := by
  rcases hlast : ((config.tabs.filter (·.name == name)).filterMap
    TabSettings.capacity).getLast? with - | capacity
  · exact .inl (by rw [capacityOf, hlast, Option.getD_none])
  · obtain ⟨entry, hentry, hcapacity⟩ := List.mem_filterMap.1 (List.mem_of_getLast? hlast)
    refine .inr ⟨entry, (List.mem_filter.1 hentry).1, ?_⟩
    rw [capacityOf, hlast, Option.getD_some, hcapacity]

end Config

namespace Registry

variable {config : Config} {palette : Palette} {registry : Registry} {name channel : String}
  {account : Option Account} {ring : Ring Float}

/-! ### One request -/

/-- **The capacity of a tab after a request**, be the tab made or not: the one that is asked for,
or reached by zooming. A tab that is taken away will have the usual one when it is made again. -/
def capacityAfter (config : Config) (name : String) (capacity : Nat) : Request → Nat
  | .resize tab wanted => if tab = name ∧ 0 < wanted then wanted else capacity
  | .zoom tab grow =>
    if tab = name then zoomedCapacity capacity grow config.capacityScale config.minCapacity
    else capacity
  | .remove tab => if tab = name then config.defaultCapacity else capacity
  | _ => capacity

/-- The capacity is part of every account of a channel of the tab. -/
theorem account_capacity_serve (account : Option Account) (request : Request) :
    ((Account.serve config name channel account request).getD (.new config)).capacity
      = capacityAfter config name (account.getD (.new config)).capacity request := by
  cases request with
  | resize tab wanted =>
    simp only [Account.serve, capacityAfter]
    by_cases hname : tab = name <;> by_cases hpos : 0 < wanted <;>
      simp [hname, hpos, Account.resize]
  | record tab other batch =>
    simp only [Account.serve, capacityAfter]
    split
    · cases account <;> rfl
    · rfl
  | takePictures => rfl
  | _ =>
    simp only [Account.serve, capacityAfter]
    split <;> rfl

theorem Follows.capacity_serve (h : Follows config name channel registry account)
    (request : Request) :
    ((registry.serve request).1.tabOrFresh name).channels.capacity
      = capacityAfter config name (registry.tabOrFresh name).channels.capacity request := by
  rw [(h.serve request).tabOrFresh.capacity, h.tabOrFresh.capacity, account_capacity_serve]

/-- **Every ring has the capacity of its tab.** -/
theorem Follows.capacity_of_ring? (h : Follows config name channel registry account)
    (hring : registry.ring? name channel = some ring) :
    ring.capacity = (registry.tabOrFresh name).channels.capacity := by
  obtain ⟨-, -, hroom⟩ := h.ring?_eq
  obtain ⟨account, rfl, hcapacity⟩ := Option.map_eq_some_iff.1 (hroom ring hring).symm
  rw [h.tabOrFresh.capacity, Option.getD_some, hcapacity]

/-- While something is retained there is a ring. -/
theorem Follows.exists_ring? (h : Follows config name channel registry account)
    (hretained : (account.bind Account.retained).isSome = true) :
    ∃ ring, registry.ring? name channel = some ring ∧
      some ring.capacity = account.map Account.capacity := by
  obtain ⟨hsamples, -, hroom⟩ := h.ring?_eq
  obtain ⟨retained, hretained⟩ := Option.isSome_iff_exists.1 hretained
  rw [hretained, Option.map_some] at hsamples
  obtain ⟨ring, hring, -⟩ := Option.map_eq_some_iff.1 hsamples
  exact ⟨ring, hring, hroom ring hring⟩

/-! ### Rows of requests -/

theorem IsInitial.capacity_after (h : IsInitial config palette registry)
    (requests : List Request) (name : String) :
    ((registry.after requests).tabOrFresh name).channels.capacity = requests.foldl
      (capacityAfter config name) (registry.tabOrFresh name).channels.capacity := by
  induction requests using List.reverseRecOn with
  | nil => rfl
  | append_singleton requests request ih =>
    rw [after_concat, ((h.follows name "").after requests).capacity_serve, ih, List.foldl_concat]

/-- **What holds of all capacities that are set holds of the capacities of all tabs.** -/
theorem IsInitial.keeps_capacity (h : IsInitial config palette registry) (allowed : Nat → Prop)
    (husual : allowed config.defaultCapacity)
    (hinitial : ∀ name, allowed (registry.tabOrFresh name).channels.capacity)
    {requests : List Request}
    (hresize : ∀ tab capacity, .resize tab capacity ∈ requests → allowed capacity)
    (hzoom : ∀ capacity, .zoomed capacity ∈ registry.answers requests → allowed capacity)
    (name : String) :
    allowed ((registry.after requests).tabOrFresh name).channels.capacity := by
  induction requests using List.reverseRecOn generalizing name with
  | nil => exact hinitial name
  | append_singleton requests request ih =>
    have hfollows := (h.follows name "").after requests
    have hanswers := registry.answers_append requests [request]
    have hbefore := ih
      (fun tab capacity hmem => hresize tab capacity (List.mem_append_left _ hmem))
      (fun capacity hmem => hzoom capacity (hanswers ▸ List.mem_append_left _ hmem))
    rw [after_concat, hfollows.capacity_serve]
    cases request with
    | resize tab wanted =>
      rw [capacityAfter]
      split
      · exact hresize tab wanted (List.mem_append_right _ List.mem_cons_self)
      · exact hbefore name
    | zoom tab grow =>
      rw [capacityAfter]
      split
      · rename_i hname
        subst hname
        rw [← hfollows.isSetUp.capacityScale_eq, ← hfollows.isSetUp.minCapacity_eq]
        exact hzoom _ (hanswers ▸ List.mem_append_right _ List.mem_cons_self)
      · exact hbefore name
    | remove tab =>
      rw [capacityAfter]
      split
      · exact husual
      · exact hbefore name
    | _ => exact hbefore name

/-! ### The main statement -/

/-- The config sets the capacities of its tabs. -/
theorem capacity_of_ofConfig? (h : ofConfig? config palette = .ok registry) (name : String) :
    (registry.tabOrFresh name).channels.capacity = config.capacityOf name :=
  ((isSetBy_ofConfig? h).tab name).capacity_eq

/-- A capacity of zero is refused, and all tabs are as they were. -/
theorem serve_resize_zero (registry : Registry) (name : String) :
    (registry.serve (.resize name 0)).2 = [.resized (.error .zero)] ∧ ∀ other,
      (registry.serve (.resize name 0)).1.tabOrFresh other = registry.tabOrFresh other := by
  refine ⟨rfl, fun other => ?_⟩
  have htouch := @tabOrFresh_of_insert registry (registry.touch name) name _ rfl rfl other
  refine htouch.trans ?_
  split
  · rename_i hname
    rw [hname]
  · rfl

/-- Any other capacity is granted. -/
theorem serve_resize_pos (registry : Registry) (name : String) {capacity : Nat}
    (hpos : 0 < capacity) :
    (registry.serve (.resize name capacity)).2 = [.resized (.ok ())] ∧
      ((registry.serve (.resize name capacity)).1.tabOrFresh name).channels.capacity
        = capacity := by
  have hresize : registry.resize name capacity = (registry.putTab name
      { registry.tabOrFresh name with
        channels := (registry.tabOrFresh name).channels.resize capacity hpos, dirty := true },
      .ok ()) := by
    rw [resize, Channels.resize?, dif_pos hpos]
  refine ⟨by rw [serve, hresize], ?_⟩
  rw [serve, hresize, tabOrFresh_putTab_self]
  rfl

/-- **Which capacities rings have.** From the registry that a config describes which can be used,
or so many of its entries for tabs, let any requests be made.

* Every ring has the capacity of its tab, which is the last that was asked for or reached by
  zooming since the tab was last taken away, or else the one that the config gives to it.
* If the arrays of all capacities that are set can be had, those of all rings can.
* A capacity of zero is refused, and all tabs are as they were. Any other is granted, be its array
  one that can be had or not. -/
theorem exists_ofConfig?_capacities (h : config.check = .ok ()) (count : Nat)
    (palette : Palette) :
    ∃ registry, ofConfig? (config.firstTabs count) palette = .ok registry ∧
      ∀ requests : List Request,
        let now := registry.after requests
        (∀ name,
          let capacity := requests.foldl (capacityAfter config name)
            ((config.firstTabs count).capacityOf name)
          0 < capacity ∧ (now.tabOrFresh name).channels.capacity = capacity ∧
          ∀ channel ring, now.ring? name channel = some ring → ring.capacity = capacity) ∧
        (Representable config.defaultCapacity →
          (∀ entry ∈ config.tabs, ∀ capacity,
            entry.capacity = some capacity → Representable capacity) →
          (∀ name capacity, .resize name capacity ∈ requests → Representable capacity) →
          (∀ capacity, .zoomed capacity ∈ registry.answers requests → Representable capacity) →
          ∀ name channel ring, now.ring? name channel = some ring →
            Representable ring.capacity) ∧
        ∀ name,
          ((now.serve (.resize name 0)).2 = [.resized (.error .zero)] ∧
            ∀ other, (now.serve (.resize name 0)).1.tabOrFresh other = now.tabOrFresh other) ∧
          ∀ capacity, 0 < capacity →
            (now.serve (.resize name capacity)).2 = [.resized (.ok ())] ∧
            ((now.serve (.resize name capacity)).1.tabOrFresh name).channels.capacity
              = capacity := by
  obtain ⟨registry, hregistry⟩ :=
    exists_ofConfig?_eq_ok ((Config.check_eq_ok_iff.1 h).firstTabs count) palette
  have hinitial : IsInitial (config.firstTabs count) palette registry := .inr hregistry
  refine ⟨registry, hregistry, fun requests => ⟨fun name => ?_, ?_, fun name =>
    ⟨serve_resize_zero _ name, fun _ => serve_resize_pos _ name⟩⟩⟩
  · have hcapacity := hinitial.capacity_after requests name
    rw [capacity_of_ofConfig? hregistry] at hcapacity
    refine ⟨?_, hcapacity, fun channel ring hring => ?_⟩
    · exact hcapacity ▸ Channels.capacity_pos _
    · exact (((hinitial.follows name channel).after requests).capacity_of_ring? hring).trans
        hcapacity
  · intro husual hentries hresize hzoom name channel ring hring
    rw [((hinitial.follows name channel).after requests).capacity_of_ring? hring]
    refine hinitial.keeps_capacity Representable husual (fun other => ?_) hresize hzoom name
    rw [capacity_of_ofConfig? hregistry]
    rcases (config.firstTabs count).capacityOf_cases other with husual' | ⟨entry, hentry, hset⟩
    · rw [husual']
      exact husual
    · exact hentries entry (List.mem_of_mem_take hentry) _ hset

/-- The tab of the config is taken away and made again, another one is made, and two capacities
are asked for. -/
def remakeRequests : List Request :=
  [.remove "power", .fulfil (.selecting "power" "volts" true),
    .fulfil (.selecting "heat" "in" true), .resize "power" 9, .resize "heat" 0]

theorem exists_ofConfig?_capacities_remakeRequests :
    ∃ registry volts inside, ofConfig? (onePlot.firstTabs 1) ⟨0⟩ = .ok registry ∧
      (registry.after remakeRequests).ring? "power" "volts" = some volts ∧ volts.capacity = 9 ∧
      (registry.after remakeRequests).ring? "heat" "in" = some inside ∧ inside.capacity = 512 ∧
      Representable volts.capacity := by
  obtain ⟨registry, hregistry, hall⟩ :=
    exists_ofConfig?_capacities (show onePlot.check = .ok () from rfl) 1 ⟨0⟩
  obtain ⟨hcapacity, hrepresentable, -⟩ := hall remakeRequests
  have hinitial : IsInitial (onePlot.firstTabs 1) ⟨0⟩ registry := .inr hregistry
  obtain rfl := Except.ok.inj hregistry
  obtain ⟨volts, hvolts, -⟩ := ((hinitial.follows "power" "volts").after
    remakeRequests).exists_ring? (by decide +kernel)
  obtain ⟨inside, hinside, -⟩ := ((hinitial.follows "heat" "in").after
    remakeRequests).exists_ring? (by decide +kernel)
  refine ⟨_, volts, inside, hregistry, hvolts, (hcapacity "power").2.2 "volts" volts hvolts,
    hinside, (hcapacity "heat").2.2 "in" inside hinside, ?_⟩
  refine hrepresentable (by decide) (by decide) (fun name capacity hmem => ?_)
    (fun capacity hmem => ?_) "power" "volts" volts hvolts
  · have hset : name = "power" ∧ capacity = 9 ∨ name = "heat" ∧ capacity = 0 := by
      simpa [remakeRequests] using hmem
    obtain ⟨-, rfl⟩ | ⟨-, rfl⟩ := hset <;> decide
  · simp [remakeRequests, answers, serve] at hmem

/-- A tab is given room for two to the power of 59 samples, and then a channel is selected on
it. -/
theorem exists_ring_not_representable :
    ({} : Config).check = .ok () ∧ ∃ registry ring, ofConfig? {} ⟨0⟩ = .ok registry ∧
      registry.answers [.resize "a" 576460752303423488] = [.resized (.ok ())] ∧
      (registry.after [.resize "a" 576460752303423488,
        .fulfil (.selecting "a" "volts" true)]).ring? "a" "volts" = some ring ∧
      ring.capacity = 576460752303423488 ∧ ¬ Representable ring.capacity := by
  have hinitial : IsInitial {} ⟨0⟩ _ := Or.inr (show ofConfig? {} ⟨0⟩ = .ok _ from rfl)
  obtain ⟨ring, hring, hroom⟩ := ((hinitial.follows "a" "volts").after
    [.resize "a" 576460752303423488, .fulfil (.selecting "a" "volts" true)]).exists_ring?
      (by decide +kernel)
  have hcapacity : ring.capacity = 576460752303423488 :=
    Option.some.inj (hroom.trans (by decide +kernel))
  refine ⟨rfl, _, ring, rfl, ?_, hring, hcapacity, by rw [hcapacity]; decide⟩
  exact (serve_resize_pos _ "a" (by decide)).1

end Registry

end StripChart
