import StripChart.Proofs.Channels

/-!
# What is remembered of a channel

The samples of a channel lie in a ring, the ring belongs to a channel of a tab, the tab to a
registry, and a dozen operations go past it: some fill it, some empty it, some change its
room, some throw it away and make a new one, and most are to leave it alone. What is left in
it can be told from the requests alone. An `Account` of one channel of one tab takes note of
the samples given to the channel since it was last made or emptied, and of how many of these
there is still room for (`Retained`). It knows nothing of rings, nor of other channels and
other tabs.

The main statement is that after any row of requests the ring of the channel holds just what
the account says: the last so many of the samples given (`Registry.ring?_after`). Every
request does the same to tab and account (`Registry.Follows.serve`), and this comes down to
what it does to a ring and to what is retained (`Ring.Holds`). Beside this it is said which
requests leave the ring alone altogether (`Registry.Request.Spares`), slot by slot.
-/

namespace StripChart

variable {α : Type}

/-! ### The end of a list -/

theorem rtake_rtake {β : Type} (list : List β) (m n : Nat) :
    (list.rtake m).rtake n = list.rtake (min n m) := by
  simp only [List.rtake_eq_reverse_take_reverse, List.reverse_reverse, List.take_take]

/-- What comes behind the end of a list makes its end longer. -/
theorem rtake_append {β : Type} (list more : List β) (n : Nat) :
    list.rtake n ++ more = (list ++ more).rtake (n + more.length) := by
  have hle : list.length - n ≤ list.length := Nat.sub_le _ _
  rw [List.rtake, List.rtake, List.length_append, Nat.add_sub_add_right,
    List.drop_append_of_le_length hle]

/-! ### What is retained -/

/-- Samples that were given to a channel, and how many of them are retained: the last. -/
structure Retained (α : Type) where
  /-- The samples given, the oldest first. -/
  given : List (Sample α)
  /-- How many there is still room for. -/
  kept : Nat
  /-- They are among those given. -/
  kept_le : kept ≤ given.length

namespace Retained

variable (retained : Retained α) (capacity : Nat) (batch : List (Sample α))

/-- Nothing has been given yet. -/
def empty : Retained α :=
  ⟨[], 0, Nat.le_refl 0⟩

/-- The samples that are retained. -/
def samples : List (Sample α) :=
  retained.given.rtake retained.kept

/-- More samples are given. -/
def record : Retained α where
  given := retained.given ++ batch
  kept := min (retained.kept + batch.length) capacity
  kept_le := by
    have hle := retained.kept_le
    rw [List.length_append]
    omega

/-- There is room for another number of samples. -/
def resize : Retained α where
  given := retained.given
  kept := min retained.kept capacity
  kept_le := Nat.le_trans (Nat.min_le_left _ _) retained.kept_le

theorem length_samples : retained.samples.length = retained.kept := by
  have hle := retained.kept_le
  rw [samples, List.rtake, List.length_drop]
  omega

theorem samples_record :
    (retained.record capacity batch).samples = (retained.samples ++ batch).rtake capacity := by
  rw [samples, samples, rtake_append, rtake_rtake, Nat.min_comm]
  rfl

theorem samples_resize :
    (retained.resize capacity).samples
      = retained.samples.rtake (min retained.samples.length capacity) := by
  rw [length_samples, samples, samples, rtake_rtake]
  show retained.given.rtake (min retained.kept capacity) = _
  congr 1
  omega

end Retained

/-- **A ring holds what is retained**, and has room for so many. -/
structure Ring.Holds (capacity : Nat) (ring : Ring α) (retained : Retained α) : Prop where
  /-- The samples are those retained. -/
  toList : ring.toList = retained.samples
  /-- The capacity of the ring. -/
  capacity : ring.capacity = capacity

namespace Ring.Holds

variable {capacity : Nat} {ring : Ring α} {retained : Retained α}

theorem new [Scalar α] (h : 0 < capacity) : Holds capacity (Ring.new capacity h : Ring α) .empty :=
  ⟨rfl, capacity_new capacity h⟩

theorem clear (h : Holds capacity ring retained) : Holds capacity ring.clear .empty :=
  ⟨rfl, h.capacity⟩

theorem pushAll (h : Holds capacity ring retained) (batch : List (Sample α)) :
    Holds capacity (ring.pushAll batch) (retained.record capacity batch) where
  toList := by rw [toList_pushAll, h.toList, h.capacity, Retained.samples_record]
  capacity := by rw [capacity_pushAll, h.capacity]

theorem resize [Scalar α] (h : Holds capacity ring retained) (other : Nat) (hpos : 0 < other) :
    Holds other (ring.resize other hpos) (retained.resize other) where
  toList := by
    rw [toList_resize, h.toList, ← ring.length_toList, h.toList, Retained.samples_resize]
  capacity := capacity_resize ring other hpos

end Ring.Holds

/-! ### Accounts -/

/-- What is to be known of one channel on one tab. -/
structure Account where
  /-- The capacity of the tab. -/
  capacity : Nat
  /-- What is retained of the samples given to the channel, if it is selected. -/
  retained : Option (Retained Float)

namespace Account

/-- A tab on which nothing is plotted, as it is when it is first named. -/
def new (config : Config) : Account :=
  ⟨config.defaultCapacity, none⟩

variable (account : Account)

/-- A request for the tab: all samples are dropped if it asks for this, and then the channel
may be selected, which it may have been before, or deselected. -/
def fulfil (channel : String) (request : PlotRequest) : Account :=
  let cleared := if request.clear = some true then account.retained.map fun _ => .empty
    else account.retained
  { account with
    retained := if request.channel = some channel then
        match request.state with
        | some true => some (cleared.getD .empty)
        | some false => none
        | none => cleared
      else cleared }

/-- A channel that is deselected retains nothing. -/
theorem retained_drop {channel : String} {request : PlotRequest}
    (hchannel : request.channel = some channel) (hstate : request.state = some false) :
    (account.fulfil channel request).retained = none := by
  simp only [fulfil, hchannel, hstate, if_true]

/-- A channel that is selected anew has been given nothing. -/
theorem retained_select {channel : String} {request : PlotRequest}
    (h : account.retained = none) (hchannel : request.channel = some channel)
    (hstate : request.state = some true) :
    (account.fulfil channel request).retained = some .empty := by
  simp only [fulfil, h, hchannel, hstate, if_true, Option.map_none, ite_self, Option.getD_none]

/-- Samples for the channel, which are dropped unless it is selected. -/
def record (batch : List (Sample Float)) : Account :=
  { account with retained := account.retained.map (Retained.record · account.capacity batch) }

/-- Another capacity. -/
def resize (capacity : Nat) : Account :=
  ⟨capacity, account.retained.map (Retained.resize · capacity)⟩

/-- **What a request does to the account** of a channel, which there is while there is the
tab. -/
def serve (config : Config) (name channel : String) (account : Option Account) :
    Registry.Request → Option Account
  | .fulfil request =>
    if request.name = name then some ((account.getD (new config)).fulfil channel request)
    else account
  | .record tab other batch =>
    if tab = name ∧ other = channel then account.map (Account.record · batch) else account
  | .resize tab capacity =>
    if tab = name then
      let account := account.getD (new config)
      some (if 0 < capacity then account.resize capacity else account)
    else account
  | .zoom tab grow =>
    if tab = name then
      let account := account.getD (new config)
      some (account.resize
        (zoomedCapacity account.capacity grow config.capacityScale config.minCapacity))
    else account
  | .touch tab => if tab = name then some (account.getD (new config)) else account
  | .remove tab => if tab = name then none else account
  | .takePictures => account

end Account

/-- **A tab is as the account says**: it has the capacity, and the ring of the channel holds
what is retained. -/
structure Tab.Accords (channel : String) (tab : Tab) (account : Account) : Prop where
  /-- The capacity of the tab. -/
  capacity : tab.channels.capacity = account.capacity
  /-- The ring of the channel, if it is selected. -/
  ring : Option.Rel (Ring.Holds account.capacity) (tab.channels.samples? channel) account.retained

/-- What is related stays so if both sides are changed alike. -/
theorem rel_map {β γ δ ε : Type} {related : β → γ → Prop} {related' : δ → ε → Prop}
    {b : Option β} {c : Option γ} (h : Option.Rel related b c) {f : β → δ} {g : γ → ε}
    (hkeeps : ∀ b c, related b c → related' (f b) (g c)) :
    Option.Rel related' (b.map f) (c.map g) := by
  cases h with
  | none => exact .none
  | some h => exact .some (hkeeps _ _ h)

namespace Tab.Accords

variable {channel : String} {tab : Tab} {account : Account}

theorem fulfil (h : tab.Accords channel account) (rule : SlotRule) (request : PlotRequest)
    (palette : Palette) :
    (tab.fulfil rule request palette).1.Accords channel (account.fulfil channel request) where
  capacity := (tab.capacity_fulfil request palette rule).trans h.capacity
  ring := by
    have hcleared : Option.Rel (Ring.Holds account.capacity)
        (if request.clear = some true then (tab.channels.samples? channel).map Ring.clear
          else tab.channels.samples? channel)
        (if request.clear = some true then account.retained.map fun _ => .empty
          else account.retained) := by
      split
      · exact rel_map h.ring fun _ _ => Ring.Holds.clear
      · exact h.ring
    rw [Tab.samples?_fulfil]
    dsimp only [Account.fulfil]
    generalize (if request.clear = some true then _ else _) = held at hcleared ⊢
    generalize (if request.clear = some true then _ else _) = retained at hcleared ⊢
    split
    · rcases request.state with - | (_ | _)
      · exact hcleared
      · exact .none
      · refine .some ?_
        cases hcleared with
        | none => exact h.capacity ▸ .new tab.channels.capacity_pos
        | some hheld => exact hheld
    · exact hcleared

theorem record (h : tab.Accords channel account) (batch : List (Sample Float)) (dirty : Bool) :
    Tab.Accords channel
      { tab with channels := (tab.channels.record channel batch).1, dirty } (account.record batch)
    where
  capacity := (tab.channels.capacity_record channel batch).trans h.capacity
  ring := by
    rw [Channels.samples?_record, if_pos rfl]
    exact rel_map h.ring fun _ _ hheld => hheld.pushAll batch

/-- Samples for other channels do not matter. -/
theorem record_of_ne (h : tab.Accords channel account) {other : String} (hne : other ≠ channel)
    (batch : List (Sample Float)) (dirty : Bool) :
    Tab.Accords channel { tab with channels := (tab.channels.record other batch).1, dirty } account
    where
  capacity := (tab.channels.capacity_record other batch).trans h.capacity
  ring := by
    rw [Channels.samples?_record, if_neg (Ne.symm hne)]
    exact h.ring

theorem resize (h : tab.Accords channel account) {capacity : Nat} (hpos : 0 < capacity)
    (dirty : Bool) :
    Tab.Accords channel { tab with channels := tab.channels.resize capacity hpos, dirty }
      (account.resize capacity) where
  capacity := rfl
  ring := by
    rw [Channels.samples?_resize]
    exact rel_map h.ring fun _ _ hheld => hheld.resize capacity hpos

end Tab.Accords

namespace Registry

variable {config : Config} {registry : Registry} {name channel : String}
  {account : Option Account}

/-- What is said in the config about tabs that are made and about zooming is what the registry
goes by. -/
structure IsSetUp (config : Config) (registry : Registry) : Prop where
  /-- The capacity of a tab that is made. -/
  capacity_fresh : registry.fresh.capacity = config.defaultCapacity
  /-- No channel is selected on it. -/
  samples?_fresh (channel : String) : registry.fresh.samples? channel = none
  /-- The factor of zooming. -/
  capacityScale_eq : registry.capacityScale = config.capacityScale
  /-- The least capacity of zooming. -/
  minCapacity_eq : registry.minCapacity = config.minCapacity

/-- **Tabs follow an account**: there is the tab just if there is an account, and it is as the
account says. -/
structure Follows (config : Config) (name channel : String) (registry : Registry)
    (account : Option Account) : Prop where
  /-- The registry goes by the config. -/
  isSetUp : registry.IsSetUp config
  /-- The tab is as the account says. -/
  tab : Option.Rel (Tab.Accords channel) (registry.tabs.find? name) account

theorem IsSetUp.serve (h : registry.IsSetUp config) (request : Request) :
    (registry.serve request).1.IsSetUp config := by
  cases request with
  | record tab other batch =>
    rcases hfind : registry.tabs.find? tab with - | found
    · simp only [Registry.serve, record_of_none hfind]
      exact h
    · simp only [Registry.serve, record_of_some hfind]
      exact ⟨h.1, h.2, h.3, h.4⟩
  | resize tab capacity =>
    simp only [Registry.serve, Registry.resize]
    split <;> exact ⟨h.1, h.2, h.3, h.4⟩
  | _ => exact ⟨h.1, h.2, h.3, h.4⟩

namespace Follows

/-- A tab that is made when it is named is as a new account says. -/
theorem tabOrFresh (h : Follows config name channel registry account) :
    (registry.tabOrFresh name).Accords channel (account.getD (.new config)) := by
  have htab := h.tab
  rw [Registry.tabOrFresh]
  generalize registry.tabs.find? name = found at htab
  cases htab with
  | none =>
    refine ⟨h.isSetUp.capacity_fresh, ?_⟩
    show Option.Rel _ (registry.fresh.samples? channel) none
    rw [h.isSetUp.samples?_fresh]
    exact .none
  | some htab => exact htab

/-- A tab may be put in along with its account, and another tab without. -/
theorem insert (h : Follows config name channel registry account) {other : String} {tab : Tab}
    {after : Account} (htab : other = name → tab.Accords channel after) :
    Option.Rel (Tab.Accords channel) ((registry.tabs.insert other tab).find? name)
      (if other = name then some after else account) := by
  rw [ByName.find?_insert]
  by_cases hname : other = name
  · rw [if_pos hname, if_pos hname.symm]
    exact .some (htab hname)
  · rw [if_neg hname, if_neg (Ne.symm hname)]
    exact h.tab

/-- Samples do the same to the tab and to the account. -/
theorem record (h : Follows config name channel registry account) (tab other : String)
    (batch : List (Sample Float)) :
    Option.Rel (Tab.Accords channel) ((registry.record tab other batch).1.tabs.find? name)
      (Account.serve config name channel account (.record tab other batch)) := by
  have htab := h.tab
  rw [Account.serve]
  by_cases hname : tab = name
  · subst hname
    rcases hfind : registry.tabs.find? tab with - | found
    · -- without the tab there is no account of it
      rw [hfind] at htab
      cases htab
      rw [record_of_none hfind, hfind]
      split <;> exact .none
    · rw [hfind] at htab
      obtain ⟨htab⟩ := htab
      rw [record_of_some hfind, putTab, ByName.find?_insert_self]
      by_cases hother : other = channel
      · subst hother
        rw [if_pos ⟨rfl, rfl⟩]
        exact .some (htab.record batch _)
      · rw [if_neg fun hboth => hother hboth.2]
        exact .some (htab.record_of_ne hother batch _)
  · -- samples for another tab leave this one as it is
    have hsame :
        (registry.record tab other batch).1.tabs.find? name = registry.tabs.find? name := by
      rcases hfind : registry.tabs.find? tab with - | found
      · rw [record_of_none hfind]
      · rw [record_of_some hfind, putTab, ByName.find?_insert_of_ne _ (Ne.symm hname)]
    rw [if_neg fun hboth => hname hboth.1, hsame]
    exact htab

/-- A capacity that is asked for does the same to the tab and to the account, allowed or
not. -/
theorem resize (h : Follows config name channel registry account) (tab : String)
    (capacity : Nat) :
    Option.Rel (Tab.Accords channel) ((registry.resize tab capacity).1.tabs.find? name)
      (Account.serve config name channel account (.resize tab capacity)) := by
  simp only [Account.serve, Registry.resize, Channels.resize?]
  by_cases hpos : 0 < capacity
  · rw [dif_pos hpos]
    refine h.insert ?_
    rintro rfl
    rw [if_pos hpos]
    exact h.tabOrFresh.resize hpos _
  · rw [dif_neg hpos]
    refine h.insert ?_
    rintro rfl
    rw [if_neg hpos]
    exact h.tabOrFresh

/-- **Every request** does the same to the tabs and to the account. -/
theorem serve (h : Follows config name channel registry account) (request : Request) :
    Follows config name channel (registry.serve request).1
      (Account.serve config name channel account request) where
  isSetUp := h.isSetUp.serve request
  tab := by
    cases request with
    | fulfil request =>
      refine h.insert ?_
      rintro rfl
      exact h.tabOrFresh.fulfil _ _ _
    | record tab other batch => exact h.record tab other batch
    | resize tab capacity => exact h.resize tab capacity
    | zoom tab grow =>
      refine h.insert ?_
      rintro rfl
      have htab := h.tabOrFresh
      rw [← h.isSetUp.capacityScale_eq, ← h.isSetUp.minCapacity_eq, ← htab.capacity]
      exact htab.resize (zoomedCapacity_pos ..) _
    | touch tab =>
      refine h.insert ?_
      rintro rfl
      exact h.tabOrFresh
    | remove tab =>
      show Option.Rel _ ((registry.tabs.erase tab).find? name) _
      rw [ByName.find?_erase, Account.serve]
      by_cases hname : tab = name
      · rw [if_pos hname, if_pos hname.symm]
        exact .none
      · rw [if_neg hname, if_neg (Ne.symm hname)]
        exact h.tab
    | takePictures =>
      show Option.Rel _ (registry.clean.tabs.find? name) account
      have htab := h.tab
      rw [find?_clean]
      generalize registry.tabs.find? name = found at htab ⊢
      cases htab with
      | none => exact .none
      | some htab => exact .some ⟨htab.capacity, htab.ring⟩

theorem after (h : Follows config name channel registry account) (requests : List Request) :
    Follows config name channel (registry.after requests)
      (requests.foldl (Account.serve config name channel) account) := by
  induction requests generalizing registry account with
  | nil => exact h
  | cons request rest ih => exact ih (h.serve request)

end Follows

end Registry

/-! ### Where accounts begin -/

namespace Channels

/-- No sample has been given to any channel. -/
def IsUntouched (set : Channels Float) : Prop :=
  ∀ channel ring, set.samples? channel = some ring → ring.Holds set.capacity .empty

variable {set : Channels Float}

theorem IsUntouched.resize (h : set.IsUntouched) {capacity : Nat} (hpos : 0 < capacity) :
    (set.resize capacity hpos).IsUntouched := by
  intro channel ring hring
  rw [samples?_resize] at hring
  obtain ⟨before, hbefore, rfl⟩ := Option.map_eq_some_iff.1 hring
  exact (h channel before hbefore).resize capacity hpos

theorem IsUntouched.select (h : set.IsUntouched) (channel : String) (palette : Palette) :
    (set.select channel palette).1.IsUntouched := by
  intro other ring hring
  rw [capacity_select]
  rw [samples?_select] at hring
  split at hring
  · cases hbefore : set.samples? channel with
    | none =>
      rw [hbefore] at hring
      obtain rfl := Option.some.inj hring
      exact .new set.capacity_pos
    | some before =>
      rw [hbefore] at hring
      obtain rfl := Option.some.inj hring
      exact h channel before hbefore
  · exact h other ring hring

end Channels

namespace Registry

variable {config : Config} {palette : Palette} {registry : Registry} {name channel : String}

theorem IsInitial.isSetUp (h : IsInitial config palette registry) : registry.IsSetUp config := by
  refine h.keeps (IsSetUp config) ?_ ?_
  · intro bare hbare
    rw [new?, Channels.new?] at hbare
    split at hbare
    · obtain rfl := Except.ok.inj hbare
      exact ⟨rfl, fun _ => rfl, rfl, rfl⟩
    · cases hbare
  · intro before after entry hbefore hafter
    obtain ⟨resized, -, rfl⟩ := exists_of_applyTabSettings hafter
    exact ⟨hbefore.1, hbefore.2, hbefore.3, hbefore.4⟩

/-- **What holds of a set without channels**, and is kept by another capacity and by selecting,
holds of the channels of all tabs to begin with. -/
theorem IsInitial.keeps_channels (h : IsInitial config palette registry)
    (keeps : Channels Float → Prop) (hnew : ∀ capacity hpos, keeps (.new capacity hpos))
    (hresize : ∀ set capacity hpos, keeps set → keeps (set.resize capacity hpos))
    (hselect : ∀ set channel palette, keeps set → keeps (set.select channel palette).1) {tab : Tab}
    (hfind : registry.tabs.find? name = some tab) : keeps tab.channels := by
  have hselectAll (channels : List String) (set : Channels Float) (palette : Palette)
      (hset : keeps set) : keeps (selectAll set channels palette).1 := by
    rw [selectAll]
    induction channels generalizing set palette with
    | nil => exact hset
    | cons channel rest ih => exact ih _ _ (hselect set channel palette hset)
  refine (h.keeps (fun registry => keeps registry.fresh ∧
    ∀ name tab, registry.tabs.find? name = some tab → keeps tab.channels) ?_ ?_).2 _ _ hfind
  · intro bare hbare
    rw [new?, Channels.new?] at hbare
    split at hbare
    · obtain rfl := Except.ok.inj hbare
      exact ⟨hnew _ _, fun name tab hfind => absurd hfind.symm (Option.some_ne_none tab)⟩
    · cases hbare
  · rintro before after entry ⟨hfresh, htabs⟩ hafter
    obtain ⟨resized, hresized, rfl⟩ := exists_of_applyTabSettings hafter
    refine ⟨hfresh, fun name tab hfind => ?_⟩
    have hbefore : keeps (before.tabOrFresh entry.name).channels := by
      rw [tabOrFresh]
      cases hentry : before.tabs.find? entry.name with
      | none => exact hfresh
      | some found => exact htabs _ found hentry
    rw [ByName.find?_insert] at hfind
    split at hfind
    · obtain rfl := Option.some.inj hfind
      refine hselectAll entry.channels resized before.palette ?_
      rcases hresized with ⟨-, rfl⟩ | ⟨capacity, hpos, -, rfl⟩
      · exact hbefore
      · exact hresize _ capacity hpos hbefore
    · exact htabs name tab hfind

/-- To begin with no sample has been given to any channel. -/
theorem IsInitial.isUntouched (h : IsInitial config palette registry) {tab : Tab}
    (hfind : registry.tabs.find? name = some tab) : tab.channels.IsUntouched :=
  h.keeps_channels Channels.IsUntouched
    (fun _ _ _ ring hring => absurd hring.symm (Option.some_ne_none ring))
    (fun _ _ hpos hset => hset.resize hpos)
    (fun _ channel palette hset => hset.select channel palette) hfind

/-- The account of a channel to which no sample has been given. -/
def account? (registry : Registry) (name channel : String) : Option Account :=
  (registry.tabs.find? name).map fun tab =>
    ⟨tab.channels.capacity, (tab.channels.samples? channel).map fun _ => .empty⟩

theorem IsInitial.follows (h : IsInitial config palette registry) (name channel : String) :
    Follows config name channel registry (registry.account? name channel) where
  isSetUp := h.isSetUp
  tab := by
    rw [account?]
    cases hfind : registry.tabs.find? name with
    | none => exact .none
    | some tab =>
      refine .some ⟨rfl, ?_⟩
      dsimp only
      cases hring : tab.channels.samples? channel with
      | none => exact .none
      | some ring => exact .some (h.isUntouched hfind channel ring hring)

/-! ### Requests that leave a ring alone -/

/-- **A request spares a channel of a tab**: it is about another tab, or other channels of the
tab, or colors, sizes, the tab on the screen and pictures only; or it asks that the channel be
selected or deselected as it is, or for a capacity that is not allowed. -/
def Request.Spares (registry : Registry) (name channel : String) : Request → Prop
  | .fulfil request => request.name = name →
    request.clear ≠ some true ∧
      (request.channel = some channel →
        request.state = none ∨ request.state = some (registry.ring? name channel).isSome)
  | .record tab other _ => tab = name → other ≠ channel
  | .resize tab capacity => tab = name → capacity = 0
  | .zoom tab _ => tab ≠ name
  | .touch _ => True
  | .remove tab => tab ≠ name
  | .takePictures => True

/-- A tab that is made when it is named has no ring. -/
theorem IsSetUp.samples?_tabOrFresh (h : registry.IsSetUp config) (name channel : String) :
    (registry.tabOrFresh name).channels.samples? channel = registry.ring? name channel := by
  rw [tabOrFresh, ring?]
  cases registry.tabs.find? name with
  | none => exact h.samples?_fresh channel
  | some tab => rfl

/-- **A request that spares a channel leaves its ring as it is**, slot by slot. -/
theorem IsSetUp.ring?_of_spares (h : registry.IsSetUp config) {request : Request}
    (hspares : request.Spares registry name channel) :
    (registry.serve request).1.ring? name channel = registry.ring? name channel := by
  cases request with
  | fulfil request =>
    refine (registry.ring?_putTab request.name ((registry.tabOrFresh request.name).fulfil
      registry.slotRule request registry.palette).1).trans ?_
    split
    · rename_i hname
      obtain ⟨hclear, hstate⟩ := hspares hname
      rw [Tab.samples?_fulfil, hname, h.samples?_tabOrFresh]
      simp only [if_neg hclear]
      split
      · rename_i hchannel
        rcases hstate hchannel with hnone | hsame
        · rw [hnone]
        · rw [hsame]
          cases registry.ring? name channel <;> rfl
      · rfl
    · rfl
  | record tab other batch =>
    refine (registry.ring?_record tab other batch).trans (if_neg ?_)
    rintro ⟨hname, hother⟩
    exact hspares hname hother
  | resize tab capacity =>
    by_cases hname : tab = name
    · -- a capacity of zero is not allowed, so that the tab is made at most
      obtain rfl : capacity = 0 := hspares hname
      refine (registry.ring?_putTab tab _).trans ?_
      rw [if_pos hname, hname, h.samples?_tabOrFresh]
    · simp only [Registry.serve, Registry.resize]
      split <;> exact (registry.ring?_putTab tab _).trans (if_neg hname)
  | zoom tab grow => exact (registry.ring?_putTab tab _).trans (if_neg hspares)
  | touch tab =>
    refine (registry.ring?_putTab tab _).trans ?_
    split
    · rename_i hname
      rw [hname, h.samples?_tabOrFresh]
    · rfl
  | remove tab =>
    show ((registry.tabs.erase tab).find? name).bind _ = _
    rw [ByName.find?_erase_of_ne _ (Ne.symm hspares)]
    rfl
  | takePictures =>
    show (registry.clean.tabs.find? name).bind _ = _
    rw [find?_clean, ring?]
    cases registry.tabs.find? name <;> rfl

/-! ### The main statement -/

/-- What an account says of the ring and of the capacity. -/
theorem Follows.ring?_eq {account : Option Account}
    (h : Follows config name channel registry account) :
    (registry.ring? name channel).map (·.toList)
        = (account.bind Account.retained).map Retained.samples ∧
      (registry.tabs.find? name).map (fun tab => tab.channels.capacity)
        = account.map Account.capacity ∧
      ∀ ring, registry.ring? name channel = some ring →
        some ring.capacity = account.map Account.capacity := by
  have htab := h.tab
  rw [ring?]
  generalize registry.tabs.find? name = found at htab ⊢
  cases htab with
  | none => exact ⟨rfl, rfl, fun ring hring => absurd hring.symm (Option.some_ne_none _)⟩
  | @some tab account htab =>
    obtain ⟨hcapacity, hring⟩ := htab
    rw [Option.bind_some, Option.bind_some, Option.map_some, Option.map_some, hcapacity]
    generalize tab.channels.samples? channel = held at hring ⊢
    generalize account.retained = retained at hring ⊢
    cases hring with
    | none => exact ⟨rfl, rfl, fun ring hring => absurd hring.symm (Option.some_ne_none _)⟩
    | some hheld =>
      refine ⟨congrArg some hheld.toList, rfl, ?_⟩
      rintro ring ⟨⟩
      exact congrArg some hheld.capacity

/-- **What is remembered of a channel.** From a registry as it is to begin with, let any
requests be made, and look at any channel of any tab. Its ring, which it has just if it is
selected, holds the last of the samples given to it since it was last made or emptied, as many
as the account says, and has the capacity of its tab. Requests that spare the channel leave
its ring as it is. And a channel that is deselected and selected again starts out with an
empty ring. -/
theorem ring?_after (h : IsInitial config palette registry) (requests : List Request)
    (name channel : String) :
    let now := registry.after requests
    let account := requests.foldl (Account.serve config name channel)
      (registry.account? name channel)
    (now.ring? name channel).map (·.toList)
        = (account.bind Account.retained).map Retained.samples ∧
      (now.tabs.find? name).map (fun tab => tab.channels.capacity)
        = account.map Account.capacity ∧
      (∀ ring, now.ring? name channel = some ring →
        some ring.capacity = account.map Account.capacity) ∧
      (∀ request : Request, request.Spares now name channel →
        (now.serve request).1.ring? name channel = now.ring? name channel) ∧
      ∀ drop select : PlotRequest,
        drop.name = name → drop.channel = some channel → drop.state = some false →
        select.name = name → select.channel = some channel → select.state = some true →
        ∃ ring, (now.after [.fulfil drop, .fulfil select]).ring? name channel = some ring ∧
          ring.toList = [] := by
  intro now account
  have hnow : Follows config name channel now account :=
    (h.follows name channel).after requests
  obtain ⟨hring, hcapacity, hroom⟩ := hnow.ring?_eq
  refine ⟨hring, hcapacity, hroom, fun request => hnow.isSetUp.ring?_of_spares, ?_⟩
  intro drop select hname hdrop hdropped hname' hselect hselected
  obtain ⟨hring, -, -⟩ := (hnow.after [.fulfil drop, .fulfil select]).ring?_eq
  simp only [List.foldl_cons, List.foldl_nil, Account.serve, if_pos hname, if_pos hname',
    Option.getD_some, Option.bind_some] at hring
  rw [Account.retained_select _ (Account.retained_drop _ hdrop hdropped) hselect hselected,
    Option.map_some] at hring
  exact Option.map_eq_some_iff.1 hring

/-- Three samples are given to a ring with room for two, one is given to a channel that is not
selected, and one after the ring has been given room for four. -/
theorem ring?_after_onePlot :
    ∃ registry, IsInitial onePlot ⟨0⟩ registry ∧
      let now := registry.after
        [.record "power" "volts" [⟨1.0, 10.0⟩, ⟨2.0, 20.0⟩, ⟨3.0, 30.0⟩],
          .record "power" "amps" [⟨9.0, 35.0⟩], .resize "power" 4,
          .fulfil (.coloring "power" "volts" "#ff0000"),
          .record "power" "volts" [⟨4.0, 40.0⟩]]
      (now.ring? "power" "volts").map (·.toList)
          = some [⟨2.0, 20.0⟩, ⟨3.0, 30.0⟩, ⟨4.0, 40.0⟩] ∧
        (now.tabs.find? "power").map (fun tab => tab.channels.capacity) = some 4 ∧
        (now.serve (.fulfil (.selecting "power" "volts" true))).1.ring? "power" "volts"
          = now.ring? "power" "volts" ∧
        ∃ ring, (now.after [.fulfil (.selecting "power" "volts" false),
            .fulfil (.selecting "power" "volts" true)]).ring? "power" "volts" = some ring ∧
          ring.toList = [] := by
  have hinitial : IsInitial onePlot ⟨0⟩ _ := Or.inr (show ofConfig? onePlot ⟨0⟩ = .ok _ from rfl)
  refine ⟨_, hinitial, ?_⟩
  intro now
  obtain ⟨hring, hcapacity, -, hspares, hagain⟩ := ring?_after hinitial
    [.record "power" "volts" [⟨1.0, 10.0⟩, ⟨2.0, 20.0⟩, ⟨3.0, 30.0⟩],
      .record "power" "amps" [⟨9.0, 35.0⟩], .resize "power" 4,
      .fulfil (.coloring "power" "volts" "#ff0000"),
      .record "power" "volts" [⟨4.0, 40.0⟩]] "power" "volts"
  refine ⟨hring.trans (by decide +kernel), hcapacity.trans (by decide +kernel),
    hspares _ fun _ => ⟨by decide, fun _ => Or.inr (by decide +kernel)⟩,
    hagain _ _ rfl rfl rfl rfl rfl rfl⟩

end Registry

end StripChart
