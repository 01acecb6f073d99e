import StripChart.Proofs.Delivery
import StripChart.Snapshot

/-!
# Tabs that are marked when they change

A snapshot is not drawn anew from the tabs but patched: with new pictures of the tabs that
are dirty. This is enough only if a tab is marked dirty whenever something changes that
its picture shows. Two notions say so.

*Marked* are the tabs that come of others by changes that mark what they change
(`Marked`): in the place of a tab there is the same tab again, or a dirty one. All that a
registry can be asked for does no more than this (`Registry.marked_record`,
`Registry.marked_fulfil`, `Registry.marked_resize`, `Registry.marked_zoom`), save for
taking a tab away.

*In step* are tabs and pictures if there is a tab to every picture, and the picture of
every tab that is not dirty is as it would be drawn now (`InStep`). Changes that mark what
they change keep tabs and pictures in step, and patching makes the pictures those of all
tabs (`InStep.find?_insertAll`).
-/

namespace StripChart

variable {tabs after : ByName Tab} {pictures : ByName Picture}

/-! ### Changes that mark what they change -/

/-- The tabs that come of others by putting in tabs that are dirty, or there already. -/
inductive Marked (tabs : ByName Tab) : ByName Tab → Prop
  /-- Nothing has changed. -/
  | refl : Marked tabs tabs
  /-- One more tab is put in. -/
  | put {after : ByName Tab} {tab : Tab} (name : String) (h : Marked tabs after)
    (htab : tab.dirty = true ∨ after.find? name = some tab) : Marked tabs (after.insert name tab)

/-- Samples for a channel that is not selected change nothing. -/
theorem Channels.record_of_false {α : Type} [Scalar α] (set : Channels α) {channels : Channels α}
    {channel : String} {batch : List (Sample α)}
    (h : set.record channel batch = (channels, false)) : channels = set := by
  rw [record] at h
  split at h
  · exact nomatch h
  · exact (Prod.mk.inj h).1.symm

namespace Registry

theorem tabOrFresh_dirty_or (registry : Registry) (name : String) :
    (registry.tabOrFresh name).dirty = true ∨
      registry.tabs.find? name = some (registry.tabOrFresh name) := by
  rw [tabOrFresh]
  cases registry.tabs.find? name with
  | none => exact Or.inl rfl
  | some tab => exact Or.inr rfl

/-- What recording does to a tab that is there. -/
theorem record_of_some {registry : Registry} {name : String} {tab : Tab}
    (h : registry.tabs.find? name = some tab) (channel : String) (batch : List (Sample Float)) :
    registry.record name channel batch
      = (registry.putTab name { tab with
            channels := (tab.channels.record channel batch).1
            dirty := tab.dirty || (tab.channels.record channel batch).2 },
          (tab.channels.record channel batch).2) := by
  simp only [record, h]

theorem record_of_none {registry : Registry} {name : String}
    (h : registry.tabs.find? name = none) (channel : String) (batch : List (Sample Float)) :
    registry.record name channel batch = (registry, false) := by
  simp only [record, h]

/-- Samples that are recorded mark their tab. Those that are not leave it as it is. -/
theorem marked_record (registry : Registry) (name channel : String)
    (batch : List (Sample Float)) :
    Marked registry.tabs (registry.record name channel batch).1.tabs := by
  rcases htab : registry.tabs.find? name with - | tab
  · rw [record_of_none htab]
    exact .refl
  · rw [record_of_some htab]
    refine .put name .refl ?_
    rcases hrecord : tab.channels.record channel batch with ⟨channels, recorded⟩
    cases recorded with
    | false =>
      obtain rfl : channels = tab.channels := tab.channels.record_of_false hrecord
      exact Or.inr (by rw [htab, Bool.or_false])
    | true => exact Or.inl (Bool.or_true _)

/-- A request marks the tab that it names. -/
theorem marked_fulfil (registry : Registry) (request : PlotRequest) :
    Marked registry.tabs (registry.fulfil request).1.tabs :=
  .put request.name .refl (Or.inl rfl)

/-- A new capacity marks its tab. One that is not allowed makes the tab at most. -/
theorem marked_resize (registry : Registry) (name : String) (capacity : Nat) :
    Marked registry.tabs (registry.resize name capacity).1.tabs := by
  unfold resize
  dsimp only
  cases (registry.tabOrFresh name).channels.resize? capacity with
  | ok channels => exact .put name .refl (Or.inl rfl)
  | error fault => exact .put name .refl (registry.tabOrFresh_dirty_or name)

/-- Zooming marks its tab. -/
theorem marked_zoom (registry : Registry) (name : String) (grow : Bool) :
    Marked registry.tabs (registry.zoom name grow).1.tabs :=
  .put name .refl (Or.inl rfl)

end Registry

theorem Marked.trans {later : ByName Tab} (h : Marked tabs after) (h' : Marked after later) :
    Marked tabs later := by
  induction h' with
  | refl => exact h
  | put name _ htab ih => exact ih.put name htab

/-- **Frames mark the tabs that they change.** -/
theorem Engine.marked_takeFrames (engine : Engine) (frames : List Received) :
    Marked engine.registry.tabs (Machine.run takeFrame engine frames).1.registry.tabs :=
  registry_takeFrames (fun registry => Marked engine.registry.tabs registry.tabs)
    (fun registry tab channel batch h => h.trans (registry.marked_record tab channel batch))
    (fun registry request h => h.trans (registry.marked_fulfil request)) .refl frames

/-- A delivery unit marks the tabs that it changes. -/
theorem Engine.marked_receive (engine : Engine) (unit : Bytes) :
    Marked engine.registry.tabs (engine.receive unit).1.registry.tabs := by
  by_cases hopen : engine.endpoint.connection.isOpen = true
  · rcases hunit : engine.endpoint.splitter.receive unit with ⟨fault | frames, splitter⟩
    · rw [receive_of_error hopen hunit]
      exact .refl
    · rw [receive_of_ok hopen hunit]
      exact marked_takeFrames engine frames
  · rw [receive, if_neg hopen]
    exact .refl

/-! ### Tabs and pictures in step -/

/-- **Tabs and pictures in step.** -/
structure InStep (tabs : ByName Tab) (pictures : ByName Picture) : Prop where
  /-- There is a tab to every picture. -/
  tab_of_picture {name : String} :
    (pictures.find? name).isSome = true → (tabs.find? name).isSome = true
  /-- The picture of a tab that is not dirty is as it would be drawn now. -/
  picture_of_clean {name : String} {tab : Tab} :
    tabs.find? name = some tab → tab.dirty = false → pictures.find? name = some (tab.picture name)

namespace InStep

theorem insert (h : InStep tabs pictures) (name : String) {tab : Tab}
    (htab : tab.dirty = true ∨ tabs.find? name = some tab) :
    InStep (tabs.insert name tab) pictures where
  tab_of_picture {other} hpicture := by
    rw [ByName.find?_insert]
    split
    · rfl
    · exact h.tab_of_picture hpicture
  picture_of_clean {other found} hfind hclean := by
    rw [ByName.find?_insert] at hfind
    split at hfind
    · rename_i heq
      obtain rfl := Option.some.inj hfind
      rcases htab with hdirty | hold
      · rw [hdirty] at hclean
        exact nomatch hclean
      · rw [heq]
        exact h.picture_of_clean hold hclean
    · exact h.picture_of_clean hfind hclean

/-- **What marks the tabs that it changes keeps tabs and pictures in step.** -/
theorem of_marked (h : InStep tabs pictures) (hmarked : Marked tabs after) :
    InStep after pictures := by
  induction hmarked with
  | refl => exact h
  | put name _ htab ih => exact ih.insert name htab

/-- A tab may be taken away along with its picture. -/
theorem erase (h : InStep tabs pictures) (name : String) :
    InStep (tabs.erase name) (pictures.erase name) where
  tab_of_picture {other} hpicture := by
    rw [ByName.find?_erase] at hpicture ⊢
    split at hpicture
    · exact nomatch hpicture
    · rename_i hne
      rw [if_neg hne]
      exact h.tab_of_picture hpicture
  picture_of_clean {other found} hfind hclean := by
    rw [ByName.find?_erase] at hfind ⊢
    split at hfind
    · exact nomatch hfind
    · rename_i hne
      rw [if_neg hne]
      exact h.picture_of_clean hfind hclean

end InStep

/-! ### The tabs of a config

No picture has ever been taken of the tabs that a config describes, and they all are dirty. -/

/-- A computation gives something only if its first part does. -/
theorem exists_of_bind_eq_ok {ε α β : Type} {first : Except ε α} {rest : α → Except ε β} {b : β}
    (h : (do let a ← first; rest a) = .ok b) : ∃ a, first = .ok a ∧ rest a = .ok b := by
  cases first with
  | error e => exact nomatch h
  | ok a => exact ⟨a, rfl, h⟩

namespace Registry

/-- All tabs are dirty. -/
def AllDirty (registry : Registry) : Prop :=
  ∀ name tab, registry.tabs.find? name = some tab → tab.dirty = true

theorem AllDirty.tabOrFresh {registry : Registry} (h : registry.AllDirty) (name : String) :
    (registry.tabOrFresh name).dirty = true := by
  rcases registry.tabOrFresh_dirty_or name with hdirty | hfind
  · exact hdirty
  · exact h name _ hfind

/-- **What the settings of a tab do**: they give the tab their capacity, if they name one, and
then select their channels. -/
theorem exists_of_applyTabSettings {registry after : Registry} {entry : TabSettings}
    (h : registry.applyTabSettings entry = .ok after) :
    ∃ resized,
      (entry.capacity = none ∧ resized = (registry.tabOrFresh entry.name).channels ∨
        ∃ capacity hpos, entry.capacity = some capacity ∧
          resized = (registry.tabOrFresh entry.name).channels.resize capacity hpos) ∧
      after = { registry with
        shown := if entry.shown then some entry.name else registry.shown
        palette := (selectAll resized entry.channels registry.palette).2
        tabs := registry.tabs.insert entry.name { registry.tabOrFresh entry.name with
          channels := (selectAll resized entry.channels registry.palette).1 } } := by
  rw [applyTabSettings] at h
  rcases hcapacity : entry.capacity with - | capacity
  · rw [hcapacity] at h
    obtain ⟨resized, hresized, h⟩ := exists_of_bind_eq_ok h
    exact ⟨resized, Or.inl ⟨rfl, (Except.ok.inj hresized).symm⟩, (Except.ok.inj h).symm⟩
  · rw [hcapacity] at h
    obtain ⟨resized, hresized, h⟩ := exists_of_bind_eq_ok h
    obtain ⟨hpos, hresized⟩ := Channels.resize?_eq_ok_iff.1 hresized
    exact ⟨resized, Or.inr ⟨capacity, hpos, rfl, hresized⟩, (Except.ok.inj h).symm⟩

theorem AllDirty.applyTabSettings {registry after : Registry} (h : registry.AllDirty)
    {entry : TabSettings} (hafter : registry.applyTabSettings entry = .ok after) :
    after.AllDirty := by
  obtain ⟨resized, -, rfl⟩ := exists_of_applyTabSettings hafter
  intro name tab hfind
  rw [ByName.find?_insert] at hfind
  split at hfind
  · obtain rfl := Option.some.inj hfind
    exact h.tabOrFresh entry.name
  · exact h name tab hfind

theorem allDirty_new? {config : Config} {palette : Palette} {registry : Registry}
    (h : new? config palette = .ok registry) : registry.AllDirty := by
  rw [new?, Channels.new?] at h
  split at h
  · obtain rfl := Except.ok.inj h
    intro name tab hfind
    exact nomatch hfind
  · exact nomatch h

/-- **What holds of a registry without tabs, and is kept by the settings of every tab, holds
of the registry that a config describes.** -/
theorem keeps_ofConfig? (keeps : Registry → Prop) {config : Config} {palette : Palette}
    {registry : Registry} (hnew : ∀ bare, new? config palette = .ok bare → keeps bare)
    (hsettings : ∀ before after entry, keeps before →
      applyTabSettings before entry = .ok after → keeps after)
    (h : ofConfig? config palette = .ok registry) : keeps registry := by
  obtain ⟨bare, hbare, hfold⟩ := exists_of_bind_eq_ok h
  have hkeeps := hnew bare hbare
  generalize config.tabs = entries at hfold
  clear hbare
  induction entries generalizing bare with
  | nil =>
    obtain rfl := Except.ok.inj hfold
    exact hkeeps
  | cons entry rest ih =>
    rw [List.foldlM_cons] at hfold
    obtain ⟨mid, hmid, hrest⟩ := exists_of_bind_eq_ok hfold
    exact ih mid (hsettings bare mid entry hkeeps hmid) hrest

/-- **The tabs that a config describes all are dirty.** -/
theorem allDirty_ofConfig? {config : Config} {palette : Palette} {registry : Registry}
    (h : ofConfig? config palette = .ok registry) : registry.AllDirty :=
  keeps_ofConfig? AllDirty (fun _ => allDirty_new?) (fun _ _ _ hdirty => hdirty.applyTabSettings) h

/-- With all tabs dirty there need not be any pictures yet. -/
theorem AllDirty.inStep {registry : Registry} (h : registry.AllDirty) :
    InStep registry.tabs ByName.empty where
  tab_of_picture hpicture := nomatch hpicture
  picture_of_clean hfind hclean := by
    rw [h _ _ hfind] at hclean
    exact nomatch hclean

end Registry

/-! ### Taking pictures -/

/-- The picture of a tab as it would be drawn now, if there is such a tab. -/
def Registry.picture? (registry : Registry) (name : String) : Option Picture :=
  (registry.tabs.find? name).map (Tab.picture · name)

/-- The pictures of the dirty ones among some tabs, in their order. -/
def Entries.dirtyPictures (entries : List (String × Tab)) : List Picture :=
  entries.filterMap fun entry =>
    if entry.2.dirty then some (entry.2.picture entry.1) else none

/-- Patching gives a picture of its own to every dirty tab, and leaves other pictures. -/
theorem Entries.find?_insertAll_dirtyPictures {entries : List (String × Tab)} (h : Sorted entries)
    (pictures : ByName Picture) (name : String) :
    (Snapshot.insertAll pictures (dirtyPictures entries)).find? name
      = (((find? name entries).filter Tab.dirty).map (Tab.picture · name)).or
          (pictures.find? name) := by
  induction entries generalizing pictures with
  | nil => rfl
  | cons entry rest ih =>
    obtain ⟨hlt, hrest⟩ := List.pairwise_cons.1 h
    have hcons : Snapshot.insertAll pictures (dirtyPictures (entry :: rest))
        = Snapshot.insertAll
            (if entry.2.dirty then pictures.insert entry.1 (entry.2.picture entry.1) else pictures)
            (dirtyPictures rest) := by
      unfold dirtyPictures
      rw [List.filterMap_cons]
      cases entry.2.dirty <;> rfl
    rw [hcons, ih hrest, find?]
    by_cases hname : name = entry.1
    · -- the tabs after this one have other names, so they do not touch its picture again
      rw [if_pos hname, find?_eq_none_of_forall_lt (hname ▸ hlt), hname]
      cases hdirty : entry.2.dirty with
      | false =>
        rw [Option.filter_some_neg hdirty]
        rfl
      | true =>
        rw [Option.filter_some_pos hdirty]
        exact ByName.find?_insert_self _ _ _
    · rw [if_neg hname]
      have hother : (if entry.2.dirty then pictures.insert entry.1 (entry.2.picture entry.1)
          else pictures).find? name = pictures.find? name := by
        split
        · exact ByName.find?_insert_of_ne _ hname _
        · rfl
      rw [hother]

/-- **Patching brings all pictures up to date**, if they have been in step before. -/
theorem InStep.find?_insertAll {registry : Registry} (h : InStep registry.tabs pictures)
    (name : String) :
    (Snapshot.insertAll pictures registry.dirtyPictures).find? name = registry.picture? name := by
  refine (Entries.find?_insertAll_dirtyPictures registry.tabs.sorted pictures name).trans ?_
  show (((registry.tabs.find? name).filter Tab.dirty).map (Tab.picture · name)).or
    (pictures.find? name) = (registry.tabs.find? name).map (Tab.picture · name)
  rcases hfind : registry.tabs.find? name with - | tab
  · -- without a tab there has been no picture
    cases hpicture : pictures.find? name with
    | none => rfl
    | some picture =>
      have hsome := h.tab_of_picture (Option.isSome_of_eq_some hpicture)
      rw [hfind] at hsome
      exact nomatch hsome
  · cases hdirty : tab.dirty with
    | false =>
      rw [Option.filter_some_neg hdirty]
      exact h.picture_of_clean hfind hdirty
    | true =>
      rw [Option.filter_some_pos hdirty]
      rfl

end StripChart
