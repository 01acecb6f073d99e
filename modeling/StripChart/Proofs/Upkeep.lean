import StripChart.Proofs.Channels

/-!
# What a set of channels keeps twice

A set of channels holds three things that could be found from others. Its capacity is that of
every ring in it; its window is the one that covers all samples; and the color of a selected
channel stands beside its ring as well as among the colors that are kept. Each is brought up
to date by some of the requests and not touched by the others, so it is not to be seen from
any single request that all three stay right.

They do (`Channels.exists_new?_coherent`). For the capacity and the window this is a property
of the set alone (`Channels.Coherent`), and the one fact that carries it is that a window does
not depend on channels without samples: putting in a value from which nothing is taken leaves
what is taken from the values of a table (`ByName.filterMap_values_insert`). So selecting a
channel and giving it a color may leave the window as it was. For the colors it is a property
of the set and of what has been asked of it, the last color asked for
(`Channels.lastColor?`).
-/

namespace StripChart

/-! ### What is taken from the values of a table -/

section Values

variable {β γ : Type}

/-- **Putting a value in** leaves what is taken from all values, if as much is taken from it
as from the one in its place. -/
theorem Entries.filterMap_insert (f : β → Option γ) {name : String} {value : β}
    {entries : List (String × β)} (hsorted : Sorted entries)
    (h : (find? name entries).bind f = f value) :
    (insert name value entries).filterMap (fun entry => f entry.2)
      = entries.filterMap fun entry => f entry.2 := by
  induction entries with
  | nil =>
    have hnone : f value = none := h.symm
    simp [insert, hnone]
  | cons head rest ih =>
    obtain ⟨hlt, hrest⟩ := List.pairwise_cons.1 hsorted
    rw [insert]
    split
    · -- all names are greater, so that there is none in its place
      rename_i hless
      have hnot : find? name (head :: rest) = none :=
        find?_eq_none_of_forall_lt fun entry hmem => by
          rcases List.mem_cons.1 hmem with rfl | hmem
          · exact hless
          · exact String.lt_trans hless (hlt entry hmem)
      have hnone : f value = none := by rw [← h, hnot, Option.bind_none]
      rw [List.filterMap_cons, hnone]
    · rename_i hless
      rw [find?] at h
      split
      · rename_i heq
        rw [if_pos heq, Option.bind_some] at h
        rw [List.filterMap_cons, List.filterMap_cons, h]
      · rename_i hne
        rw [if_neg hne] at h
        rw [List.filterMap_cons, List.filterMap_cons, ih hrest h]

theorem ByName.filterMap_values_insert (f : β → Option γ) {table : ByName β} {name : String}
    {value : β} (h : (table.find? name).bind f = f value) :
    (table.insert name value).values.filterMap f = table.values.filterMap f := by
  rw [values, values, List.filterMap_map, List.filterMap_map]
  exact Entries.filterMap_insert f table.sorted h

theorem ByName.values_mapValues (f : β → γ) (table : ByName β) :
    (table.mapValues f).values = table.values.map f := by
  simp [values, mapValues, Entries.mapValues]

/-- The values are what look-ups find. -/
theorem ByName.mem_values_iff {table : ByName β} {value : β} :
    value ∈ table.values ↔ ∃ name, table.find? name = some value := by
  simp only [values, List.mem_map, find?_eq_some_iff]
  constructor
  · rintro ⟨⟨name, _⟩, hmem, rfl⟩
    exact ⟨name, hmem⟩
  · rintro ⟨name, hmem⟩
    exact ⟨(name, value), hmem, rfl⟩

end Values

variable {α : Type}

/-! ### The window of a list of samples -/

/-- The window from the first sample to the last, if there are samples. -/
def Window.ofSamples? (samples : List (Sample α)) : Option (Window α) := do
  let oldest ← samples.head?
  let newest ← samples.getLast?
  return ⟨oldest.timestamp, newest.timestamp⟩

theorem Window.ofSamples?_eq_none {samples : List (Sample α)} :
    Window.ofSamples? samples = none ↔ samples = [] := by
  cases samples with
  | nil => simp [ofSamples?]
  | cons sample rest => simp [ofSamples?, List.getLast?_cons]

theorem Window.unionAll?_eq_none [Scalar α] {windows : List (Window α)} :
    Window.unionAll? windows = none ↔ windows = [] := by
  cases windows <;> simp [unionAll?]

namespace Channels

/-- The times that a ring knows of are those of its first and its last sample. -/
theorem extent?_eq (ring : Ring α) : extent? ring = Window.ofSamples? ring.toList := by
  rw [extent?, Ring.timeRange?, ring.oldest?_eq, ring.newest?_eq, Window.ofSamples?]
  cases ring.toList.head? <;> cases ring.toList.getLast? <;> rfl

/-! ### Requests to a set of channels -/

/-- What a set of channels can be asked for. -/
inductive Request (α : Type)
  /-- To select a channel or deselect it; a new color would come from the palette. -/
  | setSelection (channel : String) (selected : Bool) (palette : Palette)
  /-- To give a channel a color. -/
  | recolor (channel : String) (color : Color)
  /-- To put samples into the ring of a channel. -/
  | record (channel : String) (batch : List (Sample α))
  /-- To change the capacity. -/
  | resize (capacity : Nat)
  /-- To change the capacity by one step. -/
  | zoom (grow : Bool) (scale : α) (minimum : Nat)
  /-- To drop all samples. -/
  | clear

section Serving

variable [Scalar α]

/-- Serves a request. A capacity that is refused leaves the set as it is. -/
def serve (set : Channels α) : Request α → Channels α
  | .setSelection channel selected palette => (set.setSelection channel selected palette).1
  | .recolor channel color => set.recolor channel color
  | .record channel batch => (set.record channel batch).1
  | .resize capacity =>
    match set.resize? capacity with
    | .ok after => after
    | .error _ => set
  | .zoom grow scale minimum => set.zoom grow scale minimum
  | .clear => set.clear

/-- The set after a row of requests. -/
def after (set : Channels α) (requests : List (Request α)) : Channels α :=
  requests.foldl serve set

theorem after_concat (set : Channels α) (requests : List (Request α)) (request : Request α) :
    set.after (requests ++ [request]) = (set.after requests).serve request :=
  List.foldl_concat ..

/-- A request for a capacity that is allowed is one for all rings, and one for another does
nothing. -/
theorem serve_resize (set : Channels α) (capacity : Nat) :
    set.serve (.resize capacity)
      = if h : 0 < capacity then set.resize capacity h else set := by
  rw [serve, resize?]
  split <;> rename_i hserve <;> split at hserve <;> rename_i hpos
  · rw [dif_pos hpos, ← Except.ok.inj hserve]
  · cases hserve
  · cases hserve
  · rw [dif_neg hpos]

/-! ### Capacity and window -/

/-- **A set of channels is coherent**: its capacity is that of its rings, and its window is
the one that covers their samples. -/
structure Coherent (set : Channels α) : Prop where
  /-- Every ring has the capacity of the set. -/
  capacity_eq {channel : String} {ring : Ring α} :
    set.samples? channel = some ring → ring.capacity = set.capacity
  /-- The window is as it would be found now. -/
  window_eq : set.window = windowOf set.plotted

variable {set : Channels α}

theorem coherent_new (capacity : Nat) (h : 0 < capacity) :
    (new capacity h : Channels α).Coherent where
  capacity_eq hring := absurd hring.symm (Option.some_ne_none _)
  window_eq := rfl

/-- A channel without samples does not count for the window. -/
theorem windowOf_insert {plotted : ByName (Channel α)} {name : String} {channel : Channel α}
    (h : ((plotted.find? name).bind fun found => extent? found.samples) = extent? channel.samples) :
    windowOf (plotted.insert name channel) = windowOf plotted :=
  congrArg Window.unionAll? (ByName.filterMap_values_insert _ h)

theorem Coherent.select (h : set.Coherent) (channel : String) (palette : Palette) :
    (set.select channel palette).1.Coherent where
  capacity_eq {other ring} hring := by
    rw [samples?_select] at hring
    rw [capacity_select]
    split at hring
    · rcases hfind : set.samples? channel with - | found
      · rw [hfind, Option.getD_none] at hring
        rw [← Option.some.inj hring, Ring.capacity_new]
      · rw [hfind, Option.getD_some] at hring
        exact h.capacity_eq (hfind.trans hring)
    · exact h.capacity_eq hring
  window_eq := by
    rw [Channels.select]
    split
    · exact h.window_eq
    · -- the new ring is empty, so that the window may stay
      rename_i hnot
      refine h.window_eq.trans (windowOf_insert ?_).symm
      rw [Option.not_isSome_iff_eq_none.1 hnot, Option.bind_none]
      rfl

theorem Coherent.deselect (h : set.Coherent) (channel : String) :
    (set.deselect channel).Coherent where
  capacity_eq {other ring} hring := by
    rw [samples?_deselect] at hring
    rw [capacity_deselect]
    split at hring
    · exact absurd hring.symm (Option.some_ne_none _)
    · exact h.capacity_eq hring
  window_eq := by
    rw [Channels.deselect]
    split
    · rfl
    · exact h.window_eq

theorem Coherent.recolor (h : set.Coherent) (channel : String) (color : Color) :
    (set.recolor channel color).Coherent where
  capacity_eq hring := h.capacity_eq ((samples?_recolor set channel color _).symm.trans hring)
  window_eq := by
    refine h.window_eq.trans ?_
    show windowOf set.plotted = windowOf (set.plotted.modify channel _)
    rw [ByName.modify]
    split
    · -- the ring is the one that was there
      rename_i found hfound
      refine (windowOf_insert ?_).symm
      rw [hfound, Option.bind_some]
    · rfl

theorem Coherent.record (h : set.Coherent) (channel : String) (batch : List (Sample α)) :
    (set.record channel batch).1.Coherent where
  capacity_eq {other ring} hring := by
    rw [samples?_record] at hring
    rw [capacity_record]
    split at hring
    · obtain ⟨found, hfound, rfl⟩ := Option.map_eq_some_iff.1 hring
      rw [Ring.capacity_pushAll]
      exact h.capacity_eq hfound
    · exact h.capacity_eq hring
  window_eq := by
    rw [Channels.record]
    split
    · rfl
    · exact h.window_eq

/-- Whatever it was before, a set that has been given another capacity is coherent. -/
theorem coherent_resize (set : Channels α) (capacity : Nat) (h : 0 < capacity) :
    (set.resize capacity h).Coherent where
  capacity_eq hring := by
    rw [samples?_resize] at hring
    obtain ⟨found, -, rfl⟩ := Option.map_eq_some_iff.1 hring
    rw [Ring.capacity_resize]
    rfl
  window_eq := rfl

theorem Coherent.clear (h : set.Coherent) : set.clear.Coherent where
  capacity_eq hring := by
    rw [samples?_clear] at hring
    obtain ⟨found, hfound, rfl⟩ := Option.map_eq_some_iff.1 hring
    rw [Ring.capacity_clear]
    exact h.capacity_eq hfound
  window_eq := by
    have hnone : set.clear.plotted.values.filterMap (fun channel => extent? channel.samples)
        = ([] : List (Window α)) := by
      rw [Channels.clear, ByName.values_mapValues, List.filterMap_map]
      exact List.filterMap_eq_nil_iff.2 fun _ _ => rfl
    rw [windowOf, hnone]
    rfl

/-- **Every request leaves a coherent set coherent.** -/
theorem Coherent.serve (h : set.Coherent) (request : Request α) : (set.serve request).Coherent := by
  cases request with
  | setSelection channel selected palette =>
    cases selected with
    | false => exact h.deselect channel
    | true => exact h.select channel palette
  | recolor channel color => exact h.recolor channel color
  | record channel batch => exact h.record channel batch
  | resize capacity =>
    rw [serve_resize]
    split
    · exact coherent_resize set capacity _
    · exact h
  | zoom grow scale minimum => exact coherent_resize set _ _
  | clear => exact h.clear

theorem Coherent.after (h : set.Coherent) (requests : List (Request α)) :
    (set.after requests).Coherent := by
  induction requests generalizing set with
  | nil => exact h
  | cons request rest ih => exact ih (h.serve request)

/-- The window, said of the samples: it joins those of the rings, in the order of the names of
their channels, each from its first sample to its last. -/
theorem Coherent.window_eq_unionAll? (h : set.Coherent) :
    set.window
      = Window.unionAll? (set.plotted.values.filterMap fun channel =>
          Window.ofSamples? channel.samples.toList) := by
  rw [h.window_eq, windowOf]
  simp only [extent?_eq]

/-- There is no window just if there are no samples. -/
theorem Coherent.window_eq_none_iff (h : set.Coherent) :
    set.window = none ↔ ∀ channel ring, set.samples? channel = some ring → ring.toList = [] := by
  rw [h.window_eq_unionAll?, Window.unionAll?_eq_none, List.filterMap_eq_nil_iff]
  simp only [Window.ofSamples?_eq_none, ByName.mem_values_iff]
  constructor
  · intro hall name ring hring
    obtain ⟨channel, hchannel, rfl⟩ := Option.map_eq_some_iff.1 hring
    exact hall channel ⟨name, hchannel⟩
  · rintro hall channel ⟨name, hchannel⟩
    refine hall name channel.samples ?_
    rw [samples?, hchannel, Option.map_some]

/-! ### Selecting -/

/-- The ring that selecting makes is never refused, as the capacity of a set is allowed. -/
theorem new?_capacity (set : Channels α) :
    Ring.new? set.capacity = .ok (Ring.new set.capacity set.capacity_pos : Ring α) :=
  dif_pos set.capacity_pos

/-- **A channel that is to be selected is selected**, whatever it was before. -/
theorem contains_setSelection_true (set : Channels α) (channel : String) (palette : Palette) :
    (set.setSelection channel true palette).1.contains channel = true := by
  have hring : (set.select channel palette).1.samples? channel ≠ none := by
    rw [samples?_select, if_pos rfl]
    exact Option.some_ne_none _
  by_contra hnot
  exact hring (samples?_of_not_contains hnot)

end Serving

/-! ### Colors -/

/-- The color that the request asks for on the channel, if it asks for one. -/
def Request.colorFor? (channel : String) : Request α → Option Color
  | .recolor name color => if name = channel then some color else none
  | _ => none

/-- The color that was asked for last on the channel, if one ever was. -/
def lastColor? (channel : String) (requests : List (Request α)) : Option Color :=
  (requests.filterMap (Request.colorFor? channel)).getLast?

theorem lastColor?_concat (channel : String) (requests : List (Request α)) (request : Request α) :
    lastColor? channel (requests ++ [request])
      = (request.colorFor? channel).or (lastColor? channel requests) := by
  rw [lastColor?, List.filterMap_append, List.getLast?_append]
  cases hcolor : request.colorFor? channel <;> simp [hcolor, lastColor?]

/-- **A channel has the color that was given to it**: it is kept, and if the channel is
selected, it is that of its line. -/
structure Wears (set : Channels α) (channel : String) (given : Option Color) : Prop where
  /-- The color is kept for the channel. -/
  kept : set.colors.find? channel = given
  /-- The line has it. -/
  drawn {found : Channel α} {color : Color} :
    set.plotted.find? channel = some found → given = some color → found.color = color

variable {set : Channels α} {channel : String} {given : Option Color}

/-- A request that keeps the colors and takes lines over or away keeps what a channel wears. -/
theorem Wears.of_plotted {after : Channels α} (h : set.Wears channel given)
    (hcolors : after.colors = set.colors)
    (hplotted : ∀ found, after.plotted.find? channel = some found →
      ∃ before, set.plotted.find? channel = some before ∧ found.color = before.color) :
    after.Wears channel given where
  kept := by rw [hcolors, h.kept]
  drawn hfound hgiven := by
    obtain ⟨before, hbefore, hcolor⟩ := hplotted _ hfound
    rw [hcolor]
    exact h.drawn hbefore hgiven

/-- What is done to all rings alike does nothing to colors. -/
theorem Wears.mapValues {after : Channels α} (h : set.Wears channel given)
    (hcolors : after.colors = set.colors) {f : Channel α → Channel α}
    (hplotted : after.plotted = set.plotted.mapValues f)
    (hf : ∀ before, (f before).color = before.color) : after.Wears channel given := by
  refine h.of_plotted hcolors fun found hfound => ?_
  rw [hplotted, ByName.find?_mapValues] at hfound
  obtain ⟨before, hbefore, rfl⟩ := Option.map_eq_some_iff.1 hfound
  exact ⟨before, hbefore, hf before⟩

theorem Wears.recolor (h : set.Wears channel given) (name : String) (color : Color) :
    (set.recolor name color).Wears channel (if name = channel then some color else given) := by
  refine ⟨?_, fun {found worn} hfound hgiven => ?_⟩
  · show (set.colors.insert name color).find? channel = _
    rw [ByName.find?_insert, h.kept]
    simp only [eq_comm]
  · rw [Channels.recolor, ByName.find?_modify] at hfound
    split at hgiven
    · rename_i heq
      rw [if_pos heq.symm] at hfound
      obtain ⟨before, -, rfl⟩ := Option.map_eq_some_iff.1 hfound
      exact Option.some.inj hgiven
    · rename_i hne
      rw [if_neg (Ne.symm hne)] at hfound
      exact h.drawn hfound hgiven

theorem Wears.color?_eq {color : Color} (h : set.Wears channel (some color)) :
    set.color? channel = some color := by
  rw [color?]
  split
  · rename_i found hfound
    rw [h.drawn hfound rfl]
  · exact h.kept

section Serving

variable [Scalar α]

theorem Wears.select (h : set.Wears channel given) (name : String) (palette : Palette) :
    (set.select name palette).1.Wears channel given := by
  rw [Channels.select]
  split
  · exact h
  · refine ⟨h.kept, fun {found color} hfound hgiven => ?_⟩
    rw [ByName.find?_insert] at hfound
    split at hfound
    · -- the channel is selected anew, in the color that was kept
      rename_i heq
      subst heq
      rw [← Option.some.inj hfound, h.kept, hgiven]
    · exact h.drawn hfound hgiven

theorem Wears.deselect (h : set.Wears channel given) (name : String) :
    (set.deselect name).Wears channel given := by
  rw [Channels.deselect]
  split
  · refine h.of_plotted rfl fun found hfound => ?_
    rw [ByName.find?_erase] at hfound
    split at hfound
    · exact absurd hfound.symm (Option.some_ne_none _)
    · exact ⟨found, hfound, rfl⟩
  · exact h

theorem Wears.record (h : set.Wears channel given) (name : String) (batch : List (Sample α)) :
    (set.record name batch).1.Wears channel given := by
  rw [Channels.record]
  split
  · rename_i before hbefore
    refine h.of_plotted rfl fun found hfound => ?_
    rw [ByName.find?_insert] at hfound
    split at hfound
    · rename_i heq
      rw [← Option.some.inj hfound]
      exact ⟨before, heq ▸ hbefore, rfl⟩
    · exact ⟨found, hfound, rfl⟩
  · exact h

/-- **Only a request for a color changes what a channel wears.** -/
theorem Wears.serve (h : set.Wears channel given) (request : Request α) :
    (set.serve request).Wears channel ((request.colorFor? channel).or given) := by
  cases request with
  | setSelection name selected palette =>
    cases selected with
    | false => exact h.deselect name
    | true => exact h.select name palette
  | recolor name color =>
    have hrecolor := h.recolor name color
    rw [Request.colorFor?]
    split <;> rename_i hname
    · rwa [if_pos hname] at hrecolor
    · rwa [if_neg hname] at hrecolor
  | record name batch => exact h.record name batch
  | resize capacity =>
    rw [serve_resize]
    split
    · exact h.mapValues rfl rfl fun _ => rfl
    · exact h
  | zoom grow scale minimum => exact h.mapValues rfl rfl fun _ => rfl
  | clear => exact h.mapValues rfl rfl fun _ => rfl

/-- From a set without colors, every channel wears the color that was asked for last. -/
theorem wears_after {capacity : Nat} (h : 0 < capacity) (requests : List (Request α))
    (channel : String) :
    ((new capacity h).after requests).Wears channel (lastColor? channel requests) := by
  induction requests using List.reverseRecOn with
  | nil => exact ⟨rfl, fun hfound _ => absurd hfound.symm (Option.some_ne_none _)⟩
  | append_singleton requests request ih =>
    rw [after_concat, lastColor?_concat]
    exact ih.serve request

/-! ### All of it -/

/-- **What a set of channels keeps twice stays right.** From a new set of any allowed
capacity, after any requests:

* The capacity is allowed and is that of every ring. So the ring that selecting asks for is
  not refused, and a channel that is to be selected is selected.
* The window is the one that covers the samples of all rings, taken in the order of the names
  of their channels; and there is none just if there are no samples.
* A channel that was ever given a color has the one that was given to it last, and if it is
  selected, its line has it.
* A request for no capacity at all is refused and changes nothing. -/
theorem exists_new?_coherent {capacity : Nat} (h : 0 < capacity) :
    ∃ fresh : Channels α, new? capacity = .ok fresh ∧ ∀ requests : List (Request α),
      let set := fresh.after requests
      (0 < set.capacity ∧
        (∀ channel ring, set.samples? channel = some ring → ring.capacity = set.capacity) ∧
        ∃ empty, Ring.new? set.capacity = .ok empty ∧ ∀ channel palette,
          (set.setSelection channel true palette).1.contains channel = true ∧
            (set.setSelection channel true palette).1.samples? channel
              = some ((set.samples? channel).getD empty)) ∧
      (set.window
          = Window.unionAll? (set.plotted.values.filterMap fun channel =>
              Window.ofSamples? channel.samples.toList) ∧
        (set.window = none ↔
          ∀ channel ring, set.samples? channel = some ring → ring.toList = [])) ∧
      (∀ channel color, lastColor? channel requests = some color →
        set.color? channel = some color ∧
          ∀ found, set.plotted.find? channel = some found → found.color = color) ∧
      set.resize? 0 = .error .zero ∧ set.serve (.resize 0) = set := by
  refine ⟨new capacity h, dif_pos h, fun requests => ?_⟩
  intro set
  have hcoherent : set.Coherent := (coherent_new capacity h).after requests
  refine ⟨⟨set.capacity_pos, fun channel ring hring => hcoherent.capacity_eq hring, _,
    set.new?_capacity, fun channel palette => ⟨set.contains_setSelection_true channel palette, ?_⟩⟩,
    ⟨hcoherent.window_eq_unionAll?, hcoherent.window_eq_none_iff⟩, fun channel color hgiven => ?_,
    rfl, rfl⟩
  · exact (set.samples?_select channel channel palette).trans (if_pos rfl)
  · have hwears : set.Wears channel (some color) := hgiven ▸ wears_after h requests channel
    exact ⟨hwears.color?_eq, fun found hfound => hwears.drawn hfound rfl⟩

end Serving

/-- A channel is given two colors, one of them while it is not selected, and selected again
after it has lost its samples. -/
def twoColors : List (Request Rat) :=
  [.setSelection "volts" true ⟨0⟩, .recolor "volts" ⟨1, 0, 0, 1⟩,
    .record "volts" [⟨5, 10⟩, ⟨7, 20⟩], .setSelection "amps" true ⟨1⟩,
    .setSelection "volts" false ⟨2⟩, .resize 0, .recolor "volts" ⟨0, 1, 0, 1⟩,
    .setSelection "volts" true ⟨3⟩, .record "amps" [⟨1, 30⟩, ⟨2, 40⟩]]

theorem exists_new?_coherent_twoColors :
    ∃ fresh : Channels Rat, new? 3 = .ok fresh ∧
      let set := fresh.after twoColors
      set.window = some ⟨30, 40⟩ ∧ set.contains "volts" = true ∧
        set.color? "volts" = some ⟨0, 1, 0, 1⟩ ∧
        ∀ channel ring, set.samples? channel = some ring → ring.capacity = 3 := by
  obtain ⟨fresh, hfresh, hall⟩ := exists_new?_coherent (α := Rat) (show 0 < 3 by decide)
  obtain ⟨⟨-, hcapacity, -⟩, -, hcolor, -⟩ := hall twoColors
  obtain rfl : fresh = new 3 (by decide) := (Except.ok.inj hfresh).symm
  exact ⟨_, hfresh, by decide +kernel, by decide +kernel, (hcolor "volts" _ rfl).1, hcapacity⟩

end Channels

end StripChart
