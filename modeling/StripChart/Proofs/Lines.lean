import StripChart.Proofs.Channels

/-!
# What a line is drawn through

A line goes through the last samples of a ring, as many as there are slots, and if there are
fewer it stays at the last of them until the slots are taken. This file says so of the
points (`StripChart.Line.points?_eq`) and reads off what can be told of them without knowing
where a sample is put: how many there are, that each is the place of a sample, that the last
is the place of the last sample, and that what holds of any two samples in their order holds
of any two points in theirs.

The fact behind it is that the points are made by two steps that a list does not see apart:
what is written one by one over an array that was emptied is a list of places, and the array
is then made longer by what stands last in it (`StripChart.Line.stretch`). So nothing that
stood in the array before gets into the picture.

For the channels of a tab it follows which of them have a line
(`StripChart.Channels.mem_draw_iff`), and that the lines stand in the order of the names.
-/

namespace StripChart

/-! ### Lists that are made longer by their last member -/

section Stretch

variable {β : Type}

/-- The list, and its last member again and again until there are `n` members. -/
def Line.stretch (n : Nat) (list : List β) : List β :=
  match list.getLast? with
  | some last => list ++ List.replicate (n - list.length) last
  | none => list

namespace Line

variable {n : Nat} {list : List β}

theorem stretch_of_getLast? {last : β} (h : list.getLast? = some last) :
    stretch n list = list ++ List.replicate (n - list.length) last := by
  rw [stretch, h]

/-- A list with a member is made as long as it is to be. -/
theorem length_stretch (hne : list ≠ []) (hle : list.length ≤ n) :
    (stretch n list).length = n := by
  rw [stretch_of_getLast? (List.getLast?_eq_some_getLast hne), List.length_append,
    List.length_replicate]
  omega

/-- It has no other members than before. -/
theorem mem_of_mem_stretch {b : β} (h : b ∈ stretch n list) : b ∈ list := by
  rcases hlast : list.getLast? with - | last
  · rwa [stretch, hlast] at h
  · rw [stretch_of_getLast? hlast] at h
    rcases List.mem_append.1 h with hmem | hmem
    · exact hmem
    · rw [List.eq_of_mem_replicate hmem]
      exact List.mem_of_getLast? hlast

theorem getLast?_stretch : (stretch n list).getLast? = list.getLast? := by
  rcases hlast : list.getLast? with - | last
  · rw [stretch, hlast]
    exact hlast
  · rw [stretch_of_getLast? hlast, List.getLast?_append, List.getLast?_replicate, hlast]
    split <;> rfl

/-- **What holds of any two members in their order holds of them still**, if it holds of the
last member and itself. -/
theorem pairwise_stretch {related : β → β → Prop} (hrefl : ∀ b, related b b)
    (h : list.Pairwise related) : (stretch n list).Pairwise related := by
  rcases hlast : list.getLast? with - | last
  · rwa [stretch, hlast]
  · obtain ⟨front, rfl⟩ := List.getLast?_eq_some_iff.1 hlast
    rw [stretch_of_getLast? hlast]
    refine List.pairwise_append.2 ⟨h, List.pairwise_replicate.2 (.inr (hrefl last)), ?_⟩
    intro b hmem again hagain
    rw [List.eq_of_mem_replicate hagain]
    -- what stands before the last member is related to it, and so is the last itself
    rcases List.mem_append.1 hmem with hmem | hmem
    · exact (List.pairwise_append.1 h).2.2 b hmem last List.mem_cons_self
    · rw [List.mem_singleton.1 hmem]
      exact hrefl last

end Line

end Stretch

variable {α : Type}

/-! ### The points of a line -/

namespace Line

theorem toList_pad (slots : Nat) (points : Array (α × α)) :
    (pad slots points).toList = stretch slots points.toList := by
  rw [pad, stretch, Array.getLast?_toList]
  cases points.back? with
  | none => rfl
  | some last => simp

variable [Scalar α] {slots : Nat} {samples : Ring α} {window : Window α}

/-- The places of the samples that a line of so many points is drawn through: of the last
there are. The range of the readings is that of all samples, drawn or not. -/
def places (slots : Nat) (samples : Ring α) (window : Window α) : List (α × α) :=
  (samples.toList.rtake slots).map (place (timeAxis window) (valueAxis samples.toList))

theorem length_places :
    (places slots samples window).length = min slots samples.size := by
  rw [places, List.length_map, List.rtake, List.length_drop, samples.length_toList]
  omega

/-- **What is written does not depend on what stood there**: the places of the samples, and
the last of them until all slots are taken. -/
theorem writeInto_eq (slots : Nat) (samples : Ring α) (window : Window α)
    (out : Array (α × α)) :
    writeInto slots samples window out
      = if samples.size < 2 ∨ slots = 0 then (false, #[])
        else (true, (stretch slots (places slots samples window)).toArray) := by
  have hempty : out.shrink 0 = #[] := by simp
  simp only [writeInto, hempty]
  split
  · rfl
  · congr 1
    refine Array.toList_inj.1 ?_
    rw [toList_pad, places, List.rtake, samples.length_toList]
    simp

theorem points?_eq (slots : Nat) (samples : Ring α) (window : Window α) :
    points? slots samples window
      = if samples.size < 2 ∨ slots = 0 then none
        else some (stretch slots (places slots samples window)) := by
  rw [points?, writeInto_eq]
  by_cases hnone : samples.size < 2 ∨ slots = 0
  · rw [if_pos hnone, if_pos hnone]
  · rw [if_neg hnone, if_neg hnone]

/-- There is a line as soon as there are two samples and a slot. -/
theorem isSome_points? :
    (points? slots samples window).isSome = true ↔ 2 ≤ samples.size ∧ 0 < slots := by
  rw [points?_eq]
  split <;> simp <;> omega

variable {points : List (α × α)}

theorem eq_stretch_of_points? (h : points? slots samples window = some points) :
    2 ≤ samples.size ∧ 0 < slots ∧ points = stretch slots (places slots samples window) := by
  rw [points?_eq] at h
  split at h
  · cases h
  · refine ⟨by omega, by omega, (Option.some.inj h).symm⟩

/-- **Every line has as many points as there are slots.** -/
theorem length_of_points? (h : points? slots samples window = some points) :
    points.length = slots := by
  obtain ⟨htwo, hslots, rfl⟩ := eq_stretch_of_points? h
  have hlength : (places slots samples window).length = min slots samples.size := length_places
  refine length_stretch (fun hnil => ?_) (by omega)
  rw [hnil, List.length_nil] at hlength
  omega

/-- **Every point is the place of a sample.** -/
theorem exists_of_mem_points? (h : points? slots samples window = some points) {point : α × α}
    (hmem : point ∈ points) :
    ∃ sample ∈ samples.toList,
      point = place (timeAxis window) (valueAxis samples.toList) sample := by
  obtain ⟨-, -, rfl⟩ := eq_stretch_of_points? h
  obtain ⟨sample, hsample, rfl⟩ := List.mem_map.1 (mem_of_mem_stretch hmem)
  exact ⟨sample, List.mem_of_mem_drop hsample, rfl⟩

/-- **The last point is the place of the last sample.** -/
theorem getLast?_of_points? (h : points? slots samples window = some points) :
    points.getLast?
      = samples.toList.getLast?.map (place (timeAxis window) (valueAxis samples.toList)) := by
  obtain ⟨htwo, hslots, rfl⟩ := eq_stretch_of_points? h
  have hlength := samples.length_toList
  rw [getLast?_stretch, places, List.getLast?_map, List.rtake, List.getLast?_drop,
    if_neg (by omega)]

/-- **What holds of the places of any two samples in their order holds of any two points.** -/
theorem pairwise_of_points? (h : points? slots samples window = some points)
    {related : α × α → α × α → Prop} (hrefl : ∀ point, related point point)
    (hsamples : samples.toList.Pairwise fun first second =>
      related (place (timeAxis window) (valueAxis samples.toList) first)
        (place (timeAxis window) (valueAxis samples.toList) second)) :
    points.Pairwise related := by
  obtain ⟨-, -, rfl⟩ := eq_stretch_of_points? h
  refine pairwise_stretch hrefl (List.pairwise_map.2 ?_)
  exact hsamples.sublist (List.drop_sublist _ _)

end Line

/-! ### The lines of a set of channels -/

namespace Channels

variable [Scalar α] {set : Channels α} {slots : Nat}

/-- **Which lines are drawn**: those of the channels that have points over the window, each in
the color of its channel. -/
theorem mem_draw_iff {line : Line α} :
    line ∈ set.draw slots ↔ ∃ window found,
      set.window = some window ∧ set.plotted.find? line.channel = some found ∧
        line.color = found.color ∧
          Line.points? slots found.samples window = some line.points := by
  rw [draw]
  cases set.window with
  | none => simp
  | some window =>
    simp only [List.mem_filterMap, Option.map_eq_some_iff, Option.some.injEq,
      ByName.find?_eq_some_iff]
    constructor
    · rintro ⟨⟨name, found⟩, hmem, points, hpoints, rfl⟩
      exact ⟨window, found, rfl, hmem, rfl, hpoints⟩
    · rintro ⟨_, found, rfl, hmem, hcolor, hpoints⟩
      exact ⟨(line.channel, found), hmem, line.points, hpoints, hcolor ▸ rfl⟩

/-- Every line has as many points as there are slots. -/
theorem length_points_of_mem_draw {line : Line α} (h : line ∈ set.draw slots) :
    line.points.length = slots := by
  obtain ⟨window, found, -, -, -, hpoints⟩ := mem_draw_iff.1 h
  exact Line.length_of_points? hpoints

/-- Drawing goes through the channels in the order of their names and takes one line from
each, if any. -/
theorem channels_draw_sublist (set : Channels α) (slots : Nat) :
    ((set.draw slots).map Line.channel).Sublist set.plotted.names := by
  rw [draw]
  split
  · rename_i window hwindow
    rw [ByName.names]
    generalize set.plotted.entries = entries
    induction entries with
    | nil => exact .slnil
    | cons entry rest ih =>
      obtain ⟨name, channel⟩ := entry
      rcases hpoints : Line.points? slots channel.samples window with - | points
      · simpa [hpoints] using ih.cons name
      · simpa [hpoints] using ih.cons_cons name
  · exact List.nil_sublist _

/-- The lines stand in the order of the names of their channels, one of each at most. -/
theorem pairwise_channels_draw (set : Channels α) (slots : Nat) :
    ((set.draw slots).map Line.channel).Pairwise (· < ·) :=
  (List.pairwise_map.2 set.plotted.sorted).sublist (set.channels_draw_sublist slots)

/-- There are no more lines than selected channels. -/
theorem length_draw_le (set : Channels α) (slots : Nat) :
    (set.draw slots).length ≤ set.plotted.size := by
  have hle := (set.channels_draw_sublist slots).length_le
  rwa [List.length_map, ByName.names, List.length_map] at hle

end Channels

end StripChart
