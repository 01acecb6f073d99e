import Mathlib
import StripChart.Proofs.Exact
import StripChart.Proofs.Sizes
import StripChart.Proofs.Square

/-!
# Zooming out and in

A step of zooming rounds twice over: the new capacity is made a whole number, and it is kept
between the least capacity of the config and the greatest that can be asked for. With exact
numbers the step has a short description (`zoomedCapacity_eq`), in which the rounding stands
alone, and all that is said here comes from a comparison of what is rounded with halves
(`le_nearest_iff`).

Out and back in leads to where one was. Dividing by the factor makes the error of the first
rounding less than a half, so that the second takes it away
(`zoomedCapacity_zoomedCapacity`); and a set of channels that was given room and had it taken
away again holds all that it held (`Channels.exists_new?_zoomedBack`).

What is not true is that every step leads anywhere. Rounding swallows the step of a small
capacity, and with it all steps that would follow. From which capacity on steps make progress is
said by the two conditions on capacity and factor in `Config.zoomedCapacity_progress`.
-/

namespace StripChart

/-! ### The nearest natural number -/

/-- The natural number nearest to a number, halves going up; zero for what is negative. -/
def nearest (a : ℚ) : ℕ :=
  (a + 1 / 2).floor.toNat

section Nearest

variable {a b : ℚ} {n : ℕ}

/-- **What rounds up to a number** is at most a half below it. -/
theorem le_nearest_iff (hn : 0 < n) : n ≤ nearest a ↔ (n : ℚ) - 1 / 2 ≤ a := by
  obtain ⟨k, rfl⟩ := Nat.exists_eq_succ_of_ne_zero hn.ne'
  rw [Nat.succ_le_iff, nearest, Int.lt_toNat, ← Int.add_one_le_iff, Rat.le_floor_iff]
  push_cast
  constructor <;> intro h <;> linarith

theorem nearest_lt_iff (hn : 0 < n) : nearest a < n ↔ a < (n : ℚ) - 1 / 2 := by
  rw [← not_le, le_nearest_iff hn, not_le]

theorem nearest_mono (h : a ≤ b) : nearest a ≤ nearest b := by
  rcases Nat.eq_zero_or_pos (nearest a) with hzero | hpos
  · rw [hzero]
    exact Nat.zero_le _
  · exact (le_nearest_iff hpos).2 (((le_nearest_iff hpos).1 le_rfl).trans h)

@[simp] theorem nearest_natCast (n : ℕ) : nearest n = n := by
  refine le_antisymm (Nat.lt_succ_iff.1 ((nearest_lt_iff n.succ_pos).2 ?_)) ?_
  · push_cast
    linarith
  · rcases Nat.eq_zero_or_pos n with rfl | hpos
    · exact Nat.zero_le _
    · exact (le_nearest_iff hpos).2 (by linarith)

theorem nearest_max (a b : ℚ) : nearest (max a b) = max (nearest a) (nearest b) :=
  Monotone.map_max fun _ _ => nearest_mono

end Nearest

/-! ### One step -/

section Step

variable {capacity minimum : ℕ} {scale : ℚ}

/-- **A step of zooming**, with exact numbers: the multiple or the part is rounded, and kept
between the least and the greatest capacity. -/
theorem zoomedCapacity_eq (hmin : 0 < minimum) (hle : minimum ≤ greatestCapacity) (capacity : ℕ)
    (grow : Bool) (scale : ℚ) :
    zoomedCapacity capacity grow scale minimum
      = min greatestCapacity
          (max (nearest (if grow then capacity * scale else capacity / scale)) minimum) := by
  show max 1 (min greatestCapacity (nearest (Scalar.greatest
    (if grow then (capacity : ℚ) * scale else capacity / scale) (minimum : ℚ)))) = _
  rw [Scalar.greatest_rat, nearest_max, nearest_natCast]
  omega

/-- **A greater capacity is not made the smaller one**, in either direction. -/
theorem zoomedCapacity_mono (hscale : 0 < scale) (grow : Bool) (minimum : ℕ) {less more : ℕ}
    (h : less ≤ more) :
    zoomedCapacity less grow scale minimum ≤ zoomedCapacity more grow scale minimum := by
  have hscaled : (if grow then (less : ℚ) * scale else less / scale)
      ≤ if grow then (more : ℚ) * scale else more / scale := by
    have hcast : (less : ℚ) ≤ more := mod_cast h
    split
    · exact mul_le_mul_of_nonneg_right hcast hscale.le
    · exact div_le_div_of_nonneg_right hcast hscale.le
  have hnearest : nearest (Scalar.greatest
        (if grow then (less : ℚ) * scale else less / scale) (minimum : ℚ))
      ≤ nearest (Scalar.greatest
        (if grow then (more : ℚ) * scale else more / scale) (minimum : ℚ)) := by
    rw [Scalar.greatest_rat, Scalar.greatest_rat]
    exact nearest_mono (max_le_max_right _ hscaled)
  exact max_le_max_left 1 (min_le_min_left greatestCapacity hnearest)

/-- The capacity does not fall below the least. -/
theorem le_zoomedCapacity (hmin : 0 < minimum) (hle : minimum ≤ greatestCapacity) (capacity : ℕ)
    (grow : Bool) (scale : ℚ) : minimum ≤ zoomedCapacity capacity grow scale minimum := by
  rw [zoomedCapacity_eq hmin hle]
  omega

/-- A step out rounds the multiple, as long as the greatest capacity is not passed. -/
theorem zoomedCapacity_grow (hscale : 1 ≤ scale) (hmin : 0 < minimum) (hle : minimum ≤ capacity)
    (hroom : nearest (capacity * scale) ≤ greatestCapacity) :
    zoomedCapacity capacity true scale minimum = nearest (capacity * scale) ∧
      capacity ≤ nearest (capacity * scale) := by
  have hgrown : capacity ≤ nearest (capacity * scale) := by
    calc capacity = nearest (capacity : ℚ) := (nearest_natCast capacity).symm
      _ ≤ nearest (capacity * scale) := nearest_mono (le_mul_of_one_le_right (by positivity) hscale)
  refine ⟨?_, hgrown⟩
  rw [zoomedCapacity_eq hmin (by omega), if_pos rfl]
  omega

/-- **Out and back in leads to where one was.** -/
theorem zoomedCapacity_zoomedCapacity (hscale : 1 < scale) (hmin : 0 < minimum)
    (hle : minimum ≤ capacity) (hroom : nearest (capacity * scale) ≤ greatestCapacity) :
    zoomedCapacity (zoomedCapacity capacity true scale minimum) false scale minimum = capacity := by
  obtain ⟨hgrow, hgrown⟩ := zoomedCapacity_grow hscale.le hmin hle hroom
  have hpos : 0 < scale := by linarith
  have hcapacity : 0 < capacity := by omega
  have hbelow : (nearest (capacity * scale) : ℚ) - 1 / 2 ≤ capacity * scale :=
    (le_nearest_iff (by omega)).1 le_rfl
  have habove : (capacity : ℚ) * scale < nearest (capacity * scale) + 1 - 1 / 2 := by
    have := (nearest_lt_iff (nearest (capacity * scale)).succ_pos).1 (Nat.lt_succ_self _)
    push_cast at this
    exact this
  -- the error of rounding is a half at most, and divided by the factor it is less
  have hback : nearest (nearest (capacity * scale) / scale) = capacity := by
    refine le_antisymm (Nat.lt_succ_iff.1 ((nearest_lt_iff capacity.succ_pos).2 ?_))
      ((le_nearest_iff hcapacity).2 ?_)
    · rw [div_lt_iff₀ hpos]
      push_cast
      linarith
    · rw [le_div_iff₀ hpos]
      linarith
  rw [hgrow, zoomedCapacity_eq hmin (by omega), if_neg Bool.false_ne_true, hback]
  omega

end Step

/-! ### Sets of channels that remember the same -/

namespace Channels

variable {α : Type}

/-- **Two sets of channels remember the same**: the same samples of the same channels, the same
colors and the same window. Nothing is said of the room that they have. -/
structure RemembersAs (set other : Channels α) : Prop where
  /-- The samples of every channel, in order, if it is selected. -/
  samples_eq (channel : String) :
    (set.samples? channel).map (·.toList) = (other.samples? channel).map (·.toList)
  /-- The colors that are kept. -/
  colors_eq : set.colors = other.colors
  /-- The color of every channel. -/
  color?_eq (channel : String) : set.color? channel = other.color? channel
  /-- The window. -/
  window_eq : set.window = other.window

theorem RemembersAs.trans {set other last : Channels α} (h : set.RemembersAs other)
    (h' : other.RemembersAs last) : set.RemembersAs last where
  samples_eq channel := (h.samples_eq channel).trans (h'.samples_eq channel)
  colors_eq := h.colors_eq.trans h'.colors_eq
  color?_eq channel := (h.color?_eq channel).trans (h'.color?_eq channel)
  window_eq := h.window_eq.trans h'.window_eq

variable [Scalar α] {set : Channels α}

/-- A ring keeps its samples if there is room for them. -/
theorem toList_resize_of_size_le {ring : Ring α} {capacity : ℕ} (hpos : 0 < capacity)
    (h : ring.size ≤ capacity) : (ring.resize capacity hpos).toList = ring.toList := by
  rw [Ring.toList_resize, min_eq_left h]
  exact rtake_of_length_le ring.length_toList.le

/-- **A set remembers the same with another capacity**, if there is room for what it holds. -/
theorem Coherent.remembersAs_resize (h : set.Coherent) {capacity : ℕ} (hpos : 0 < capacity)
    (hroom : ∀ channel ring, set.samples? channel = some ring → ring.size ≤ capacity) :
    (set.resize capacity hpos).RemembersAs set where
  samples_eq channel := by
    rw [samples?_resize, Option.map_map]
    rcases hring : set.samples? channel with - | ring
    · rfl
    · exact congrArg some (toList_resize_of_size_le hpos (hroom channel ring hring))
  colors_eq := rfl
  color?_eq channel := by
    rw [color?, color?, resize, ByName.find?_mapValues]
    cases set.plotted.find? channel <;> rfl
  window_eq := by
    rw [(coherent_resize set capacity hpos).window_eq_unionAll?, h.window_eq_unionAll?, resize,
      ByName.values_mapValues, List.filterMap_map]
    refine congrArg Window.unionAll? (List.filterMap_congr fun found hmem => ?_)
    obtain ⟨name, hname⟩ := ByName.mem_values_iff.1 hmem
    have hring : set.samples? name = some found.samples := by
      rw [samples?, hname, Option.map_some]
    exact congrArg Window.ofSamples? (toList_resize_of_size_le hpos (hroom name _ hring))

/-- No ring holds more than its capacity, which is that of the set. -/
theorem Coherent.size_le (h : set.Coherent) {channel : String} {ring : Ring α}
    (hring : set.samples? channel = some ring) : ring.size ≤ set.capacity :=
  h.capacity_eq hring ▸ ring.size_le_capacity

/-- A step of zooming whose new capacity is found with exact numbers, whatever the samples
are. -/
def zoomExactly (set : Channels α) (grow : Bool) (scale : ℚ) (minimum : ℕ) : Channels α :=
  set.resize (zoomedCapacity set.capacity grow scale minimum) (zoomedCapacity_pos ..)

/-- **Room that is given and taken away again** leaves all that was there. -/
theorem Coherent.remembersAs_resize_resize (h : set.Coherent) {more : ℕ} (hpos : 0 < more)
    (hle : set.capacity ≤ more) (hpos' : 0 < set.capacity) :
    ((set.resize more hpos).resize set.capacity hpos').RemembersAs set := by
  have hmore : (set.resize more hpos).RemembersAs set :=
    h.remembersAs_resize hpos fun _ _ hring => (h.size_le hring).trans hle
  refine RemembersAs.trans ?_ hmore
  refine (coherent_resize set more hpos).remembersAs_resize hpos' fun channel ring hring => ?_
  -- what there is room for now is what there was room for before
  have hlist := hmore.samples_eq channel
  rw [hring, Option.map_some] at hlist
  obtain ⟨found, hfound, hsame⟩ := Option.map_eq_some_iff.1 hlist.symm
  rw [← ring.length_toList, ← hsame, found.length_toList]
  exact h.size_le hfound

/-- **Zooming out and back in restores a set of channels.** Let the factor be greater than one
and the least capacity be allowed, and take a capacity that is not below it and whose multiple,
rounded, can still be asked for. Then, with exact numbers:

* A step out and a step in lead back to the capacity. A step in either direction keeps the order
  of capacities and does not lead below the least.
* A set of channels that has come from a new one by any requests, and has such a capacity, has
  after the two steps the same capacity, and so has every ring; and it remembers the same.

For samples that are exact numbers themselves this is the step of zooming as it is done. -/
theorem exists_new?_zoomedBack {scale : ℚ} (hscale : 1 < scale) {minimum : ℕ}
    (hmin : 1 ≤ minimum) (hle : minimum ≤ greatestCapacity) {usual : ℕ} (husual : 0 < usual) :
    (∀ capacity, minimum ≤ capacity → nearest (capacity * scale) ≤ greatestCapacity →
      zoomedCapacity (zoomedCapacity capacity true scale minimum) false scale minimum
        = capacity) ∧
    (∀ grow less more, less ≤ more →
      zoomedCapacity less grow scale minimum ≤ zoomedCapacity more grow scale minimum) ∧
    (∀ grow capacity, minimum ≤ zoomedCapacity capacity grow scale minimum) ∧
    (∃ fresh : Channels α, new? usual = .ok fresh ∧ ∀ requests : List (Request α),
      let set := fresh.after requests
      minimum ≤ set.capacity → nearest (set.capacity * scale) ≤ greatestCapacity →
        let back := (set.zoomExactly true scale minimum).zoomExactly false scale minimum
        back.capacity = set.capacity ∧
          (∀ channel ring, back.samples? channel = some ring → ring.capacity = set.capacity) ∧
          back.RemembersAs set) ∧
    ∀ (exact : Channels ℚ) grow,
      exact.zoom grow scale minimum = exact.zoomExactly grow scale minimum := by
  refine ⟨fun capacity hcapacity hroom =>
      zoomedCapacity_zoomedCapacity hscale hmin hcapacity hroom,
    fun grow less more h => zoomedCapacity_mono (zero_lt_one.trans hscale) grow minimum h,
    fun grow capacity => le_zoomedCapacity hmin hle capacity grow scale,
    ⟨new usual husual, dif_pos husual, fun requests => ?_⟩, fun _ _ => rfl⟩
  intro set hcapacity hroom back
  have hcoherent : set.Coherent := (coherent_new usual husual).after requests
  obtain ⟨hgrow, hgrown⟩ := zoomedCapacity_grow hscale.le hmin hcapacity hroom
  have hback : zoomedCapacity (zoomedCapacity set.capacity true scale minimum) false scale minimum
      = set.capacity := zoomedCapacity_zoomedCapacity hscale hmin hcapacity hroom
  have heq : back = (set.zoomExactly true scale minimum).resize set.capacity set.capacity_pos := by
    show (set.zoomExactly true scale minimum).resize (zoomedCapacity
      (zoomedCapacity set.capacity true scale minimum) false scale minimum) _ = _
    simp only [hback]
  refine ⟨hback, fun channel ring hring => ?_, ?_⟩
  · rw [heq] at hring
    exact (coherent_resize _ set.capacity set.capacity_pos).capacity_eq hring
  · rw [heq]
    exact hcoherent.remembersAs_resize_resize _ (hgrow ▸ hgrown) set.capacity_pos

/-- Three samples of each channel are remembered; then it is five, and then three again. -/
theorem exists_new?_zoomedBack_twoColors :
    zoomedCapacity 3 true (3 / 2 : ℚ) 1 = 5 ∧
      ∃ fresh : Channels ℚ, new? 3 = .ok fresh ∧
        let set := fresh.after twoColors
        let back := (set.zoomExactly true (3 / 2) 1).zoomExactly false (3 / 2) 1
        back.capacity = 3 ∧ back.RemembersAs set ∧ set.window = some ⟨30, 40⟩ := by
  obtain ⟨-, -, -, ⟨fresh, hfresh, hback⟩, -⟩ := exists_new?_zoomedBack (α := ℚ)
    (show (1 : ℚ) < 3 / 2 by norm_num) (le_refl 1) (by decide) (show 0 < 3 by decide)
  obtain rfl : fresh = new 3 (by decide) := (Except.ok.inj hfresh).symm
  have hcapacity : ((new 3 (by decide) : Channels ℚ).after twoColors).capacity = 3 := by
    decide +kernel
  obtain ⟨hsame, -, hremembers⟩ := hback twoColors (by rw [hcapacity]; decide)
    (by rw [hcapacity]; decide +kernel)
  exact ⟨by decide +kernel, _, hfresh, hsame.trans hcapacity, hremembers, by decide +kernel⟩

end Channels

/-! ### Steps that lead somewhere -/

section Progress

variable {capacity minimum : ℕ} {scale : ℚ}

theorem le_zoomedCapacity_grow (hscale : 1 ≤ scale) (hmin : 0 < minimum)
    (hle : minimum ≤ capacity) (hroom : capacity ≤ greatestCapacity) :
    capacity ≤ zoomedCapacity capacity true scale minimum := by
  have hgrown : nearest (capacity : ℚ) ≤ nearest (capacity * scale) :=
    nearest_mono (le_mul_of_one_le_right (by positivity) hscale)
  rw [nearest_natCast] at hgrown
  rw [zoomedCapacity_eq hmin (hle.trans hroom), if_pos rfl]
  omega

/-- **A step out leads to more** just if it adds a half at least. -/
theorem lt_zoomedCapacity_grow_iff (hmin : 0 < minimum) (hle : minimum ≤ capacity)
    (hroom : capacity < greatestCapacity) :
    capacity < zoomedCapacity capacity true scale minimum
      ↔ 1 / 2 ≤ capacity * (scale - 1) := by
  have hgrown : capacity < zoomedCapacity capacity true scale minimum
      ↔ capacity + 1 ≤ nearest (capacity * scale) := by
    rw [zoomedCapacity_eq hmin (hle.trans hroom.le), if_pos rfl]
    omega
  rw [hgrown, le_nearest_iff capacity.succ_pos]
  push_cast
  constructor <;> intro h <;> linarith

theorem zoomedCapacity_shrink_le (hscale : 1 ≤ scale) (hmin : 0 < minimum)
    (hle : minimum ≤ capacity) (hroom : capacity ≤ greatestCapacity) :
    zoomedCapacity capacity false scale minimum ≤ capacity := by
  have hshrunk : nearest (capacity / scale) ≤ nearest (capacity : ℚ) :=
    nearest_mono (div_le_self (by positivity) hscale)
  rw [nearest_natCast] at hshrunk
  rw [zoomedCapacity_eq hmin (hle.trans hroom), if_neg Bool.false_ne_true]
  omega

/-- **A step in leads to less**, above the least capacity, just if it takes away more than a
half. -/
theorem zoomedCapacity_shrink_lt_iff (hmin : 0 < minimum) (hlt : minimum < capacity)
    (hroom : capacity ≤ greatestCapacity) :
    zoomedCapacity capacity false scale minimum < capacity
      ↔ 1 / 2 < capacity * (1 - 1 / scale) := by
  have hshrunk : zoomedCapacity capacity false scale minimum < capacity
      ↔ nearest (capacity / scale) < capacity := by
    rw [zoomedCapacity_eq hmin (hlt.le.trans hroom), if_neg Bool.false_ne_true]
    omega
  rw [hshrunk, nearest_lt_iff (by omega), mul_one_sub, mul_one_div]
  constructor <;> intro h <;> linarith

/-! ### Many steps -/

/-- The capacity after a number of steps in one direction. -/
def zoomedAfter (steps capacity : ℕ) (grow : Bool) (scale : ℚ) (minimum : ℕ) : ℕ :=
  (zoomedCapacity · grow scale minimum)^[steps] capacity

theorem zoomedAfter_succ (steps capacity : ℕ) (grow : Bool) (scale : ℚ) (minimum : ℕ) :
    zoomedAfter (steps + 1) capacity grow scale minimum
      = zoomedAfter steps (zoomedCapacity capacity grow scale minimum) grow scale minimum :=
  rfl

/-- Where one step leads nowhere, no number of steps does. -/
theorem zoomedAfter_of_eq {grow : Bool}
    (h : zoomedCapacity capacity grow scale minimum = capacity) (steps : ℕ) :
    zoomedAfter steps capacity grow scale minimum = capacity :=
  Function.iterate_fixed h steps

/-- Many steps keep the order of capacities, as one does. -/
theorem zoomedAfter_mono (hscale : 0 < scale) (grow : Bool) (minimum steps : ℕ) {less more : ℕ}
    (h : less ≤ more) :
    zoomedAfter steps less grow scale minimum ≤ zoomedAfter steps more grow scale minimum :=
  Monotone.iterate (fun _ _ => zoomedCapacity_mono hscale grow minimum) steps h

/-- **Steps in reach the least capacity** if the last of them does: a greater capacity loses
more. -/
theorem exists_zoomedAfter_shrink_eq (hscale : 1 < scale) (hmin : 0 < minimum)
    (hlast : 1 / 2 < (minimum + 1) * (1 - 1 / scale)) (hle : minimum ≤ capacity)
    (hroom : capacity ≤ greatestCapacity) :
    ∃ steps, zoomedAfter steps capacity false scale minimum = minimum := by
  induction capacity using Nat.strong_induction_on with
  | _ capacity ih =>
    rcases hle.eq_or_lt with rfl | hlt
    · exact ⟨0, rfl⟩
    · have hcast : (minimum : ℚ) + 1 ≤ capacity := mod_cast hlt
      have hpart : 1 / scale ≤ 1 := (div_le_one (by linarith)).2 hscale.le
      have hless := (zoomedCapacity_shrink_lt_iff hmin hlt hroom).2
        (hlast.trans_le (mul_le_mul_of_nonneg_right hcast (by linarith)))
      obtain ⟨steps, hsteps⟩ := ih _ hless (le_zoomedCapacity hmin (by omega) capacity false scale)
        (hless.le.trans hroom)
      exact ⟨steps + 1, (zoomedAfter_succ ..).trans hsteps⟩

/-- If it does not, a capacity above the least stays above it. -/
theorem lt_zoomedAfter_shrink (hscale : 1 < scale) (hmin : 0 < minimum)
    (hlast : ¬1 / 2 < (minimum + 1) * (1 - 1 / scale)) (hlt : minimum < capacity)
    (hroom : capacity ≤ greatestCapacity) (steps : ℕ) :
    minimum < zoomedAfter steps capacity false scale minimum := by
  have hstays : zoomedCapacity (minimum + 1) false scale minimum = minimum + 1 := by
    have hle : zoomedCapacity (minimum + 1) false scale minimum ≤ minimum + 1 :=
      zoomedCapacity_shrink_le hscale.le hmin (by omega) (by omega)
    have hnot : ¬zoomedCapacity (minimum + 1) false scale minimum < minimum + 1 := by
      rw [zoomedCapacity_shrink_lt_iff hmin (by omega) (by omega)]
      exact_mod_cast hlast
    omega
  calc minimum < minimum + 1 := minimum.lt_succ_self
    _ = zoomedAfter steps (minimum + 1) false scale minimum := (zoomedAfter_of_eq hstays steps).symm
    _ ≤ zoomedAfter steps capacity false scale minimum :=
        zoomedAfter_mono (by linarith) false minimum steps hlt

/-- **Steps out pass every bound** below the greatest capacity if the first of them leads to
more: a greater capacity gains more. -/
theorem exists_lt_zoomedAfter_grow (hscale : 1 < scale) (hmin : 0 < minimum)
    (hfirst : 1 / 2 ≤ capacity * (scale - 1)) (hle : minimum ≤ capacity) {bound : ℕ}
    (hbound : bound < greatestCapacity) :
    ∃ steps, bound < zoomedAfter steps capacity true scale minimum := by
  induction hfar : bound + 1 - capacity using Nat.strong_induction_on generalizing capacity with
  | _ far ih =>
    rcases lt_or_ge bound capacity with hlt | hge
    · exact ⟨0, hlt⟩
    · have hmore := (lt_zoomedCapacity_grow_iff hmin hle (by omega)).2 hfirst
      have hcast : (capacity : ℚ) ≤ zoomedCapacity capacity true scale minimum := mod_cast hmore.le
      obtain ⟨steps, hsteps⟩ := ih _ (by omega)
        (hfirst.trans (mul_le_mul_of_nonneg_right hcast (by linarith))) (by omega) rfl
      exact ⟨steps + 1, hsteps.trans_eq (zoomedAfter_succ ..).symm⟩

end Progress

namespace Config

/-- **Which steps of zooming make progress.** Take a config that can be used, its factor as the
exact number that it is, and a capacity from the least one up. With exact numbers:

* A step out does not lead to less, and to more just if it adds a half at least.
* A step in leads neither below the least capacity nor to more, and from above the least capacity
  to less just if it takes away more than a half.
* Steps in reach the least capacity just if it is reached already, or the capacity next to it
  makes progress; and steps out pass every bound below the greatest capacity just if the first
  makes progress. -/
theorem zoomedCapacity_progress {config : Config} (hcheck : config.check = .ok ()) {scale : ℚ}
    (hscale : Scalar.value? config.capacityScale = some scale) {capacity : ℕ}
    (hle : config.minCapacity ≤ capacity) (hroom : capacity < greatestCapacity) :
    (capacity ≤ zoomedCapacity capacity true scale config.minCapacity ∧
      (capacity < zoomedCapacity capacity true scale config.minCapacity
        ↔ 1 / 2 ≤ capacity * (scale - 1))) ∧
    (config.minCapacity ≤ zoomedCapacity capacity false scale config.minCapacity ∧
      zoomedCapacity capacity false scale config.minCapacity ≤ capacity ∧
      (config.minCapacity < capacity →
        (zoomedCapacity capacity false scale config.minCapacity < capacity
          ↔ 1 / 2 < capacity * (1 - 1 / scale)))) ∧
    ((∃ steps, zoomedAfter steps capacity false scale config.minCapacity = config.minCapacity)
      ↔ capacity = config.minCapacity ∨ 1 / 2 < (config.minCapacity + 1) * (1 - 1 / scale)) ∧
    ((∀ bound < greatestCapacity,
        ∃ steps, bound < zoomedAfter steps capacity true scale config.minCapacity)
      ↔ 1 / 2 ≤ capacity * (scale - 1)) := by
  have husable := check_eq_ok_iff.1 hcheck
  have hone : 1 < scale := (Scalar.lt_iff_of_value? (by decide +kernel) hscale).1
    husable.one_lt_capacityScale
  have hmin : 0 < config.minCapacity := Nat.pos_of_ne_zero husable.minCapacity_ne
  have hgrow := le_zoomedCapacity_grow hone.le hmin hle hroom.le
  have hmore : capacity < zoomedCapacity capacity true scale config.minCapacity
      ↔ 1 / 2 ≤ capacity * (scale - 1) := lt_zoomedCapacity_grow_iff hmin hle hroom
  refine ⟨⟨hgrow, hmore⟩, ⟨le_zoomedCapacity hmin (by omega) capacity false scale,
    zoomedCapacity_shrink_le hone.le hmin hle hroom.le, fun hlt =>
      zoomedCapacity_shrink_lt_iff hmin hlt hroom.le⟩, ⟨?_, ?_⟩, ⟨?_, ?_⟩⟩
  · rintro ⟨steps, hsteps⟩
    by_contra hneither
    rw [not_or] at hneither
    have := lt_zoomedAfter_shrink hone hmin hneither.2 (by omega) hroom.le steps
    omega
  · rintro (rfl | hlast)
    · exact ⟨0, rfl⟩
    · exact exists_zoomedAfter_shrink_eq hone hmin hlast hle hroom.le
  · intro hpasses
    by_contra hnot
    -- the first step leads nowhere, so that the capacity itself is not passed
    obtain ⟨steps, hsteps⟩ := hpasses capacity hroom
    have hstays : zoomedCapacity capacity true scale config.minCapacity = capacity :=
      le_antisymm (not_lt.1 fun hlt => hnot (hmore.1 hlt)) hgrow
    rw [zoomedAfter_of_eq hstays] at hsteps
    exact lt_irrefl _ hsteps
  · exact fun hfirst bound hbound => exists_lt_zoomedAfter_grow hone hmin hfirst hle hbound

/-- With the usual settings every step makes progress: from sixteen samples on, which is the
least capacity, a step adds more than a half. -/
theorem zoomedCapacity_progress_usual :
    ({} : Config).check = .ok () ∧
      ∃ scale, Scalar.value? ({} : Config).capacityScale = some scale ∧
        512 < zoomedCapacity 512 true scale 16 ∧
        (∃ steps, zoomedAfter steps 512 false scale 16 = 16) ∧
        ∀ bound < greatestCapacity, ∃ steps, bound < zoomedAfter steps 16 true scale 16 := by
  have hcheck : ({} : Config).check = .ok () := by decide +kernel
  have hscale : Scalar.value? ({} : Config).capacityScale
      = some (4728779608739021 / 4503599627370496) := by decide +kernel
  obtain ⟨⟨-, hmore⟩, -, hshrinks, -⟩ := zoomedCapacity_progress hcheck hscale
    (show 16 ≤ 512 by decide) (by decide)
  obtain ⟨-, -, -, hgrows⟩ := zoomedCapacity_progress hcheck hscale (le_refl 16) (by decide)
  refine ⟨hcheck, _, hscale, hmore.2 (by norm_num), hshrinks.2 (Or.inr ?_),
    hgrows.2 (by norm_num)⟩
  show (1 : ℚ) / 2 < ((16 : ℕ) + 1) * _
  norm_num

/-- **Not every step makes progress.** The same factor and one as the least capacity make a config
that can be used, too, but with nine samples a step out leads to nine again, and so does any
number of them; and a step in from ten leads to ten. -/
theorem exists_zoomedCapacity_eq_self :
    ∃ (config : Config) (scale : ℚ), config.check = .ok () ∧
      Scalar.value? config.capacityScale = some scale ∧ config.minCapacity = 1 ∧
      zoomedCapacity 9 true scale 1 = 9 ∧
      (∀ steps, zoomedAfter steps 9 true scale 1 = 9) ∧
      zoomedCapacity 10 false scale 1 = 10 ∧ ∀ steps, zoomedAfter steps 10 false scale 1 = 10 := by
  have hscale : Scalar.value? 1.05 = some (4728779608739021 / 4503599627370496) := by
    decide +kernel
  have hgrow : zoomedCapacity 9 true (4728779608739021 / 4503599627370496 : ℚ) 1 = 9 := by
    decide +kernel
  have hshrink : zoomedCapacity 10 false (4728779608739021 / 4503599627370496 : ℚ) 1 = 10 := by
    decide +kernel
  exact ⟨{ minCapacity := 1 }, _, by decide +kernel, hscale, rfl, hgrow, zoomedAfter_of_eq hgrow,
    hshrink, zoomedAfter_of_eq hshrink⟩

end Config

end StripChart
