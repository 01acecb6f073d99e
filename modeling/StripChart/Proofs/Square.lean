import Mathlib.Algebra.Order.Field.Rat
import Mathlib.Tactic.FieldSimp
import Mathlib.Tactic.Linarith
import Mathlib.Tactic.Positivity
import StripChart.Proofs.History
import StripChart.Proofs.Lines
import StripChart.Proofs.Upkeep

/-!
# Lines that stay inside the square

What is drawn is meant for a square with the corners minus one and one. An axis maps into it
what lies in the range of the axis, and nothing else; and the two ranges are found in two
ways. The range of the readings is found by looking at all of them, so no reading can lie
outside. The range of the times, the window, is found from the first and the last sample of
every ring alone, and covers the samples between only if they lie in the order of their times.

So this is asked for: of every channel, the samples it has accepted since it was last selected
or emptied (`Channels.accepted`) are in the order of their times. Then the lines are inside
the square, with exact arithmetic, after all requests there can be
(`Channels.exists_new?_linesInside`). What carries it from the samples accepted to those in
the ring is that these are always the end of those (`Channels.rel_samples?_accepted`), which
in turn are in order as all of them are.
-/

namespace StripChart

/-! ### Axes of rational numbers -/

section Axes

variable (min max flat a b : Rat)

theorem Scalar.least_rat : Scalar.least a b = Min.min a b := by
  show (if a < b then a else b) = _
  rcases lt_or_ge a b with h | h
  · rw [if_pos h, min_eq_left h.le]
  · rw [if_neg h.not_gt, min_eq_right h]

theorem Scalar.greatest_rat : Scalar.greatest a b = Max.max a b := by
  show (if b < a then a else b) = _
  rcases lt_or_ge b a with h | h
  · rw [if_pos h, max_eq_left h.le]
  · rw [if_neg h.not_gt, max_eq_right h]

namespace Axis

theorem flatTime_rat : (flatTime : Rat) = -1 :=
  zero_sub 1

theorem flatValue_rat : (flatValue : Rat) = 0 :=
  rfl

/-- An axis with a width maps its range onto the numbers from minus one to one, and one
without maps everything to one place. -/
theorem map_new :
    (Axis.new min max flat).map a
      = if min < max then (a - min) * (2 / (max - min)) - 1 else flat := by
  have hpos : Scalar.isPositive (max - min) = decide (min < max) := by
    show decide (0 < max - min) = _
    rw [decide_eq_decide, sub_pos]
  have hslope : (Axis.new min max flat).slope
      = if min < max then some (2 / (max - min)) else none := by
    show (if Scalar.isPositive (max - min) && true then some (2 / (max - min)) else none) = _
    rw [hpos, Bool.and_true]
    simp only [decide_eq_true_eq]
  rw [map, hslope]
  split <;> rename_i hmap <;> split at hmap <;> rename_i hlt
  · obtain rfl := Option.some.inj hmap
    rw [if_pos hlt]
    rfl
  · cases hmap
  · cases hmap
  · rw [if_neg hlt]
    rfl

variable {min max flat a b}

/-- **What lies in the range is mapped into the square.** -/
theorem map_new_mem (hmin : min ≤ a) (hmax : a ≤ max) (hflat : -1 ≤ flat ∧ flat ≤ 1) :
    -1 ≤ (Axis.new min max flat).map a ∧ (Axis.new min max flat).map a ≤ 1 := by
  rw [map_new]
  split
  · rename_i hlt
    have hspan : 0 < max - min := sub_pos.2 hlt
    have hscaled : (a - min) * (2 / (max - min)) ≤ (max - min) * (2 / (max - min)) :=
      mul_le_mul_of_nonneg_right (by linarith) (by positivity)
    have htwo : (max - min) * (2 / (max - min)) = 2 := by field_simp
    have hnonneg : 0 ≤ (a - min) * (2 / (max - min)) :=
      mul_nonneg (sub_nonneg.2 hmin) (by positivity)
    constructor <;> linarith
  · exact hflat

/-- An axis keeps the order. -/
theorem map_new_mono (h : a ≤ b) :
    (Axis.new min max flat).map a ≤ (Axis.new min max flat).map b := by
  rw [map_new, map_new]
  split
  · rename_i hlt
    have hspan : 0 < max - min := sub_pos.2 hlt
    have hscaled : (a - min) * (2 / (max - min)) ≤ (b - min) * (2 / (max - min)) :=
      mul_le_mul_of_nonneg_right (by linarith) (by positivity)
    linarith
  · exact le_refl flat

/-- The end of the range is mapped to the edge of the square. -/
theorem map_new_max (h : min < max) : (Axis.new min max flat).map max = 1 := by
  have hspan : max - min ≠ 0 := (sub_pos.2 h).ne'
  have htwo : (max - min) * (2 / (max - min)) = 2 := by field_simp
  rw [map_new, if_pos h, htwo]
  norm_num

end Axis

end Axes

/-! ### Samples in order -/

/-- No sample was taken before one that comes earlier in the list. -/
def InOrder (samples : List (Sample Rat)) : Prop :=
  samples.Pairwise fun first second => first.timestamp ≤ second.timestamp

instance (samples : List (Sample Rat)) : Decidable (InOrder samples) :=
  inferInstanceAs (Decidable (List.Pairwise _ _))

/-- If samples are in order, none is newer than the last. -/
theorem InOrder.le_last {samples : List (Sample Rat)} (h : InOrder samples)
    {last sample : Sample Rat} (hlast : samples.getLast? = some last) (hmem : sample ∈ samples) :
    sample.timestamp ≤ last.timestamp := by
  obtain ⟨front, rfl⟩ := List.getLast?_eq_some_iff.1 hlast
  rcases List.mem_append.1 hmem with hmem | hmem
  · exact (List.pairwise_append.1 h).2.2 sample hmem last List.mem_cons_self
  · rw [List.mem_singleton.1 hmem]

/-- If samples are in order, none is older than the first. -/
theorem InOrder.head_le {samples : List (Sample Rat)} (h : InOrder samples)
    {first sample : Sample Rat} (hfirst : samples.head? = some first) (hmem : sample ∈ samples) :
    first.timestamp ≤ sample.timestamp := by
  obtain ⟨rest, rfl⟩ := List.head?_eq_some_iff.1 hfirst
  rcases List.mem_cons.1 hmem with rfl | hmem
  · exact le_refl _
  · exact (List.pairwise_cons.1 h).1 sample hmem

/-- The window of a list of samples reaches from the first to the last. -/
theorem Window.exists_of_ofSamples? {α : Type} {samples : List (Sample α)} {window : Window α}
    (h : ofSamples? samples = some window) :
    ∃ oldest newest, samples.head? = some oldest ∧ samples.getLast? = some newest ∧
      window = ⟨oldest.timestamp, newest.timestamp⟩ := by
  rw [ofSamples?] at h
  obtain ⟨oldest, holdest, h⟩ := Option.bind_eq_some_iff.1 h
  obtain ⟨newest, hnewest, h⟩ := Option.bind_eq_some_iff.1 h
  exact ⟨oldest, newest, holdest, hnewest, (Option.some.inj h).symm⟩

/-- If samples are in order, the window from the first to the last covers all of them. -/
theorem InOrder.mem_ofSamples? {samples : List (Sample Rat)} (h : InOrder samples)
    {window : Window Rat} (hwindow : Window.ofSamples? samples = some window)
    {sample : Sample Rat} (hmem : sample ∈ samples) :
    window.min ≤ sample.timestamp ∧ sample.timestamp ≤ window.max := by
  obtain ⟨oldest, newest, holdest, hnewest, rfl⟩ := Window.exists_of_ofSamples? hwindow
  exact ⟨h.head_le holdest hmem, h.le_last hnewest hmem⟩

/-! ### Windows of rational numbers -/

namespace Window

/-- The window reaches from before the other to behind it. -/
def Covers (window other : Window Rat) : Prop :=
  window.min ≤ other.min ∧ other.max ≤ window.max

theorem min_union (first second : Window Rat) :
    (first.union second).min = Min.min first.min second.min :=
  Scalar.least_rat ..

theorem max_union (first second : Window Rat) :
    (first.union second).max = Max.max first.max second.max :=
  Scalar.greatest_rat ..

/-- Joining windows covers them, and ends where one of them ends. -/
theorem foldl_union (first : Window Rat) (rest : List (Window Rat)) :
    (∀ window ∈ first :: rest, (rest.foldl union first).Covers window) ∧
      ∃ window ∈ first :: rest, (rest.foldl union first).max = window.max := by
  induction rest generalizing first with
  | nil =>
    refine ⟨fun window hmem => ?_, first, List.mem_cons_self, rfl⟩
    rw [List.mem_singleton.1 hmem]
    exact ⟨le_refl _, le_refl _⟩
  | cons second rest ih =>
    obtain ⟨hcovers, last, hlast, hmax⟩ := ih (first.union second)
    -- what covers the join of two covers both
    obtain ⟨hmin_le, hle_max⟩ := hcovers _ List.mem_cons_self
    rw [min_union, le_min_iff] at hmin_le
    rw [max_union, max_le_iff] at hle_max
    refine ⟨fun window hmem => ?_, ?_⟩
    · rcases List.mem_cons.1 hmem with rfl | hmem
      · exact ⟨hmin_le.1, hle_max.1⟩
      · rcases List.mem_cons.1 hmem with rfl | hmem
        · exact ⟨hmin_le.2, hle_max.2⟩
        · exact hcovers window (List.mem_cons_of_mem _ hmem)
    · rcases List.mem_cons.1 hlast with rfl | hlast
      · rw [max_union] at hmax
        rcases max_choice first.max second.max with hchoice | hchoice
        · exact ⟨first, List.mem_cons_self, hmax.trans hchoice⟩
        · exact ⟨second, List.mem_cons_of_mem _ List.mem_cons_self, hmax.trans hchoice⟩
      · exact ⟨last, List.mem_cons_of_mem _ (List.mem_cons_of_mem _ hlast), hmax⟩

variable {windows : List (Window Rat)} {joined : Window Rat}

theorem covers_of_unionAll? (h : unionAll? windows = some joined) {window : Window Rat}
    (hmem : window ∈ windows) : joined.Covers window := by
  cases windows with
  | nil => cases hmem
  | cons first rest =>
    obtain rfl := Option.some.inj h
    exact (foldl_union first rest).1 window hmem

theorem exists_max_of_unionAll? (h : unionAll? windows = some joined) :
    ∃ window ∈ windows, joined.max = window.max := by
  cases windows with
  | nil => cases h
  | cons first rest =>
    obtain rfl := Option.some.inj h
    exact (foldl_union first rest).2

end Window

/-! ### The range of readings -/

namespace Line

/-- The least and the greatest reading are a range of all of them. -/
theorem foldl_range (samples : List (Sample Rat)) (range : Rat × Rat) :
    let found := samples.foldl (fun range sample =>
      (Scalar.least range.1 sample.value, Scalar.greatest range.2 sample.value)) range
    (found.1 ≤ range.1 ∧ range.2 ≤ found.2) ∧
      ∀ sample ∈ samples, found.1 ≤ sample.value ∧ sample.value ≤ found.2 := by
  induction samples generalizing range with
  | nil => exact ⟨⟨le_refl _, le_refl _⟩, fun _ hmem => absurd hmem List.not_mem_nil⟩
  | cons sample rest ih =>
    obtain ⟨⟨hmin, hmax⟩, hrest⟩ :=
      ih (Scalar.least range.1 sample.value, Scalar.greatest range.2 sample.value)
    have hboth := le_min_iff.1 (hmin.trans_eq (Scalar.least_rat ..))
    have hboth' := max_le_iff.1 ((Scalar.greatest_rat ..).symm.trans_le hmax)
    refine ⟨⟨hboth.1, hboth'.1⟩, fun other hmem => ?_⟩
    rcases List.mem_cons.1 hmem with rfl | hmem
    · exact ⟨hboth.2, hboth'.2⟩
    · exact hrest other hmem

/-- Among equal readings the least and the greatest are equal. -/
theorem foldl_range_of_eq {samples : List (Sample Rat)} {value : Rat}
    (h : ∀ sample ∈ samples, sample.value = value) :
    samples.foldl (fun range sample =>
      (Scalar.least range.1 sample.value, Scalar.greatest range.2 sample.value)) (value, value)
        = (value, value) := by
  induction samples with
  | nil => rfl
  | cons sample rest ih =>
    rw [List.foldl_cons, h sample List.mem_cons_self]
    dsimp only
    rw [Scalar.least_rat, Scalar.greatest_rat, min_self, max_self]
    exact ih fun other hmem => h other (List.mem_cons_of_mem _ hmem)

variable {samples : List (Sample Rat)}

/-- **The axis of the readings maps each of them into the square.** -/
theorem valueAxis_map_mem {sample : Sample Rat} (hmem : sample ∈ samples) :
    -1 ≤ (valueAxis samples).map sample.value ∧ (valueAxis samples).map sample.value ≤ 1 := by
  cases samples with
  | nil => cases hmem
  | cons first rest =>
    obtain ⟨⟨hmin, hmax⟩, hrest⟩ := foldl_range rest (first.value, first.value)
    have hflat : (-1 : Rat) ≤ Axis.flatValue ∧ (Axis.flatValue : Rat) ≤ 1 := by
      rw [Axis.flatValue_rat]
      norm_num
    rcases List.mem_cons.1 hmem with rfl | hmem
    · exact Axis.map_new_mem hmin hmax hflat
    · exact Axis.map_new_mem (hrest sample hmem).1 (hrest sample hmem).2 hflat

/-- **Equal readings lie in the middle.** -/
theorem valueAxis_map_of_eq (h : ∀ first ∈ samples, ∀ second ∈ samples, first.value = second.value)
    (a : Rat) : (valueAxis samples).map a = 0 := by
  cases samples with
  | nil => rfl
  | cons first rest =>
    have hrange := foldl_range_of_eq fun sample hmem =>
      h sample (List.mem_cons_of_mem _ hmem) first List.mem_cons_self
    simp only [valueAxis, valueRange?, hrange]
    rw [Axis.map_new, if_neg (lt_irrefl _), Axis.flatValue_rat]

/-! ### How a line lies in the square -/

/-- **A line lies in the square** as it should, if it is drawn through these samples over this
window. -/
structure Lies (slots : Nat) (samples : List (Sample Rat)) (window : Window Rat)
    (points : List (Rat × Rat)) : Prop where
  /-- It has a point for every slot. -/
  length : points.length = slots
  /-- Across, every point is inside. -/
  across : ∀ point ∈ points, -1 ≤ point.1 ∧ point.1 ≤ 1
  /-- Upwards, every point is inside. -/
  upwards : ∀ point ∈ points, -1 ≤ point.2 ∧ point.2 ≤ 1
  /-- It never turns back. -/
  forwards : points.Pairwise fun first second => first.1 ≤ second.1
  /-- Over a window with a width, samples that reach to its end are drawn up to the edge. -/
  reaches : 0 < window.length → (∃ sample ∈ samples, window.max ≤ sample.timestamp) →
    points.getLast?.map Prod.fst = some 1
  /-- Over a window without width all points are at the left. -/
  narrow : window.length = 0 → ∀ point ∈ points, point.1 = -1
  /-- Equal readings are drawn in the middle. -/
  level : (∀ first ∈ samples, ∀ second ∈ samples, first.value = second.value) →
    ∀ point ∈ points, point.2 = 0

/-- **The line of samples that lie in order in the window lies in the square.** -/
theorem lies_of_points? {slots : Nat} {ring : Ring Rat} {window : Window Rat}
    {points : List (Rat × Rat)} (hpoints : points? slots ring window = some points)
    (horder : InOrder ring.toList)
    (hwithin : ∀ sample ∈ ring.toList,
      window.min ≤ sample.timestamp ∧ sample.timestamp ≤ window.max) :
    Lies slots ring.toList window points := by
  have hlength : window.length = window.max - window.min := rfl
  have hflat : (-1 : Rat) ≤ Axis.flatTime ∧ (Axis.flatTime : Rat) ≤ 1 := by
    rw [Axis.flatTime_rat]
    norm_num
  refine
    { length := length_of_points? hpoints
      across := fun point hmem => ?_
      upwards := fun point hmem => ?_
      forwards := pairwise_of_points? hpoints (fun point => le_refl point.1)
        (horder.imp fun hle => Axis.map_new_mono hle)
      reaches := ?_
      narrow := fun hzero point hmem => ?_
      level := fun hequal point hmem => ?_ }
  · obtain ⟨sample, hsample, rfl⟩ := exists_of_mem_points? hpoints hmem
    exact Axis.map_new_mem (hwithin sample hsample).1 (hwithin sample hsample).2 hflat
  · obtain ⟨sample, hsample, rfl⟩ := exists_of_mem_points? hpoints hmem
    exact valueAxis_map_mem hsample
  · rintro hwide ⟨sample, hsample, hreach⟩
    rw [getLast?_of_points? hpoints]
    rcases hlast : ring.toList.getLast? with - | last
    · rw [List.getLast?_eq_none_iff.1 hlast] at hsample
      cases hsample
    · -- the last sample is not older than the one at the end of the window
      have hmax : last.timestamp = window.max :=
        le_antisymm (hwithin last (List.mem_of_getLast? hlast)).2
          (hreach.trans (horder.le_last hlast hsample))
      rw [hlength, sub_pos] at hwide
      show some ((timeAxis window).map last.timestamp) = some 1
      rw [hmax]
      exact congrArg some (Axis.map_new_max hwide)
  · obtain ⟨sample, -, rfl⟩ := exists_of_mem_points? hpoints hmem
    have hnot : ¬window.min < window.max := by
      rw [hlength, sub_eq_zero] at hzero
      exact hzero ▸ lt_irrefl _
    show (Axis.new window.min window.max Axis.flatTime).map sample.timestamp = -1
    rw [Axis.map_new, if_neg hnot, Axis.flatTime_rat]
  · obtain ⟨sample, -, rfl⟩ := exists_of_mem_points? hpoints hmem
    exact valueAxis_map_of_eq hequal sample.value

end Line

/-! ### The samples that a channel has accepted -/

namespace Channels

section Accepted

variable {α : Type}

/-- What a request does to the samples that a channel has accepted since it was last selected
or emptied. A channel that is not selected accepts none. -/
def accept (channel : String) (given : Option (List (Sample α))) :
    Request α → Option (List (Sample α))
  | .setSelection name selected _ =>
    if name = channel then if selected then some (given.getD []) else none else given
  | .record name batch => if name = channel then given.map (· ++ batch) else given
  | .clear => given.map fun _ => []
  | _ => given

/-- The samples that a channel has accepted since it was last selected or emptied. -/
def accepted (channel : String) (requests : List (Request α)) : Option (List (Sample α)) :=
  requests.foldl (accept channel) none

/-- Of the samples given the ring holds the last, be they many or few. -/
def HoldsEnd (ring : Ring α) (given : List (Sample α)) : Prop :=
  ring.toList <:+ given

theorem HoldsEnd.pushAll {ring : Ring α} {given : List (Sample α)} (h : HoldsEnd ring given)
    (batch : List (Sample α)) : HoldsEnd (ring.pushAll batch) (given ++ batch) := by
  obtain ⟨front, rfl⟩ := h
  rw [HoldsEnd, Ring.toList_pushAll, List.append_assoc]
  exact (List.drop_suffix _ _).trans (List.suffix_append _ _)

variable [Scalar α]

theorem HoldsEnd.resize {ring : Ring α} {given : List (Sample α)} (h : HoldsEnd ring given)
    (capacity : Nat) (hpos : 0 < capacity) : HoldsEnd (ring.resize capacity hpos) given := by
  rw [HoldsEnd, Ring.toList_resize]
  exact (List.drop_suffix _ _).trans h

variable {set : Channels α} {channel : String} {given : Option (List (Sample α))}

/-- **Every request keeps to the end of what was accepted**: a ring may drop samples at its
old end and take them at its new end, and does nothing else with them. -/
theorem rel_samples?_serve (h : Option.Rel HoldsEnd (set.samples? channel) given)
    (request : Request α) :
    Option.Rel HoldsEnd ((set.serve request).samples? channel) (accept channel given request) := by
  have hresize (capacity : Nat) (hpos : 0 < capacity) :
      Option.Rel HoldsEnd ((set.resize capacity hpos).samples? channel) given := by
    rw [samples?_resize]
    generalize set.samples? channel = found at h
    cases h with
    | none => exact .none
    | some hend => exact .some (hend.resize capacity hpos)
  cases request with
  | setSelection name selected palette =>
    cases selected with
    | false =>
      show Option.Rel HoldsEnd ((set.deselect name).samples? channel) _
      rw [samples?_deselect]
      simp only [accept, eq_comm]
      split
      · exact .none
      · exact h
    | true =>
      show Option.Rel HoldsEnd ((set.select name palette).1.samples? channel) _
      rw [samples?_select]
      simp only [accept, eq_comm]
      split
      · -- a channel that is selected already keeps its ring
        rename_i heq
        subst heq
        generalize set.samples? channel = found at h
        cases h with
        | none => exact .some List.suffix_rfl
        | some hend => exact .some hend
      · exact h
  | recolor name color =>
    show Option.Rel HoldsEnd ((set.recolor name color).samples? channel) given
    rwa [samples?_recolor]
  | record name batch =>
    show Option.Rel HoldsEnd ((set.record name batch).1.samples? channel) _
    rw [samples?_record]
    simp only [accept, eq_comm]
    split
    · rename_i heq
      subst heq
      exact rel_map h fun ring samples hend => hend.pushAll batch
    · exact h
  | resize capacity =>
    rw [serve_resize]
    split
    · exact hresize capacity _
    · exact h
  | zoom grow scale minimum => exact hresize _ _
  | clear =>
    show Option.Rel HoldsEnd (set.clear.samples? channel) _
    rw [samples?_clear]
    exact rel_map h fun ring samples _ => List.suffix_rfl

/-- **What a ring holds is the end of what its channel has accepted** since it was last
selected or emptied, and there is a ring just if there is a channel to accept something. -/
theorem rel_samples?_accepted {capacity : Nat} (h : 0 < capacity) (requests : List (Request α))
    (channel : String) :
    Option.Rel HoldsEnd (((new capacity h).after requests).samples? channel)
      (accepted channel requests) := by
  induction requests using List.reverseRecOn with
  | nil => exact .none
  | append_singleton requests request ih =>
    rw [after_concat, accepted, List.foldl_concat]
    exact rel_samples?_serve ih request

end Accepted

/-! ### All lines of a set -/

section Lines

variable {set : Channels Rat}

/-- The samples of a ring are samples of the set: its window is one of those that are joined. -/
theorem Coherent.covers (h : set.Coherent) {window : Window Rat}
    (hwindow : set.window = some window) {channel : String} {ring : Ring Rat}
    (hring : set.samples? channel = some ring)
    {extent : Window Rat} (hextent : Window.ofSamples? ring.toList = some extent) :
    window.Covers extent := by
  obtain ⟨found, hfound, rfl⟩ := Option.map_eq_some_iff.1 hring
  refine Window.covers_of_unionAll? (h.window_eq_unionAll?.symm.trans hwindow) ?_
  exact List.mem_filterMap.2 ⟨found, ByName.mem_values_iff.2 ⟨channel, hfound⟩, hextent⟩

/-- The window of a set ends where the samples of one of its channels end. -/
theorem Coherent.exists_newest (h : set.Coherent) {window : Window Rat}
    (hwindow : set.window = some window) :
    ∃ channel ring, set.samples? channel = some ring ∧
      ∃ newest ∈ ring.toList, newest.timestamp = window.max := by
  obtain ⟨extent, hmem, hmax⟩ :=
    Window.exists_max_of_unionAll? (h.window_eq_unionAll?.symm.trans hwindow)
  obtain ⟨found, hfound, hextent⟩ := List.mem_filterMap.1 hmem
  obtain ⟨channel, hchannel⟩ := ByName.mem_values_iff.1 hfound
  refine ⟨channel, found.samples, by rw [samples?, hchannel, Option.map_some], ?_⟩
  obtain ⟨oldest, newest, -, hnewest, rfl⟩ := Window.exists_of_ofSamples? hextent
  exact ⟨newest, List.mem_of_getLast? hnewest, hmax.symm⟩

/-- A channel with two samples or more has a line, and no other. -/
theorem Coherent.mem_channels_draw (h : set.Coherent) {slots : Nat} (hslots : 0 < slots)
    {channel : String} :
    channel ∈ (set.draw slots).map Line.channel
      ↔ ∃ ring, set.samples? channel = some ring ∧ 2 ≤ ring.size := by
  constructor
  · intro hmem
    obtain ⟨line, hline, rfl⟩ := List.mem_map.1 hmem
    obtain ⟨window, found, -, hfound, -, hpoints⟩ := mem_draw_iff.1 hline
    refine ⟨found.samples, by rw [samples?, hfound, Option.map_some], ?_⟩
    exact (Line.isSome_points?.1 (Option.isSome_of_eq_some hpoints)).1
  · rintro ⟨ring, hring, htwo⟩
    rcases hwindow : set.window with - | window
    · -- without a window no ring would hold anything
      have hnil := h.window_eq_none_iff.1 hwindow channel ring hring
      rw [← ring.length_toList, hnil, List.length_nil] at htwo
      omega
    · obtain ⟨found, hfound, rfl⟩ := Option.map_eq_some_iff.1 hring
      obtain ⟨points, hpoints⟩ := Option.isSome_iff_exists.1
        (Line.isSome_points?.2 ⟨htwo, hslots⟩ : (Line.points? slots _ window).isSome = true)
      have hline : ⟨channel, found.color, points⟩ ∈ set.draw slots :=
        mem_draw_iff.2 ⟨window, found, hwindow, hfound, rfl, hpoints⟩
      exact List.mem_map.2 ⟨_, hline, rfl⟩

/-- **Every line of a set lies in the square**, if the samples of each ring are in order. -/
theorem Coherent.lies_of_mem_draw (h : set.Coherent)
    (horder : ∀ channel ring, set.samples? channel = some ring → InOrder ring.toList)
    {slots : Nat} {line : Line Rat} (hline : line ∈ set.draw slots) :
    ∃ ring window, set.samples? line.channel = some ring ∧ set.window = some window ∧
      Line.Lies slots ring.toList window line.points := by
  obtain ⟨window, found, hwindow, hfound, -, hpoints⟩ := mem_draw_iff.1 hline
  have hring : set.samples? line.channel = some found.samples := by
    rw [samples?, hfound, Option.map_some]
  refine ⟨found.samples, window, hring, hwindow,
    Line.lies_of_points? hpoints (horder _ _ hring) fun sample hmem => ?_⟩
  rcases hextent : Window.ofSamples? found.samples.toList with - | extent
  · rw [Window.ofSamples?_eq_none.1 hextent] at hmem
    cases hmem
  · obtain ⟨hmin, hmax⟩ := (horder _ _ hring).mem_ofSamples? hextent hmem
    obtain ⟨hmin', hmax'⟩ := h.covers hwindow hring hextent
    exact ⟨hmin'.trans hmin, hmax.trans hmax'⟩

/-- **The lines of a set lie in the square.** From a new set of any allowed capacity, after any
requests by which every channel has accepted its samples in the order of their times since it
was last selected or emptied:

* There is one line for each channel that holds two samples or more, and for no other, in the
  order of their names.
* Each has as many points as there are slots, all of them in the square, and never turns back.
* If the window has a width, the line of a channel that holds a sample as new as any of the
  set ends at the right edge. If it has none, every line stays at the left edge.
* Equal readings are drawn in the middle. -/
theorem exists_new?_linesInside {capacity : Nat} (h : 0 < capacity) :
    ∃ fresh : Channels Rat, new? capacity = .ok fresh ∧ ∀ requests : List (Request Rat),
      (∀ channel samples, accepted channel requests = some samples → InOrder samples) →
      ∀ slots, 0 < slots →
        let set := fresh.after requests
        ((set.draw slots).map Line.channel).Pairwise (· < ·) ∧
        (∀ channel, channel ∈ (set.draw slots).map Line.channel
          ↔ ∃ ring, set.samples? channel = some ring ∧ 2 ≤ ring.size) ∧
        ∀ line ∈ set.draw slots, ∃ ring window,
          set.samples? line.channel = some ring ∧ set.window = some window ∧
          line.points.length = slots ∧
          (∀ point ∈ line.points, (-1 ≤ point.1 ∧ point.1 ≤ 1) ∧ -1 ≤ point.2 ∧ point.2 ≤ 1) ∧
          line.points.Pairwise (fun first second => first.1 ≤ second.1) ∧
          (0 < window.length →
            (∃ newest ∈ ring.toList, ∀ other ring', set.samples? other = some ring' →
              ∀ sample ∈ ring'.toList, sample.timestamp ≤ newest.timestamp) →
            line.points.getLast?.map Prod.fst = some 1) ∧
          (window.length = 0 → ∀ point ∈ line.points, point.1 = -1) ∧
          ((∀ first ∈ ring.toList, ∀ second ∈ ring.toList, first.value = second.value) →
            ∀ point ∈ line.points, point.2 = 0) := by
  refine ⟨new capacity h, dif_pos h, fun requests horder slots hslots => ?_⟩
  intro set
  have hcoherent : set.Coherent := (coherent_new capacity h).after requests
  have hrings : ∀ channel ring, set.samples? channel = some ring → InOrder ring.toList := by
    intro channel ring hring
    have hrel := rel_samples?_accepted h requests channel
    rw [show ((new capacity h).after requests).samples? channel = some ring from hring] at hrel
    generalize haccepted : accepted channel requests = given at hrel
    cases hrel with
    | some hend => exact (horder channel _ haccepted).sublist hend.sublist
  refine ⟨set.pairwise_channels_draw slots, fun channel => hcoherent.mem_channels_draw hslots,
    fun line hline => ?_⟩
  obtain ⟨ring, window, hring, hwindow, hlies⟩ := hcoherent.lies_of_mem_draw hrings hline
  refine ⟨ring, window, hring, hwindow, hlies.length,
    fun point hmem => ⟨hlies.across point hmem, hlies.upwards point hmem⟩, hlies.forwards,
    fun hwide hnewest => hlies.reaches hwide ?_, hlies.narrow, hlies.level⟩
  -- the window ends with a sample of the set, and none is newer than the newest of this ring
  obtain ⟨newest, hmem, hleast⟩ := hnewest
  obtain ⟨other, ring', hring', last, hlast, hmax⟩ := hcoherent.exists_newest hwindow
  exact ⟨newest, hmem, hmax ▸ hleast other ring' hring' last hlast⟩

/-- Two channels, one of which was given samples out of order before it was emptied, and the
other of which is at a standstill. -/
def twoLines : List (Request Rat) :=
  [.setSelection "volts" true ⟨0⟩, .record "volts" [⟨3, 50⟩, ⟨4, 20⟩], .clear,
    .setSelection "amps" true ⟨1⟩, .record "amps" [⟨7, 10⟩, ⟨7, 15⟩],
    .record "volts" [⟨1, 10⟩, ⟨2, 20⟩], .resize 3, .record "volts" [⟨5, 30⟩, ⟨3, 40⟩]]

/-- Since the set was emptied, no channel has been given samples out of order. -/
theorem inOrder_accepted_twoLines (channel : String) (samples : List (Sample Rat))
    (h : accepted channel twoLines = some samples) : InOrder samples := by
  by_cases hvolts : "volts" = channel
  · subst hvolts
    obtain rfl := Option.some.inj h
    decide +kernel
  · by_cases hamps : "amps" = channel
    · subst hamps
      obtain rfl := Option.some.inj h
      decide +kernel
    · -- nothing else is ever selected
      simp [accepted, accept, twoLines, hvolts, hamps] at h

theorem exists_new?_linesInside_twoLines :
    ∃ fresh : Channels Rat, new? 8 = .ok fresh ∧
      let set := fresh.after twoLines
      (set.draw 4).map Line.channel = ["amps", "volts"] ∧
        ∀ line ∈ set.draw 4, line.points.length = 4 ∧
          ∀ point ∈ line.points, (-1 ≤ point.1 ∧ point.1 ≤ 1) ∧ -1 ≤ point.2 ∧ point.2 ≤ 1 := by
  obtain ⟨fresh, hfresh, hall⟩ := exists_new?_linesInside (show 0 < 8 by decide)
  obtain ⟨-, -, hlines⟩ := hall twoLines inOrder_accepted_twoLines 4 (by decide)
  obtain rfl : fresh = new 8 (by decide) := (Except.ok.inj hfresh).symm
  refine ⟨_, hfresh, by decide +kernel, fun line hline => ?_⟩
  obtain ⟨-, -, -, -, hlength, hinside, -⟩ := hlines line hline
  exact ⟨hlength, hinside⟩

-- the line at a standstill stays in the middle and stops short of the edge; the other, of which
-- three samples are left, has its last point twice
example :
    (((new 8 (by decide) : Channels Rat).after twoLines).draw 4).map Line.points
      = [[(-1, 0), (-2 / 3, 0), (-2 / 3, 0), (-2 / 3, 0)],
        [(-1 / 3, -1), (1 / 3, 1), (1, -1 / 3), (1, -1 / 3)]] := by
  decide +kernel

end Lines

end Channels

end StripChart
