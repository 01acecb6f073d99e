import Mathlib.Data.List.DropRight
import StripChart.Machine
import StripChart.Ring

/-!
# What a ring remembers

A ring is described by far less than it is made of: a capacity and a list, the last
samples given that the capacity has room for. This file says so for every row of requests
made to a ring (`StripChart.Ring.exists_new?_shows`). The description is `Recent`, and
`Ring.Shows` lists all that a ring lets be seen of it.

Two facts carry the proof. Dropping what there is no room for, sample by sample, is
dropping it once at the end (`StripChart.rtake_rtake_append`), so a batch does to the list
what a single step of the description says. And a circle keeps its list through the turn
of its slots, which is settled beside the circle itself
(`StripChart.Circle.toList_put`).
-/

namespace StripChart

variable {α : Type}

/-! ### The end of a list -/

theorem rtake_of_length_le {β : Type} {list : List β} {n : Nat} (h : list.length ≤ n) :
    list.rtake n = list := by
  rw [List.rtake, Nat.sub_eq_zero_of_le h, List.drop_zero]

/-- What is left of a list at its end is of the list. -/
theorem mem_of_mem_rtake {β : Type} {list : List β} {n : Nat} {item : β}
    (h : item ∈ list.rtake n) : item ∈ list := by
  rw [List.rtake_eq_reverse_take_reverse, List.mem_reverse] at h
  exact List.mem_reverse.1 (List.mem_of_mem_take h)

/-- **Room can be made at once**: what is dropped before more comes would be dropped
after it as well. -/
theorem rtake_rtake_append {β : Type} (list more : List β) (n : Nat) :
    (list.rtake n ++ more).rtake n = (list ++ more).rtake n := by
  simp only [List.rtake_eq_reverse_take_reverse, List.reverse_append, List.reverse_reverse,
    List.take_append, List.take_take]
  rw [Nat.min_eq_left (Nat.sub_le _ _)]

/-! ### What a batch does to the list -/

theorem Circle.toList_put_eq_rtake (circle : Circle α) (sample : Sample α) :
    (circle.put sample).toList = (circle.toList ++ [sample]).rtake circle.slots.size := by
  have hle := circle.count_le
  have hpos := circle.slots_pos
  rw [circle.toList_put sample]
  split
  · rename_i hroom
    have hlen : (circle.toList ++ [sample]).length ≤ circle.slots.size := by
      rw [List.length_append, List.length_singleton, circle.length_toList]
      exact hroom
    rw [rtake_of_length_le hlen]
  · rename_i hroom
    -- a full circle drops exactly one
    have hdrop : circle.toList.length + 1 - circle.slots.size = 1 := by
      rw [circle.length_toList]
      omega
    have hne : circle.toList ≠ [] := by
      rw [← List.length_pos_iff, circle.length_toList]
      omega
    rw [List.rtake, List.length_append, List.length_singleton, hdrop, List.drop_one,
      List.tail_append_of_ne_nil hne]

theorem Circle.size_slots_foldl_put (circle : Circle α) (batch : List (Sample α)) :
    (batch.foldl Circle.put circle).slots.size = circle.slots.size := by
  induction batch generalizing circle with
  | nil => rfl
  | cons sample rest ih => rw [List.foldl_cons, ih, Circle.size_slots_put]

theorem Circle.toList_foldl_put (circle : Circle α) (batch : List (Sample α)) :
    (batch.foldl Circle.put circle).toList = (circle.toList ++ batch).rtake circle.slots.size := by
  induction batch generalizing circle with
  | nil =>
    rw [List.append_nil, List.foldl_nil,
      rtake_of_length_le (circle.length_toList ▸ circle.count_le)]
  | cons sample rest ih =>
    rw [List.foldl_cons, ih, Circle.size_slots_put, Circle.toList_put_eq_rtake,
      rtake_rtake_append, List.append_assoc, List.singleton_append]

namespace Ring

@[simp] theorem capacity_pushAll (ring : Ring α) (batch : List (Sample α)) :
    (ring.pushAll batch).capacity = ring.capacity := by
  cases batch with
  | nil => rfl
  | cons sample rest => exact Circle.size_slots_foldl_put ring.toCircle (sample :: rest)

/-- **A batch leaves the last samples of the list that it makes longer.** -/
theorem toList_pushAll (ring : Ring α) (batch : List (Sample α)) :
    (ring.pushAll batch).toList = (ring.toList ++ batch).rtake ring.capacity := by
  cases batch with
  | nil =>
    rw [List.append_nil, rtake_of_length_le (ring.length_toList ▸ ring.size_le_capacity)]
    rfl
  | cons sample rest => exact Circle.toList_foldl_put ring.toCircle (sample :: rest)

@[simp] theorem capacity_resize [Scalar α] (ring : Ring α) (capacity : Nat) (h : 0 < capacity) :
    (ring.resize capacity h).capacity = capacity := by
  unfold resize
  split
  · rename_i heq
    exact heq.symm
  · rw [capacity_pushAll, capacity_new]

/-- **Another capacity leaves the last samples**, as many as there are or there is room
for. -/
theorem toList_resize [Scalar α] (ring : Ring α) (capacity : Nat) (h : 0 < capacity) :
    (ring.resize capacity h).toList = ring.toList.rtake (min ring.size capacity) := by
  have hlen := ring.length_toList
  have hle := ring.size_le_capacity
  unfold resize
  split
  · rw [rtake_of_length_le (by omega)]
  · rw [toList_pushAll, toList_new, List.nil_append, capacity_new, ← hlen]
    exact rtake_of_length_le (by rw [List.length_drop]; omega)

/-! ### Requests, and what they do to the description -/

/-- What a ring is asked to do. -/
inductive Request (α : Type)
  /-- To take a batch of samples. -/
  | pushAll (batch : List (Sample α))
  /-- To change its capacity. -/
  | resize (capacity : Nat)
  /-- To forget everything. -/
  | clear

/-- Serves a request and gives the answer to it. A capacity that is refused leaves the ring
as it is. -/
def serve [Scalar α] (ring : Ring α) : Request α → Ring α × List (Except InvalidCapacity Unit)
  | .pushAll batch => (ring.pushAll batch, [.ok ()])
  | .resize capacity =>
    match ring.resize? capacity with
    | .ok after => (after, [.ok ()])
    | .error error => (ring, [.error error])
  | .clear => (ring.clear, [.ok ()])

end Ring

/-- A capacity, and the last samples given that it has room for. -/
structure Recent (α : Type) where
  /-- The greatest number of samples. -/
  capacity : Nat
  /-- The samples, the oldest first. -/
  samples : List (Sample α)

/-- What a request does to the description, and the answer to it. -/
def Recent.serve (recent : Recent α) :
    Ring.Request α → Recent α × List (Except InvalidCapacity Unit)
  | .pushAll batch =>
    ({ recent with samples := (recent.samples ++ batch).rtake recent.capacity }, [.ok ()])
  | .resize 0 => (recent, [.error .zero])
  | .resize (capacity + 1) =>
    ({ capacity := capacity + 1
       samples := recent.samples.rtake (min recent.samples.length (capacity + 1)) }, [.ok ()])
  | .clear => ({ recent with samples := [] }, [.ok ()])

namespace Ring

/-- **All that a ring lets be seen is what the description says**, and every slot that it
would read or write is one of its slots. -/
structure Shows (ring : Ring α) (recent : Recent α) : Prop where
  /-- The walk from the oldest sample to the newest. -/
  toList : ring.toList = recent.samples
  /-- The capacity. -/
  capacity : ring.capacity = recent.capacity
  /-- The number of samples. -/
  size : ring.size = recent.samples.length
  /-- There is room for all samples. -/
  length_le : recent.samples.length ≤ recent.capacity
  /-- Whether there are no samples. -/
  isEmpty : ring.isEmpty = true ↔ recent.samples = []
  /-- Whether there is room for no more. -/
  isFull : ring.isFull = true ↔ recent.samples.length = recent.capacity
  /-- The newest sample. -/
  latest? : ring.latest? = recent.samples.getLast?
  /-- The time of the oldest sample. -/
  oldest? : ring.oldest? = recent.samples.head?.map Sample.timestamp
  /-- There is one unless there are no samples. -/
  oldest?_eq_none : ring.oldest? = none ↔ recent.samples = []
  /-- The time of the newest sample. -/
  newest? : ring.newest? = recent.samples.getLast?.map Sample.timestamp
  /-- There is one unless there are no samples. -/
  newest?_eq_none : ring.newest? = none ↔ recent.samples = []
  /-- There are as many slots as the capacity says. -/
  size_slots : ring.slots.size = recent.capacity
  /-- The slot of the oldest sample is one of them. -/
  head_lt : ring.head < recent.capacity
  /-- The slot that is written next is one of them. -/
  tail_lt : ring.tail < recent.capacity
  /-- The slot of the newest sample is one of them. -/
  newestSlot_lt : ring.newestSlot < recent.capacity

theorem latest?_eq_getLast? (ring : Ring α) : ring.latest? = ring.toList.getLast? := by
  unfold latest?
  split
  · rename_i hempty
    have hsize : ring.count = 0 := by simpa [isEmpty, size] using hempty
    have hnil : ring.toList = [] := by
      rw [← List.length_eq_zero_iff, ring.length_toList, size, hsize]
    rw [hnil, List.getLast?_nil]
  · rename_i hempty
    have hsize : 0 < ring.count := by
      have : ¬ring.count = 0 := by simpa [isEmpty, size] using hempty
      omega
    rw [ring.getLast?_toList hsize]

/-- A ring shows the description that its list and its capacity make up: whatever else it
holds follows from the two. -/
theorem Shows.of_toList {ring : Ring α} {recent : Recent α}
    (hlist : ring.toList = recent.samples) (hcapacity : ring.capacity = recent.capacity) :
    ring.Shows recent := by
  obtain ⟨capacity, samples⟩ := recent
  dsimp only at hlist hcapacity
  subst hlist hcapacity
  have hlength := ring.length_toList
  exact
    { toList := rfl
      capacity := rfl
      size := hlength.symm
      length_le := hlength ▸ ring.size_le_capacity
      isEmpty := by rw [Ring.isEmpty, beq_iff_eq, ← hlength, List.length_eq_zero_iff]
      isFull := by rw [Ring.isFull, beq_iff_eq, hlength]
      latest? := ring.latest?_eq_getLast?
      oldest? := ring.oldest?_eq
      oldest?_eq_none := by rw [ring.oldest?_eq, Option.map_eq_none_iff, List.head?_eq_none_iff]
      newest? := ring.newest?_eq
      newest?_eq_none := by
        rw [ring.newest?_eq, Option.map_eq_none_iff, List.getLast?_eq_none_iff]
      size_slots := rfl
      head_lt := ring.head_lt
      tail_lt := ring.tail_lt
      newestSlot_lt := ring.newestSlot_lt }

/-- **One request**: a ring that shows a description shows what the request makes of it,
and gives the same answer. -/
theorem Shows.serve [Scalar α] {ring : Ring α} {recent : Recent α} (h : ring.Shows recent)
    (request : Request α) :
    (ring.serve request).1.Shows (recent.serve request).1 ∧
      (ring.serve request).2 = (recent.serve request).2 := by
  cases request with
  | pushAll batch =>
    refine ⟨.of_toList ?_ ?_, rfl⟩
    · rw [Ring.serve, toList_pushAll, h.toList, h.capacity, Recent.serve]
    · rw [Ring.serve, capacity_pushAll, h.capacity, Recent.serve]
  | resize capacity =>
    cases capacity with
    | zero => exact ⟨h, rfl⟩
    | succ capacity =>
      have hresize : ring.resize? (capacity + 1) = .ok (ring.resize (capacity + 1) (by omega)) :=
        dif_pos _
      rw [Ring.serve, hresize]
      refine ⟨.of_toList ?_ ?_, rfl⟩
      · rw [toList_resize, h.toList, h.size, Recent.serve]
      · rw [capacity_resize, Recent.serve]
  | clear => exact ⟨.of_toList rfl h.capacity, rfl⟩

/-- **A ring remembers the last samples**: from a new ring of any allowed capacity, every
row of requests leads to a ring that shows what the row makes of the empty description,
and the answers on the way are the same. -/
theorem exists_new?_shows [Scalar α] {capacity : Nat} (h : 0 < capacity) :
    ∃ ring : Ring α, new? capacity = .ok ring ∧
      ∀ requests : List (Request α),
        (Machine.run serve ring requests).1.Shows
            (Machine.run Recent.serve ⟨capacity, []⟩ requests).1 ∧
          (Machine.run serve ring requests).2
            = (Machine.run Recent.serve ⟨capacity, []⟩ requests).2 := by
  refine ⟨new capacity h, dif_pos h, fun requests => ?_⟩
  have hnew : (new capacity h : Ring α).Shows ⟨capacity, []⟩ :=
    .of_toList (toList_new capacity h) (capacity_new capacity h)
  exact Machine.run_related Shows (fun _ _ request hshows => hshows.serve request) hnew requests

/-- A ring for three samples of rational numbers. -/
theorem exists_new?_shows_three :
    0 < 3 ∧ ∃ ring : Ring Rat, new? 3 = .ok ring ∧
      ∀ requests : List (Request Rat),
        (Machine.run serve ring requests).1.Shows
            (Machine.run Recent.serve ⟨3, []⟩ requests).1 ∧
          (Machine.run serve ring requests).2
            = (Machine.run Recent.serve ⟨3, []⟩ requests).2 :=
  ⟨by decide, exists_new?_shows (by decide)⟩

-- five samples go round the end of three slots; with room for two the newest two are left
example :
    ((((new 3 (by decide) : Ring Rat).pushAll [⟨1, 10⟩, ⟨2, 20⟩]).pushAll
        [⟨3, 30⟩, ⟨4, 40⟩, ⟨5, 50⟩]).resize 2 (by decide)).toList = [⟨4, 40⟩, ⟨5, 50⟩] := by
  decide

end Ring

end StripChart
