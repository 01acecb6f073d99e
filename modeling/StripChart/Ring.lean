import StripChart.Sample
import StripChart.Scalar

/-!
# Rings

A `Ring` remembers the last samples it was given, at most as many as its capacity. Once
it is full every new sample takes the place of the oldest.

The samples lie in a `Circle` of slots, as many as the capacity allows, of which `count`
are in use: those from `head` on, round the end if need be, up to `tail`, which is where
the next sample goes. What a circle holds is therefore `Circle.toList`, and everything
else is described through that list (`Circle.toList_put`).

A ring knows the times of its oldest and its newest sample besides, so that the window of
a tab is found without a walk through its samples. They are brought up to date once for a
whole batch and would be wrong in the middle of one, which is why the slots have a type of
their own.
-/

namespace StripChart

variable {α : Type}

/-- A capacity that is refused. -/
inductive InvalidCapacity
  /-- Nothing can hold zero samples and still be of use. -/
  | zero
  deriving DecidableEq, Repr

/-- What is said about the capacity. -/
def InvalidCapacity.message : InvalidCapacity → String
  | .zero => "capacity must be at least 1"

/-! ### Going round -/

/-- Whoever goes round less than twice passes the end once at most. -/
theorem mod_eq_ite_of_lt_two_mul {m n : Nat} (h : m < 2 * n) :
    m % n = if m < n then m else m - n := by
  split
  · rename_i hlt
    exact Nat.mod_eq_of_lt hlt
  · rename_i hge
    rw [Nat.mod_eq_sub_mod (Nat.not_lt.1 hge), Nat.mod_eq_of_lt (by omega)]

/-- Two places less than one round after a third are the same only if they are equally
far from it. -/
theorem add_mod_inj {n a i j : Nat} (ha : a < n) (hi : i < n) (hj : j < n) :
    (a + i) % n = (a + j) % n ↔ i = j := by
  rw [mod_eq_ite_of_lt_two_mul (by omega), mod_eq_ite_of_lt_two_mul (by omega)]
  split <;> split <;> omega

/-! ### Circles -/

/-- Slots that are filled round and round. -/
structure Circle (α : Type) where
  /-- The slots, in use or not. -/
  slots : Array (Sample α)
  /-- The slot of the oldest sample. -/
  head : Nat
  /-- The slot that the next sample goes to. -/
  tail : Nat
  /-- How many slots are in use. -/
  count : Nat
  /-- There is one slot at least. -/
  slots_pos : 0 < slots.size
  /-- The oldest sample lies in one of the slots. -/
  head_lt : head < slots.size
  /-- No more slots are in use than there are. -/
  count_le : count ≤ slots.size
  /-- The next sample goes behind the newest. -/
  tail_eq : tail = (head + count) % slots.size

namespace Circle

/-- A circle of unused slots. An array of any capacity is taken to be had here; for the
capacities at which none can be, see `Representable` in `StripChart.Proofs.Capacities`. -/
def new [Scalar α] (capacity : Nat) (h : 0 < capacity) : Circle α where
  slots := Array.replicate capacity ⟨Scalar.ofNat 0, Scalar.ofNat 0⟩
  head := 0
  tail := 0
  count := 0
  slots_pos := by rwa [Array.size_replicate]
  head_lt := by rwa [Array.size_replicate]
  count_le := Nat.zero_le _
  tail_eq := (Nat.zero_mod _).symm

theorem tail_lt (circle : Circle α) : circle.tail < circle.slots.size :=
  circle.tail_eq ▸ Nat.mod_lt _ circle.slots_pos

/-- The sample in one of the slots. -/
def read (circle : Circle α) (slot : Nat) (h : slot < circle.slots.size) : Sample α :=
  circle.slots[slot]

/-- The sample that comes so many after the oldest. -/
def get (circle : Circle α) (offset : Nat) : Sample α :=
  circle.read ((circle.head + offset) % circle.slots.size) (Nat.mod_lt _ circle.slots_pos)

/-- The samples, the oldest first. -/
def toList (circle : Circle α) : List (Sample α) :=
  (List.range circle.count).map circle.get

/-- The slot of the newest sample: the one before that of the next. -/
def newestSlot (circle : Circle α) : Nat :=
  (circle.tail + circle.slots.size - 1) % circle.slots.size

theorem newestSlot_lt (circle : Circle α) : circle.newestSlot < circle.slots.size :=
  Nat.mod_lt _ circle.slots_pos

/-- Puts one sample in, in the place of the oldest if all slots are in use. -/
def put : Circle α → Sample α → Circle α
  | ⟨slots, head, tail, count, slots_pos, head_lt, count_le, tail_eq⟩, sample =>
    have tail_lt : tail < slots.size := tail_eq ▸ Nat.mod_lt _ slots_pos
    have size_set : (slots.set tail sample).size = slots.size := Array.size_set ..
    if h : count < slots.size then
      { slots := slots.set tail sample
        head
        tail := (tail + 1) % slots.size
        count := count + 1
        slots_pos := size_set ▸ slots_pos
        head_lt := size_set ▸ head_lt
        count_le := size_set ▸ h
        tail_eq := by rw [size_set, tail_eq, Nat.mod_add_mod, Nat.add_assoc] }
    else
      { slots := slots.set tail sample
        head := (head + 1) % slots.size
        tail := (tail + 1) % slots.size
        count
        slots_pos := size_set ▸ slots_pos
        head_lt := by rw [size_set]; exact Nat.mod_lt _ slots_pos
        count_le := size_set ▸ count_le
        tail_eq := by
          rw [size_set, tail_eq, Nat.mod_add_mod, Nat.mod_add_mod, Nat.add_right_comm] }

/-- Lets go of all samples; the slots stay. -/
def clear (circle : Circle α) : Circle α where
  slots := circle.slots
  head := 0
  tail := 0
  count := 0
  slots_pos := circle.slots_pos
  head_lt := circle.slots_pos
  count_le := Nat.zero_le _
  tail_eq := (Nat.zero_mod _).symm

/-! ### What a circle holds -/

@[simp] theorem length_toList (circle : Circle α) : circle.toList.length = circle.count := by
  simp [toList]

@[simp] theorem toList_new [Scalar α] (capacity : Nat) (h : 0 < capacity) :
    (new capacity h : Circle α).toList = [] :=
  rfl

@[simp] theorem toList_clear (circle : Circle α) : circle.clear.toList = [] :=
  rfl

theorem getElem?_toList (circle : Circle α) {offset : Nat} (h : offset < circle.count) :
    circle.toList[offset]? = some (circle.get offset) := by
  simp [toList, h]

theorem head?_toList (circle : Circle α) (h : 0 < circle.count) :
    circle.toList.head? = some (circle.read circle.head circle.head_lt) := by
  rw [List.head?_eq_getElem?, circle.getElem?_toList h]
  simp only [get, Nat.add_zero, Nat.mod_eq_of_lt circle.head_lt]

theorem getLast?_toList (circle : Circle α) (h : 0 < circle.count) :
    circle.toList.getLast? = some (circle.read circle.newestSlot circle.newestSlot_lt) := by
  have hslot : (circle.head + (circle.count - 1)) % circle.slots.size = circle.newestSlot := by
    have hpos := circle.slots_pos
    rw [newestSlot, circle.tail_eq, Nat.add_sub_assoc hpos, Nat.mod_add_mod,
      show circle.head + circle.count + (circle.slots.size - 1)
        = circle.head + (circle.count - 1) + circle.slots.size by omega, Nat.add_mod_right]
  rw [List.getLast?_eq_getElem?, length_toList, circle.getElem?_toList (by omega)]
  simp only [get, hslot]

@[simp] theorem size_slots_put (circle : Circle α) (sample : Sample α) :
    (circle.put sample).slots.size = circle.slots.size := by
  obtain ⟨slots, head, tail, count, slots_pos, head_lt, count_le, tail_eq⟩ := circle
  simp only [put]
  split <;> simp only [Array.size_set]

theorem count_put (circle : Circle α) (sample : Sample α) :
    (circle.put sample).count
      = if circle.count < circle.slots.size then circle.count + 1 else circle.count := by
  obtain ⟨slots, head, tail, count, slots_pos, head_lt, count_le, tail_eq⟩ := circle
  simp only [put]
  split <;> rfl

theorem get_put_of_lt {circle : Circle α} (hroom : circle.count < circle.slots.size)
    (sample : Sample α) {offset : Nat} (h : offset ≤ circle.count) :
    (circle.put sample).get offset
      = if offset = circle.count then sample else circle.get offset := by
  obtain ⟨slots, head, tail, count, slots_pos, head_lt, count_le, rfl⟩ := circle
  dsimp only at hroom h
  -- only the slot behind the newest sample is written
  have hslot : (head + count) % slots.size = (head + offset) % slots.size ↔ count = offset :=
    add_mod_inj head_lt hroom (by omega)
  simp only [put, dif_pos hroom, get, read, Array.size_set, Array.getElem_set, hslot, eq_comm]

theorem get_put_of_eq {circle : Circle α} (hfull : circle.count = circle.slots.size)
    (sample : Sample α) {offset : Nat} (h : offset < circle.count) :
    (circle.put sample).get offset
      = if offset + 1 = circle.count then sample else circle.get (offset + 1) := by
  obtain ⟨slots, head, tail, count, slots_pos, head_lt, count_le, rfl⟩ := circle
  dsimp only at hfull h
  subst hfull
  -- the slot of the oldest sample is written, and becomes the last of the round
  have hslot : (head + slots.size) % slots.size = (head + (offset + 1)) % slots.size
      ↔ offset + 1 = slots.size := by
    rw [Nat.add_mod_right, Nat.mod_eq_of_lt head_lt, mod_eq_ite_of_lt_two_mul (by omega)]
    split <;> omega
  simp only [put, dif_neg (Nat.lt_irrefl _), get, read, Array.size_set, Array.getElem_set,
    Nat.mod_add_mod, Nat.add_assoc, Nat.add_comm 1, hslot]

/-- **A circle with room adds to its list, one without drops the oldest as well.** -/
theorem toList_put (circle : Circle α) (sample : Sample α) :
    (circle.put sample).toList
      = if circle.count < circle.slots.size then circle.toList ++ [sample]
        else circle.toList.tail ++ [sample] := by
  have hle := circle.count_le
  have hpos := circle.slots_pos
  split
  · rename_i hroom
    have hlast := get_put_of_lt hroom sample (Nat.le_refl _)
    have hrest : ∀ offset ∈ List.range circle.count,
        (circle.put sample).get offset = circle.get offset := fun offset hmem => by
      have hlt := List.mem_range.1 hmem
      rw [get_put_of_lt hroom sample (Nat.le_of_lt hlt), if_neg (Nat.ne_of_lt hlt)]
    rw [toList, count_put, if_pos hroom, List.range_succ, List.map_append, List.map_singleton,
      hlast, if_pos rfl, List.map_congr_left hrest, toList]
  · rename_i hroom
    obtain ⟨last, hcount⟩ : ∃ last, circle.count = last + 1 := ⟨circle.count - 1, by omega⟩
    have hfull : circle.count = circle.slots.size := by omega
    have hlast := get_put_of_eq hfull sample (show last < circle.count by omega)
    have hrest : ∀ offset ∈ List.range last,
        (circle.put sample).get offset = circle.get (offset + 1) := fun offset hmem => by
      have hlt := List.mem_range.1 hmem
      rw [get_put_of_eq hfull sample (by omega), if_neg (by omega)]
    rw [toList, count_put, if_neg hroom, hcount, List.range_succ, List.map_append,
      List.map_singleton, hlast, if_pos hcount.symm, List.map_congr_left hrest, toList, hcount,
      List.range_succ_eq_map, List.map_cons, List.tail_cons, List.map_map]
    rfl

/-- Whoever puts something in finds something in it. -/
theorem count_put_pos (circle : Circle α) (sample : Sample α) :
    0 < (circle.put sample).count := by
  have := circle.slots_pos
  rw [count_put]
  split <;> omega

theorem count_foldl_put_pos (circle : Circle α) (sample : Sample α) (batch : List (Sample α)) :
    0 < ((sample :: batch).foldl put circle).count := by
  induction batch generalizing circle sample with
  | nil => exact circle.count_put_pos sample
  | cons next rest ih => exact ih (circle.put sample) next

end Circle

/-! ### Rings -/

/-- The last samples given, up to a capacity. -/
structure Ring (α : Type) extends Circle α where
  /-- When the oldest sample was taken. -/
  oldest? : Option α
  /-- When the newest sample was taken. -/
  newest? : Option α
  /-- It is the time of the first sample, if there is one. -/
  oldest?_eq : oldest? = toCircle.toList.head?.map Sample.timestamp
  /-- It is the time of the last sample, if there is one. -/
  newest?_eq : newest? = toCircle.toList.getLast?.map Sample.timestamp

namespace Ring

/-- An empty ring. -/
def new [Scalar α] (capacity : Nat) (h : 0 < capacity) : Ring α where
  toCircle := Circle.new capacity h
  oldest? := none
  newest? := none
  oldest?_eq := rfl
  newest?_eq := rfl

/-- An empty ring, if the capacity is allowed. -/
def new? [Scalar α] (capacity : Nat) : Except InvalidCapacity (Ring α) :=
  if h : 0 < capacity then .ok (new capacity h) else .error .zero

/-- The greatest number of samples it holds. -/
def capacity (ring : Ring α) : Nat :=
  ring.slots.size

/-- The number of samples held. -/
def size (ring : Ring α) : Nat :=
  ring.count

/-- Whether nothing is held. -/
def isEmpty (ring : Ring α) : Bool :=
  ring.size == 0

/-- Whether the next sample will take the place of the oldest. -/
def isFull (ring : Ring α) : Bool :=
  ring.size == ring.capacity

/-- The newest sample. -/
def latest? (ring : Ring α) : Option (Sample α) :=
  if ring.isEmpty then none else some (ring.read ring.newestSlot ring.newestSlot_lt)

/-- The times of the oldest and the newest sample. -/
def timeRange? (ring : Ring α) : Option (α × α) := do
  let oldest ← ring.oldest?
  let newest ← ring.newest?
  return (oldest, newest)

/-- Puts a batch of samples in, one after the other. -/
def pushAll (ring : Ring α) : List (Sample α) → Ring α
  | [] => ring
  | sample :: rest =>
    let circle := (sample :: rest).foldl Circle.put ring.toCircle
    have hpos : 0 < circle.count := ring.count_foldl_put_pos sample rest
    { toCircle := circle
      oldest? := some (circle.read circle.head circle.head_lt).timestamp
      newest? := some (circle.read circle.newestSlot circle.newestSlot_lt).timestamp
      oldest?_eq := by rw [circle.head?_toList hpos, Option.map_some]
      newest?_eq := by rw [circle.getLast?_toList hpos, Option.map_some] }

/-- Forgets everything; the capacity stays. -/
def clear (ring : Ring α) : Ring α where
  toCircle := ring.toCircle.clear
  oldest? := none
  newest? := none
  oldest?_eq := rfl
  newest?_eq := rfl

/-- Changes the capacity to an allowed one. The newest samples stay, as many as there is
room for. -/
def resize [Scalar α] (ring : Ring α) (capacity : Nat) (h : 0 < capacity) : Ring α :=
  if capacity = ring.capacity then ring
  else (new capacity h).pushAll (ring.toList.drop (ring.size - min ring.size capacity))

/-- Changes the capacity, if it is allowed. -/
def resize? [Scalar α] (ring : Ring α) (capacity : Nat) : Except InvalidCapacity (Ring α) :=
  if h : 0 < capacity then .ok (ring.resize capacity h) else .error .zero

@[simp] theorem toList_new [Scalar α] (capacity : Nat) (h : 0 < capacity) :
    (new capacity h : Ring α).toList = [] :=
  rfl

@[simp] theorem toList_clear (ring : Ring α) : ring.clear.toList = [] :=
  rfl

@[simp] theorem capacity_new [Scalar α] (capacity : Nat) (h : 0 < capacity) :
    (new capacity h : Ring α).capacity = capacity :=
  Array.size_replicate

@[simp] theorem capacity_clear (ring : Ring α) : ring.clear.capacity = ring.capacity :=
  rfl

theorem length_toList (ring : Ring α) : ring.toList.length = ring.size :=
  ring.toCircle.length_toList

theorem size_le_capacity (ring : Ring α) : ring.size ≤ ring.capacity :=
  ring.count_le

theorem capacity_pos (ring : Ring α) : 0 < ring.capacity :=
  ring.slots_pos

end Ring

end StripChart
