import StripChart.Proofs.Extremes
import StripChart.Proofs.Ring

/-!
# The shape of a line

A ring may hold fewer samples than a line has points, just as many, or more, and its samples may
lie round its end. Whichever it is, a line begins with the places of the newest samples in their
order, and where these give out it stays at the last of them (`Line.writeInto_shape`). So the
line ends where the newest sample lies, and it is the oldest samples that are left out.

The samples that are left out still count for the range of the readings: the line runs between
the least and the greatest of all that the ring holds (`Line.exists_spans`). Nothing is asked of
times and readings here; any numbers of 64 bits may be among them.
-/

namespace StripChart

namespace Line

/-! ### Where a list stops that is made longer -/

section Stretch

variable {β : Type} {n : Nat} {list : List β}

/-- A list that is made longer begins as it was. -/
theorem take_stretch (n : Nat) (list : List β) : (stretch n list).take list.length = list := by
  rcases hlast : list.getLast? with - | last
  · rw [stretch, hlast]
    exact List.take_length
  · rw [stretch_of_getLast? hlast]
    exact List.take_left

/-- **From the last member on** it has nothing but that. -/
theorem getElem?_stretch {i : Nat} (hle : list.length ≤ i + 1) (hlt : i < n) :
    (stretch n list)[i]? = list.getLast? := by
  rcases hlast : list.getLast? with - | last
  · obtain rfl := List.getLast?_eq_none_iff.1 hlast
    rfl
  · rw [stretch_of_getLast? hlast]
    rcases Nat.lt_or_ge i list.length with hi | hi
    · -- the last member itself
      rw [List.getElem?_append_left hi, ← hlast, List.getLast?_eq_getElem?]
      congr 1
      omega
    · rw [List.getElem?_append_right hi, List.getElem?_replicate, if_pos (by omega)]

end Stretch

/-! ### The points of a line -/

section Points

variable {α : Type} {slots : Nat}

/-- The samples that a line goes through are as many as there are, and as there are slots. -/
theorem rtake_min_size (slots : Nat) (ring : Ring α) :
    ring.toList.rtake (min ring.size slots) = ring.toList.rtake slots := by
  have hlength := ring.length_toList
  rw [List.rtake, List.rtake]
  congr 1
  omega

/-- **A line goes through the newest samples of a ring**, as many as there are and as there are
slots, each at the place that `image` gives it, and stays at the last of them. -/
structure GoesThrough (slots : Nat) (ring : Ring α) (image : Sample α → α × α)
    (points : List (α × α)) : Prop where
  /-- There is a point for each slot. -/
  length_eq : points.length = slots
  /-- The first points are the places of the newest samples, in order. -/
  take_eq : points.take (min ring.size slots)
    = (ring.toList.rtake (min ring.size slots)).map image
  /-- The later points are all like the last of these. -/
  getElem?_eq : ∀ i, min ring.size slots ≤ i → i < slots →
    points[i]? = points[min ring.size slots - 1]?
  /-- The last point is the place of the newest sample. -/
  getLast?_eq : points.getLast? = ring.latest?.map image

variable [Scalar α] {ring : Ring α} {window : Window α} {points : List (α × α)}

/-- **Every line that is drawn goes through the newest samples.** -/
theorem goesThrough_of_points? (h : points? slots ring window = some points) :
    GoesThrough slots ring (place (timeAxis window) (valueAxis ring.toList)) points := by
  obtain ⟨hsize, hslots, hpoints⟩ := eq_stretch_of_points? h
  have hshown : (places slots ring window).length = min ring.size slots :=
    length_places.trans (Nat.min_comm ..)
  refine ⟨length_of_points? h, ?_, fun i hle hlt => ?_, ?_⟩
  · rw [hpoints, ← hshown, take_stretch, hshown, rtake_min_size, places]
  · -- the point of the last sample is one of those that are alike
    rw [hpoints, getElem?_stretch (by omega) hlt, getElem?_stretch (by omega) (by omega)]
  · rw [getLast?_of_points? h, ring.latest?_eq_getLast?]

/-- What is written over an array and what is given out anew are the same. -/
theorem writeInto_eq_points? (slots : Nat) (ring : Ring α) (window : Window α)
    (out : Array (α × α)) :
    writeInto slots ring window out
      = ((points? slots ring window).isSome, ((points? slots ring window).getD []).toArray) := by
  rw [writeInto_eq, points?_eq]
  split <;> rfl

theorem points?_eq_none_iff :
    points? slots ring window = none ↔ ring.size < 2 ∨ slots = 0 := by
  rw [points?_eq]
  split
  · rename_i hnone
    exact iff_of_true rfl hnone
  · rename_i hdrawn
    exact iff_of_false (Option.some_ne_none _) hdrawn

end Points

/-- **The shape of a line.** Nothing is drawn, and nothing left in the array, just if the ring
holds fewer than two samples or there is no slot. Else the line goes through the newest samples:
it has a point for each slot; the first of them are the places of the newest samples in order,
as many as there are samples and slots; all later points are like the last of these, which is the
place of the newest sample.

Across, a place is where the time lies in the window. Upwards it is where the reading lies
between the least and the greatest of all readings in the ring, be they of samples that are
shown or not; if none of these is a number at all, it is the middle.

What stood in the array before makes no difference, and a line that is given out anew has the
same points as one that is written over another. -/
theorem writeInto_shape (slots : Nat) (ring : Ring Float) (window : Window Float)
    (out : Array (Float × Float)) :
    let result := writeInto slots ring window out
    let points := result.2.toList
    let readings := ring.toList.map Sample.value
    (result.1 = false ↔ ring.size < 2 ∨ slots = 0) ∧
      (points = [] ↔ ring.size < 2 ∨ slots = 0) ∧
      result = writeInto slots ring window #[] ∧
      points? slots ring window = (if result.1 = true then some points else none) ∧
      (result.1 = true → ∃ low high, Spans readings low high ∧
        let time := Axis.new window.min window.max Axis.flatTime
        let value := Axis.new low high Axis.flatValue
        GoesThrough slots ring
            (fun sample => (time.map sample.timestamp, value.map sample.value)) points ∧
          ((∀ reading ∈ readings, reading.isNaN = true) →
            ∀ reading, value.map reading = Axis.flatValue)) := by
  intro result points readings
  have hresult : result = _ := writeInto_eq_points? slots ring window out
  have hfresh : result = writeInto slots ring window #[] :=
    hresult.trans (writeInto_eq_points? ..).symm
  rw [← points?_eq_none_iff]
  cases hline : points? slots ring window with
  | none =>
    rw [hline] at hresult
    have hdrawn : result.1 = false := congrArg Prod.fst hresult
    have hpoints : points = [] := congrArg (fun result => result.2.toList) hresult
    refine ⟨iff_of_true hdrawn rfl, iff_of_true hpoints rfl, hfresh, ?_, fun htrue => ?_⟩
    · rw [hdrawn]
      rfl
    · exact absurd (hdrawn.symm.trans htrue) Bool.false_ne_true
  | some line =>
    rw [hline] at hresult
    have hdrawn : result.1 = true := congrArg Prod.fst hresult
    obtain rfl : points = line := congrArg (fun result => result.2.toList) hresult
    obtain ⟨hsize, hslots, -⟩ := eq_stretch_of_points? hline
    have hthrough := goesThrough_of_points? hline
    have hsamples : ring.toList ≠ [] :=
      List.ne_nil_of_length_pos (by rw [ring.length_toList]; omega)
    obtain ⟨low, high, hspans, haxis⟩ := exists_spans hsamples
    have hsome : (some points : Option (List (Float × Float))) ≠ none := Option.some_ne_none _
    refine ⟨iff_of_false (fun hfalse => ?_) hsome, iff_of_false (fun hnil => ?_) hsome, hfresh,
      (if_pos hdrawn).symm, fun _ => ⟨low, high, hspans, ?_, ?_⟩⟩
    · exact Bool.false_ne_true (hfalse.symm.trans hdrawn)
    · have hlength := hthrough.length_eq
      rw [hnil, List.length_nil] at hlength
      omega
    · rw [haxis] at hthrough
      exact hthrough
    · exact fun hnan reading => hspans.map_of_isNaN hnan _ reading

/-- Five samples in a ring for four, on a line of three points. The reading of the first is gone,
and that of the second is not shown but is the least. -/
theorem writeInto_shape_fiveInFour :
    let ring : Ring Float := (Ring.new 4 (by decide)).pushAll
      [⟨90.0, 1.0⟩, ⟨10.0, 2.0⟩, ⟨30.0, 3.0⟩, ⟨20.0, 4.0⟩, ⟨30.0, 5.0⟩]
    let result := writeInto 3 ring ⟨1.0, 5.0⟩ #[(9.0, 9.0)]
    result.2.toList = [(0.0, 1.0), (0.5, 0.0), (1.0, 1.0)] ∧
      ∃ low high, Spans [10.0, 30.0, 20.0, 30.0] low high ∧
        GoesThrough 3 ring
          (fun sample => ((Axis.new 1.0 5.0 Axis.flatTime).map sample.timestamp,
            (Axis.new low high Axis.flatValue).map sample.value))
          result.2.toList := by
  intro ring result
  obtain ⟨-, -, -, -, hdrawn⟩ := writeInto_shape 3 ring ⟨1.0, 5.0⟩ #[(9.0, 9.0)]
  obtain ⟨low, high, hspans, hthrough, -⟩ := hdrawn (by decide +kernel)
  have hreadings : ring.toList.map Sample.value = [10.0, 30.0, 20.0, 30.0] := by decide +kernel
  rw [hreadings] at hspans
  exact ⟨by decide +kernel, low, high, hspans, hthrough⟩

end Line

end StripChart
