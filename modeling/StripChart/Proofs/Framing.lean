import StripChart.Frame.Splitter

/-!
# The grammar of frames

Bytes fall into frames in one way only, and this file says which. A stream is a row of
frames and a rest (`Frame.Cutting`), where every payload fits under the limit
(`Frame.Fits`). The rest is one of two things: the start of a frame that is still to be
finished (`Frame.Unfinished`), or something that begins with the header of a frame that
is too long (`Frame.Oversized`). There is no third case (`Frame.exists_cutting`).

`Frame.cut` is settled against this grammar once, frame by frame
(`Frame.cut_ofPayload`), so that what is said about cutting elsewhere is said about rows
of payloads and never about the walk over the bytes.
-/

namespace StripChart

namespace Frame

/-! ### Headers, once more -/

/-- Four bytes declare no more than a header can. -/
theorem declaredLength_le (a b c d : UInt8) : declaredLength a b c d ≤ greatestLength := by
  have ha := a.toNat_lt
  have hb := b.toNat_lt
  have hc := c.toNat_lt
  have hd := d.toNat_lt
  simp only [declaredLength, greatestLength]
  omega

/-- **Any four bytes are the header** of the length that they declare. -/
theorem header_declaredLength (a b c d : UInt8) :
    header (declaredLength a b c d) = [a, b, c, d] := by
  have ha := a.toNat_lt
  have hb := b.toNat_lt
  have hc := c.toNat_lt
  have hd := d.toNat_lt
  simp only [header, declaredLength, List.cons.injEq, and_true, ← UInt8.toNat_inj,
    UInt8.toNat_ofNat']
  refine ⟨?_, ?_, ?_, ?_⟩ <;> omega

/-- Bytes that are long enough begin with a header. -/
theorem exists_header {bytes : Bytes} (h : headerLength ≤ bytes.length) :
    ∃ declared rest, declared ≤ greatestLength ∧ bytes = header declared ++ rest := by
  obtain ⟨a, b, c, d, rest, rfl⟩ : ∃ a b c d rest, bytes = a :: b :: c :: d :: rest := by
    match bytes, h with
    | a :: b :: c :: d :: rest, _ => exact ⟨a, b, c, d, rest, rfl⟩
  refine ⟨declaredLength a b c d, rest, declaredLength_le a b c d, ?_⟩
  rw [header_declaredLength]
  rfl

/-! ### Frames in a row, and what can be left -/

/-- **A payload fits** into a frame: it is within the limit, and a header can declare
it. -/
def Fits (limit : Nat) (payload : Bytes) : Prop :=
  payload.length ≤ limit ∧ payload.length ≤ greatestLength

/-- Payloads as frames, back to back. -/
def ofPayloads (payloads : List Bytes) : Bytes :=
  (payloads.map ofPayload).flatten

@[simp] theorem ofPayloads_nil : ofPayloads [] = [] :=
  rfl

@[simp] theorem ofPayloads_cons (payload : Bytes) (payloads : List Bytes) :
    ofPayloads (payload :: payloads) = ofPayload payload ++ ofPayloads payloads :=
  rfl

@[simp] theorem ofPayloads_append (first second : List Bytes) :
    ofPayloads (first ++ second) = ofPayloads first ++ ofPayloads second := by
  simp [ofPayloads]

/-- **The start of a frame that is not finished**, or nothing at all. -/
inductive Unfinished (limit : Nat) : Bytes → Prop
  /-- Not even the header is whole. -/
  | header {bytes : Bytes} : bytes.length < headerLength → Unfinished limit bytes
  /-- The header is that of a frame under the limit, and part of the payload is missing. -/
  | payload {declared : Nat} {rest : Bytes} : declared ≤ limit → declared ≤ greatestLength →
      rest.length < declared → Unfinished limit (Frame.header declared ++ rest)

/-- **The bytes begin with the header of a frame that is too long.** -/
def Oversized (limit declared : Nat) (bytes : Bytes) : Prop :=
  limit < declared ∧ declared ≤ greatestLength ∧ header declared <+: bytes

/-- **The bytes are the frames of these payloads**, each of which fits, and then the
rest. -/
structure Cutting (limit : Nat) (bytes : Bytes) (payloads : List Bytes) (rest : Bytes) :
    Prop where
  /-- Every payload fits. -/
  fits : ∀ payload ∈ payloads, Fits limit payload
  /-- Nothing is lost, added or moved. -/
  eq_append : bytes = ofPayloads payloads ++ rest

theorem Unfinished.nil (limit : Nat) : Unfinished limit [] :=
  .header (Nat.zero_lt_succ _)

theorem Oversized.append {limit declared : Nat} {bytes : Bytes}
    (h : Oversized limit declared bytes) (more : Bytes) :
    Oversized limit declared (bytes ++ more) :=
  ⟨h.1, h.2.1, h.2.2.trans (List.prefix_append _ _)⟩

theorem Cutting.nil (limit : Nat) (bytes : Bytes) : Cutting limit bytes [] bytes :=
  ⟨fun _ h => absurd h List.not_mem_nil, rfl⟩

/-- **More bytes only touch the rest.** -/
theorem Cutting.append {limit : Nat} {bytes rest : Bytes} {payloads : List Bytes}
    (h : Cutting limit bytes payloads rest) (more : Bytes) :
    Cutting limit (bytes ++ more) payloads (rest ++ more) :=
  ⟨h.fits, by rw [h.eq_append, List.append_assoc]⟩

/-- The rest can be cut further. -/
theorem Cutting.trans {limit : Nat} {bytes rest last : Bytes} {payloads more : List Bytes}
    (h : Cutting limit bytes payloads rest) (hrest : Cutting limit rest more last) :
    Cutting limit bytes (payloads ++ more) last := by
  refine ⟨fun payload hmem => ?_, ?_⟩
  · rcases List.mem_append.1 hmem with hmem | hmem
    · exact h.fits payload hmem
    · exact hrest.fits payload hmem
  · rw [h.eq_append, hrest.eq_append, ofPayloads_append, List.append_assoc]

/-- A single frame at the front. -/
theorem Cutting.cons {limit : Nat} {payload : Bytes} (h : Fits limit payload) (rest : Bytes) :
    Cutting limit (ofPayload payload ++ rest) [payload] rest := by
  refine ⟨fun other hmem => ?_, ?_⟩
  · rw [List.mem_singleton.1 hmem]
    exact h
  · rw [ofPayloads_cons, ofPayloads_nil, List.append_nil]

/-- **Bytes fall into frames and a rest, and the rest is unfinished or oversized.** -/
theorem exists_cutting (limit : Nat) (bytes : Bytes) :
    ∃ payloads rest, Cutting limit bytes payloads rest ∧
      (Unfinished limit rest ∨ ∃ declared, Oversized limit declared rest) := by
  -- by the number of bytes: a whole frame is at least as long as its header
  induction hlen : bytes.length using Nat.strongRecOn generalizing bytes with
  | ind n ih =>
    rcases Nat.lt_or_ge bytes.length headerLength with hshort | hlong
    · exact ⟨[], bytes, .nil limit bytes, .inl (.header hshort)⟩
    obtain ⟨declared, rest, hgreatest, rfl⟩ := exists_header hlong
    rcases Nat.lt_or_ge limit declared with hover | hlimit
    · exact ⟨[], _, .nil limit _, .inr ⟨declared, hover, hgreatest, List.prefix_append _ _⟩⟩
    rcases Nat.lt_or_ge rest.length declared with hpart | hwhole
    · exact ⟨[], _, .nil limit _, .inl (.payload hlimit hgreatest hpart)⟩
    -- the frame is whole, and what follows it is shorter
    have htake : (rest.take declared).length = declared := List.length_take_of_le hwhole
    have hfits : Fits limit (rest.take declared) := by
      rw [Fits, htake]
      exact ⟨hlimit, hgreatest⟩
    have hframe : header declared ++ rest
        = ofPayload (rest.take declared) ++ rest.drop declared := by
      rw [ofPayload, htake, List.append_assoc, List.take_append_drop]
    have hlt : (rest.drop declared).length < n := by
      rw [← hlen, List.length_append, length_header, List.length_drop, headerLength]
      omega
    obtain ⟨payloads, last, hcut, hlast⟩ := ih _ hlt (rest.drop declared) rfl
    refine ⟨[rest.take declared] ++ payloads, last, ?_, hlast⟩
    rw [hframe]
    exact (Cutting.cons hfits _).trans hcut

/-! ### What cutting does -/

/-- A header is looked at before the bytes behind it: its length is held against the
limit, and then against what there is. -/
theorem cut_header (limit : Nat) (reassemble : Bool) {declared : Nat}
    (h : declared ≤ greatestLength) (rest : Bytes) :
    cut limit reassemble (header declared ++ rest)
      = if limit < declared then .error (.tooLarge declared limit)
        else if rest.length < declared then
          if reassemble then .ok ([], header declared ++ rest)
          else .error (.overrun declared rest.length)
        else
          (cut limit reassemble (rest.drop declared)).map fun result =>
            (rest.take declared :: result.1, result.2) := by
  have hlength := declaredLength_header h
  have htake : (rest.take declared).length < declared ↔ rest.length < declared := by
    rw [List.length_take]
    omega
  rw [header, List.cons_append, List.cons_append, List.cons_append, List.cons_append,
    List.nil_append, cut]
  simp only [hlength, htake]
  congr 2
  cases cut limit reassemble (rest.drop declared) <;> rfl

/-- **A frame that fits is cut off**, and the rest is cut as if it stood alone. -/
theorem cut_ofPayload {limit : Nat} {payload : Bytes} (h : Fits limit payload)
    (reassemble : Bool) (rest : Bytes) :
    cut limit reassemble (ofPayload payload ++ rest)
      = (cut limit reassemble rest).map fun result => (payload :: result.1, result.2) := by
  have hlength : ¬(payload ++ rest).length < payload.length := by
    rw [List.length_append]
    omega
  rw [ofPayload, List.append_assoc, cut_header limit reassemble h.2,
    if_neg (Nat.not_lt.2 h.1), if_neg hlength, List.drop_left, List.take_left]

/-- Frames in a row are cut off together. -/
theorem cut_of_cutting {limit : Nat} {bytes rest : Bytes} {payloads : List Bytes}
    (h : Cutting limit bytes payloads rest) (reassemble : Bool) :
    cut limit reassemble bytes
      = (cut limit reassemble rest).map fun result => (payloads ++ result.1, result.2) := by
  obtain ⟨hfits, rfl⟩ := h
  induction payloads with
  | nil => cases hcut : cut limit reassemble rest <;> simp [Except.map, hcut]
  | cons payload payloads ih =>
    rw [ofPayloads_cons, List.append_assoc,
      cut_ofPayload (hfits payload List.mem_cons_self) reassemble,
      ih fun other hmem => hfits other (List.mem_cons_of_mem _ hmem)]
    cases cut limit reassemble rest <;> rfl

/-- A row of frames that fit is cut into its payloads, and nothing is left. -/
theorem cut_ofPayloads {limit : Nat} {payloads : List Bytes}
    (h : ∀ payload ∈ payloads, Fits limit payload) (reassemble : Bool) :
    cut limit reassemble (ofPayloads payloads) = .ok (payloads, []) := by
  have hcut : Cutting limit (ofPayloads payloads) payloads [] := ⟨h, (List.append_nil _).symm⟩
  have hnil : cut limit reassemble [] = .ok ([], []) := by rw [cut]
  rw [cut_of_cutting hcut, hnil, Except.map, List.append_nil]

/-- An unfinished frame is left over by whoever waits for the rest of it. -/
theorem cut_unfinished {limit : Nat} {bytes : Bytes} (h : Unfinished limit bytes) :
    cut limit true bytes = .ok ([], bytes) := by
  cases h with
  | header hshort =>
    match bytes, hshort with
    | [], _ => rw [cut]
    | [a], _ => simp [cut]
    | [a, b], _ => simp [cut]
    | [a, b, c], _ => simp [cut]
  | payload hlimit hgreatest hpart =>
    rw [cut_header limit true hgreatest, if_neg (Nat.not_lt.2 hlimit), if_pos hpart, if_pos rfl]

/-- An oversized frame is a fault as soon as its header is whole. -/
theorem cut_oversized {limit declared : Nat} {bytes : Bytes}
    (h : Oversized limit declared bytes) (reassemble : Bool) :
    cut limit reassemble bytes = .error (.tooLarge declared limit) := by
  obtain ⟨hover, hgreatest, rest, rfl⟩ := h
  rw [cut_header limit reassemble hgreatest, if_pos hover]

end Frame

end StripChart
