import StripChart.Proofs.Reassembly

/-!
# Units that are taken, and units that are not

What a splitter makes of a unit can be said without saying how it goes through the bytes. The
bytes at hand are a row of frames and a rest. If the rest is one that may be left
(`Frame.Tail`), the unit is taken: the frames are given and the rest waits. If there is
something wrong where the rest begins (`Frame.Flaw`), the unit is refused, and what is wrong is
the fault. Of every rest one or the other holds (`Frame.exists_cutting_tail_or_flaw`), so both
are told exactly (`Splitter.receive_grammar`).

The two modes have the same frames and differ at the end alone. A strict splitter finds a fault
just where a reassembling one is left with something to wait for, and its fault describes what
the other one waits with. That a frame is too long is the same fault in both modes, and it comes
first: a header is held against the limit before it is held against the bytes behind it.
-/

namespace StripChart

namespace Frame

/-! ### The rest behind a row of frames -/

/-- **A rest that may be left**: the start of a frame if the splitter waits for what is missing,
and else nothing. -/
def Tail (limit : Nat) : Bool → Bytes → Prop
  | true, rest => Unfinished limit rest
  | false, rest => rest = []

/-- **What is wrong with a rest**, seen from where it begins. -/
inductive Flaw (limit : Nat) (reassemble : Bool) : Bytes → FrameError → Prop
  /-- It begins with the header of a frame that is too long, however much of it there is. -/
  | tooLarge {declared : Nat} {rest : Bytes} : limit < declared → declared ≤ greatestLength →
      Flaw limit reassemble (header declared ++ rest) (.tooLarge declared limit)
  /-- Nobody waits, and the header is not whole. -/
  | shortHeader {rest : Bytes} : reassemble = false → rest ≠ [] → rest.length < headerLength →
      Flaw limit reassemble rest (.shortHeader rest.length)
  /-- Nobody waits, and of a frame under the limit part of the payload is missing. -/
  | overrun {declared : Nat} {rest : Bytes} : reassemble = false → declared ≤ limit →
      declared ≤ greatestLength → rest.length < declared →
      Flaw limit reassemble (header declared ++ rest) (.overrun declared rest.length)

variable {limit : Nat} {reassemble : Bool} {bytes rest : Bytes} {payloads : List Bytes}
  {fault : FrameError}

/-- An oversized frame is a flaw in either mode. -/
theorem Oversized.flaw {declared : Nat} (h : Oversized limit declared rest) (reassemble : Bool) :
    Flaw limit reassemble rest (.tooLarge declared limit) := by
  obtain ⟨hover, hgreatest, more, rfl⟩ := h
  exact .tooLarge hover hgreatest

/-- An unfinished frame is a flaw for whoever does not wait, unless there is nothing at all. -/
theorem Unfinished.exists_flaw (h : Unfinished limit rest) (hne : rest ≠ []) :
    ∃ fault, Flaw limit false rest fault := by
  cases h with
  | header hshort => exact ⟨_, .shortHeader rfl hne hshort⟩
  | payload hlimit hgreatest hpart => exact ⟨_, .overrun rfl hlimit hgreatest hpart⟩

/-- **Bytes fall into frames and a rest, and either the rest may be left or there is something
wrong with it.** -/
theorem exists_cutting_tail_or_flaw (limit : Nat) (reassemble : Bool) (bytes : Bytes) :
    ∃ payloads rest, Cutting limit bytes payloads rest ∧
      (Tail limit reassemble rest ∨ ∃ fault, Flaw limit reassemble rest fault) := by
  obtain ⟨payloads, rest, hcut, hrest⟩ := exists_cutting limit bytes
  refine ⟨payloads, rest, hcut, ?_⟩
  rcases hrest with hunfinished | ⟨declared, hover⟩
  · cases reassemble with
    | true => exact Or.inl hunfinished
    | false =>
      by_cases hnil : rest = []
      · exact Or.inl hnil
      · exact Or.inr (hunfinished.exists_flaw hnil)
  · exact Or.inr ⟨_, hover.flaw reassemble⟩

/-! ### What cutting makes of it -/

theorem cut_of_tail (h : Tail limit reassemble rest) :
    cut limit reassemble rest = .ok ([], rest) := by
  cases reassemble with
  | true => exact cut_unfinished h
  | false =>
    obtain rfl : rest = [] := h
    rw [cut]

theorem cut_of_flaw (h : Flaw limit reassemble rest fault) :
    cut limit reassemble rest = .error fault := by
  cases h with
  | tooLarge hover hgreatest => rw [cut_header limit reassemble hgreatest, if_pos hover]
  | shortHeader hmode hne hshort =>
    subst hmode
    match rest, hne, hshort with
    | [a], _, _ => simp [cut]
    | [a, b], _, _ => simp [cut]
    | [a, b, c], _, _ => simp [cut]
  | overrun hmode hlimit hgreatest hpart =>
    rw [hmode, cut_header limit false hgreatest, if_neg (Nat.not_lt.2 hlimit), if_pos hpart,
      if_neg Bool.false_ne_true]

/-- **Bytes are cut just as the grammar says.** -/
theorem cut_eq_ok_iff :
    cut limit reassemble bytes = .ok (payloads, rest) ↔
      Cutting limit bytes payloads rest ∧ Tail limit reassemble rest := by
  constructor
  · intro h
    obtain ⟨found, left, hcut, htail | ⟨fault, hflaw⟩⟩ :=
      exists_cutting_tail_or_flaw limit reassemble bytes
    · rw [cut_of_cutting hcut, cut_of_tail htail, Except.map, List.append_nil] at h
      obtain ⟨rfl, rfl⟩ := Prod.mk.inj (Except.ok.inj h)
      exact ⟨hcut, htail⟩
    · rw [cut_of_cutting hcut, cut_of_flaw hflaw] at h
      cases h
  · rintro ⟨hcut, htail⟩
    rw [cut_of_cutting hcut, cut_of_tail htail, Except.map, List.append_nil]

/-- **The fault is what is wrong where the row of frames stops.** -/
theorem cut_eq_error_iff :
    cut limit reassemble bytes = .error fault ↔
      ∃ payloads rest, Cutting limit bytes payloads rest ∧ Flaw limit reassemble rest fault := by
  constructor
  · intro h
    obtain ⟨payloads, rest, hcut, htail | ⟨other, hflaw⟩⟩ :=
      exists_cutting_tail_or_flaw limit reassemble bytes
    · rw [cut_of_cutting hcut, cut_of_tail htail] at h
      cases h
    · rw [cut_of_cutting hcut, cut_of_flaw hflaw] at h
      obtain rfl := Except.error.inj h
      exact ⟨payloads, rest, hcut, hflaw⟩
  · rintro ⟨payloads, rest, hcut, hflaw⟩
    rw [cut_of_cutting hcut, cut_of_flaw hflaw]
    rfl

/-! ### The two modes beside each other -/

/-- Different lengths have different headers. -/
theorem header_inj {length other : Nat} (h : length ≤ greatestLength) (h' : other ≤ greatestLength)
    (heq : header length = header other) : length = other := by
  simp only [header, List.cons.injEq, and_true] at heq
  obtain ⟨ha, hb, hc, hd⟩ := heq
  rw [← declaredLength_header h, ha, hb, hc, hd, declaredLength_header h']

/-- If an unfinished frame begins with a whole header, it is short of the payload that this
header declares. -/
theorem unfinished_header_append_iff {declared : Nat} (hgreatest : declared ≤ greatestLength) :
    Unfinished limit (header declared ++ rest) ↔ declared ≤ limit ∧ rest.length < declared := by
  constructor
  · intro h
    generalize hbytes : header declared ++ rest = bytes at h
    cases h with
    | header hshort =>
      rw [← hbytes, List.length_append, length_header] at hshort
      omega
    | payload hlimit hgreatest' hpart =>
      obtain ⟨hheader, rfl⟩ := List.append_inj hbytes rfl
      obtain rfl := header_inj hgreatest hgreatest' hheader
      exact ⟨hlimit, hpart⟩
  · rintro ⟨hlimit, hpart⟩
    exact .payload hlimit hgreatest hpart

/-- A strict splitter takes what a reassembling one takes without being left with anything. -/
theorem cut_strict_eq_ok_iff :
    cut limit false bytes = .ok (payloads, rest) ↔
      cut limit true bytes = .ok (payloads, []) ∧ rest = [] := by
  rw [cut_eq_ok_iff, cut_eq_ok_iff]
  constructor
  · rintro ⟨hcut, rfl⟩
    exact ⟨⟨hcut, .nil limit⟩, rfl⟩
  · rintro ⟨⟨hcut, -⟩, rfl⟩
    exact ⟨hcut, rfl⟩

/-- **Part of a header** is a fault for the one and is left by the other. -/
theorem cut_strict_eq_shortHeader_iff {remaining : Nat} :
    cut limit false bytes = .error (.shortHeader remaining) ↔
      ∃ payloads rest, cut limit true bytes = .ok (payloads, rest) ∧
        rest.length = remaining ∧ 0 < remaining ∧ remaining < headerLength := by
  simp only [cut_eq_error_iff, cut_eq_ok_iff]
  constructor
  · rintro ⟨payloads, rest, hcut, hflaw⟩
    cases hflaw with
    | shortHeader _ hne hshort =>
      exact ⟨payloads, rest, ⟨hcut, .header hshort⟩, rfl, List.length_pos_iff.2 hne, hshort⟩
  · rintro ⟨payloads, rest, ⟨hcut, -⟩, rfl, hpos, hshort⟩
    exact ⟨payloads, rest, hcut, .shortHeader rfl (List.length_pos_iff.1 hpos) hshort⟩

/-- **Part of a payload** is a fault for the one and is left by the other, behind its header. -/
theorem cut_strict_eq_overrun_iff {declared remaining : Nat} :
    cut limit false bytes = .error (.overrun declared remaining) ↔
      declared ≤ greatestLength ∧ ∃ payloads rest,
        cut limit true bytes = .ok (payloads, header declared ++ rest) ∧
          rest.length = remaining := by
  simp only [cut_eq_error_iff, cut_eq_ok_iff]
  constructor
  · rintro ⟨payloads, left, hcut, hflaw⟩
    cases hflaw with
    | overrun _ hlimit hgreatest hpart =>
      exact ⟨hgreatest, payloads, _, ⟨hcut, .payload hlimit hgreatest hpart⟩, rfl⟩
  · rintro ⟨hgreatest, payloads, rest, ⟨hcut, htail⟩, rfl⟩
    obtain ⟨hlimit, hpart⟩ := (unfinished_header_append_iff hgreatest).1 htail
    exact ⟨payloads, _, hcut, .overrun rfl hlimit hgreatest hpart⟩

/-- **A frame that is too long** is the same fault for both. -/
theorem cut_strict_eq_tooLarge_iff {declared max : Nat} :
    cut limit false bytes = .error (.tooLarge declared max) ↔
      cut limit true bytes = .error (.tooLarge declared max) := by
  simp only [cut_eq_error_iff]
  constructor
  · rintro ⟨payloads, rest, hcut, hflaw⟩
    cases hflaw with
    | tooLarge hover hgreatest => exact ⟨payloads, _, hcut, .tooLarge hover hgreatest⟩
  · rintro ⟨payloads, rest, hcut, hflaw⟩
    cases hflaw with
    | tooLarge hover hgreatest => exact ⟨payloads, _, hcut, .tooLarge hover hgreatest⟩

end Frame

namespace Splitter

open StripChart.Frame

variable {splitter after : Splitter} {unit : Bytes} {frames : List Received} {fault : FrameError}

/-! ### What a splitter makes of it -/

theorem receive_eq_ok_iff_cut :
    splitter.receive unit = (.ok frames, after) ↔
      ∃ payloads rest,
        cut splitter.limit splitter.reassemble (splitter.pending ++ unit) = .ok (payloads, rest) ∧
          frames = payloads.map Received.ofPayload ∧
          after = { splitter with pending := rest } := by
  rw [receive, feed, atHand_eq_append]
  rcases cut splitter.limit splitter.reassemble (splitter.pending ++ unit) with
    fault | ⟨payloads, rest⟩
  · constructor
    · intro h
      cases h
    · rintro ⟨payloads, rest, h, -⟩
      cases h
  · constructor
    · intro h
      obtain ⟨hframes, rfl⟩ := Prod.mk.inj h
      exact ⟨payloads, rest, rfl, (Except.ok.inj hframes).symm, rfl⟩
    · rintro ⟨_, _, ⟨⟩, rfl, rfl⟩
      rfl

theorem receive_eq_error_iff_cut :
    splitter.receive unit = (.error fault, after) ↔
      cut splitter.limit splitter.reassemble (splitter.pending ++ unit) = .error fault ∧
        after = new splitter.limit splitter.reassemble := by
  rw [receive, feed, atHand_eq_append]
  rcases cut splitter.limit splitter.reassemble (splitter.pending ++ unit) with
    other | ⟨payloads, rest⟩
  · constructor
    · intro h
      obtain ⟨hfault, rfl⟩ := Prod.mk.inj h
      exact ⟨congrArg Except.error (Except.error.inj hfault), rfl⟩
    · rintro ⟨⟨⟩, rfl⟩
      rfl
  · constructor
    · intro h
      cases h
    · rintro ⟨h, -⟩
      cases h

/-- Whether there is a fault says already what becomes of the splitter. -/
theorem receive_fst_eq_error_iff :
    (splitter.receive unit).1 = .error fault ↔
      cut splitter.limit splitter.reassemble (splitter.pending ++ unit) = .error fault := by
  constructor
  · intro h
    exact (receive_eq_error_iff_cut.1 (Prod.ext h rfl)).1
  · intro h
    rw [receive_eq_error_iff_cut.2 ⟨h, rfl⟩]

/-- With nothing waiting, the bytes at hand are those of the unit. -/
theorem receive_new_eq_ok_iff {limit : Nat} {reassemble : Bool} {rest : Bytes} :
    (new limit reassemble).receive unit = (.ok frames, ⟨limit, reassemble, rest⟩) ↔
      ∃ payloads, cut limit reassemble unit = .ok (payloads, rest) ∧
        frames = payloads.map Received.ofPayload := by
  rw [receive_eq_ok_iff_cut]
  constructor
  · rintro ⟨payloads, rest, hcut, rfl, ⟨⟩⟩
    exact ⟨payloads, hcut, rfl⟩
  · rintro ⟨payloads, hcut, rfl⟩
    exact ⟨payloads, rest, hcut, rfl, rfl⟩

/-- What a new splitter is left with is what is left of the cut. -/
theorem exists_receive_new_iff {limit : Nat} {reassemble : Bool} (left : Bytes → Bytes)
    {holds : Bytes → Prop} :
    (∃ frames rest,
        (new limit reassemble).receive unit = (.ok frames, ⟨limit, reassemble, left rest⟩) ∧
          holds rest) ↔
      ∃ payloads rest, cut limit reassemble unit = .ok (payloads, left rest) ∧ holds rest := by
  constructor
  · rintro ⟨frames, rest, htaken, hrest⟩
    obtain ⟨payloads, hcut, -⟩ := receive_new_eq_ok_iff.1 htaken
    exact ⟨payloads, rest, hcut, hrest⟩
  · rintro ⟨payloads, rest, hcut, hrest⟩
    exact ⟨_, rest, receive_new_eq_ok_iff.2 ⟨payloads, hcut, rfl⟩, hrest⟩

/-- **A unit is taken or refused as the grammar says.** Let a unit come to any splitter, and look
at the bytes at hand.

* The unit is taken just if they are a row of frames, each under the limit, and a rest that may be
  left: nothing for a strict splitter, and else the start of a frame under the limit. What is
  given is then what the payloads of the row hold, in order, and it is the rest that waits.
* It is refused just if there is something wrong where such a row stops, and this is the fault:
  that a header declares more than the limit, however many bytes follow it; or, for a strict
  splitter, how many bytes there are of a header that is not whole, or how many bytes a header
  declares and how many there are. Then nothing waits.
* Let one and the same unit come to a new splitter of either mode. The strict one is short of a
  header just if the other is left with one to three bytes, which it counts. It is short of a
  payload just if the other is left with a header and what there is of the payload, which it
  tells the lengths of. One finds a frame too long just if the other does. And it takes the unit
  just if the other does and is left with nothing, and then both give the same frames. -/
theorem receive_grammar (splitter : Splitter) (unit : Bytes) :
    (∀ frames after, splitter.receive unit = (.ok frames, after) ↔
      ∃ payloads rest, Cutting splitter.limit (splitter.pending ++ unit) payloads rest ∧
        Tail splitter.limit splitter.reassemble rest ∧
        frames = payloads.map Received.ofPayload ∧ after = { splitter with pending := rest }) ∧
    (∀ fault after, splitter.receive unit = (.error fault, after) ↔
      (∃ payloads rest, Cutting splitter.limit (splitter.pending ++ unit) payloads rest ∧
        Flaw splitter.limit splitter.reassemble rest fault) ∧
      after = new splitter.limit splitter.reassemble) ∧
    ∀ limit, let strict := (new limit false).receive unit
      let patient := (new limit true).receive unit
      (∀ remaining, strict.1 = .error (.shortHeader remaining) ↔
        ∃ frames rest, patient = (.ok frames, ⟨limit, true, rest⟩) ∧
          rest.length = remaining ∧ 0 < remaining ∧ remaining < headerLength) ∧
      (∀ declared remaining, strict.1 = .error (.overrun declared remaining) ↔
        declared ≤ greatestLength ∧ ∃ frames rest,
          patient = (.ok frames, ⟨limit, true, header declared ++ rest⟩) ∧
            rest.length = remaining) ∧
      (∀ declared max, strict.1 = .error (.tooLarge declared max) ↔
        patient.1 = .error (.tooLarge declared max)) ∧
      ∀ frames, strict = (.ok frames, new limit false) ↔
        patient = (.ok frames, new limit true) := by
  refine ⟨fun frames after => ?_, fun fault after => ?_, fun limit => ?_⟩
  · simp only [receive_eq_ok_iff_cut, cut_eq_ok_iff, and_assoc]
  · rw [receive_eq_error_iff_cut, cut_eq_error_iff]
  · intro strict patient
    have hstrict (fault : FrameError) :
        strict.1 = .error fault ↔ cut limit false unit = .error fault :=
      receive_fst_eq_error_iff
    have hpatient (fault : FrameError) :
        patient.1 = .error fault ↔ cut limit true unit = .error fault :=
      receive_fst_eq_error_iff
    refine ⟨fun remaining => ?_, fun declared remaining => ?_, fun declared max => ?_,
      fun frames => ?_⟩
    · rw [hstrict, cut_strict_eq_shortHeader_iff]
      exact (exists_receive_new_iff id).symm
    · rw [hstrict, cut_strict_eq_overrun_iff]
      exact and_congr_right fun _ => (exists_receive_new_iff (header declared ++ ·)).symm
    · rw [hstrict, hpatient, cut_strict_eq_tooLarge_iff]
    · refine receive_new_eq_ok_iff.trans (Iff.trans ?_ receive_new_eq_ok_iff.symm)
      simp only [cut_strict_eq_ok_iff, and_true]

/-- A whole frame, and behind it the header of a frame of three bytes with the first of them. A
strict splitter finds two bytes missing, and the other waits for them. But if the header declares
more than the limit, it makes no difference how much is missing. -/
theorem receive_grammar_partFrame :
    let unit : Bytes := [0, 0, 0, 1, 7, 0, 0, 0, 3, 1]
    (new 4 true).receive unit = (.ok [.ofPayload [7]], ⟨4, true, [0, 0, 0, 3, 1]⟩) ∧
      ((new 4 false).receive unit).1 = .error (.overrun 3 1) ∧
      (new 2 false).receive unit = (.error (.tooLarge 3 2), new 2 false) := by
  intro unit
  have hfits : Fits 2 [7] := ⟨by decide, by decide⟩
  have hfits' : Fits 4 [7] := ⟨by decide, by decide⟩
  have hcut : Cutting 2 unit [[7]] [0, 0, 0, 3, 1] := .cons hfits _
  have hcut' : Cutting 4 unit [[7]] [0, 0, 0, 3, 1] := .cons hfits' _
  have hpart : Unfinished 4 (header 3 ++ [1]) := .payload (by decide) (by decide) (by decide)
  have hpatient : (new 4 true).receive unit = (.ok [.ofPayload [7]], ⟨4, true, [0, 0, 0, 3, 1]⟩) :=
    ((receive_grammar (new 4 true) unit).1 _ _).2 ⟨_, _, hcut', hpart, rfl, rfl⟩
  obtain ⟨-, hrefused, hmodes⟩ := receive_grammar (new 2 false) unit
  obtain ⟨-, hoverrun, -⟩ := hmodes 4
  refine ⟨hpatient, (hoverrun 3 1).2 ⟨by decide, _, [1], hpatient, rfl⟩, ?_⟩
  have hflaw : Flaw 2 false (header 3 ++ [1]) (.tooLarge 3 2) :=
    .tooLarge (by decide) (by decide)
  exact (hrefused _ _).2 ⟨⟨_, _, hcut, hflaw⟩, rfl⟩

end Splitter

end StripChart
