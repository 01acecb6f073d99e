import StripChart.Proofs.Framing

/-!
# Frames spread over units

Where a stream is cut into delivery units means nothing to the frames inside. A
reassembling splitter that is fed a stream in any number of units gives the payloads,
waits for the bytes and finds the fault that it would find if the whole stream came in
at once (`Splitter.receiveAll_new`).

The invariant behind it is that the bytes waiting are the start of an unfinished frame
(`Frame.Unfinished`), and nothing but what is left of the stream so far: then the next
unit completes frames of the stream and no others. A fault is found in the unit that
completes the header, so frames from earlier units have been given by then, and these
stand before the header in the stream.
-/

namespace StripChart

open StripChart.Frame

/-- What comes of feeding units to a splitter. -/
structure Intake where
  /-- What the frames held, in order. -/
  frames : List Received
  /-- The splitter afterwards. -/
  splitter : Splitter
  /-- The fault that was met, if there was one. -/
  fault : Option FrameError

namespace Splitter

/-- Feeds units one after the other, up to the first fault. -/
def receiveAll (splitter : Splitter) : List Bytes → Intake
  | [] => ⟨[], splitter, none⟩
  | unit :: rest =>
    match splitter.receive unit with
    | (.ok frames, after) =>
      let later := after.receiveAll rest
      { later with frames := frames ++ later.frames }
    | (.error fault, after) => ⟨[], after, some fault⟩

/-! ### One unit -/

section Unit

variable {splitter : Splitter} {unit rest : Bytes} {payloads : List Bytes}

/-- A unit that ends inside a frame, or between two, gives the frames before. -/
theorem receive_of_unfinished (hmode : splitter.reassemble = true)
    (hcut : Cutting splitter.limit (splitter.pending ++ unit) payloads rest)
    (hrest : Unfinished splitter.limit rest) :
    splitter.receive unit
      = (.ok (payloads.map Received.ofPayload), { splitter with pending := rest }) := by
  rw [receive, feed, atHand_eq_append, cut_of_cutting hcut, hmode, cut_unfinished hrest]
  simp [Except.map]

/-- A unit with the header of an oversized frame gives nothing, and nothing waits. -/
theorem receive_of_oversized {declared : Nat}
    (hcut : Cutting splitter.limit (splitter.pending ++ unit) payloads rest)
    (hrest : Oversized splitter.limit declared rest) :
    splitter.receive unit
      = (.error (.tooLarge declared splitter.limit), { splitter with pending := [] }) := by
  rw [receive, feed, atHand_eq_append, cut_of_cutting hcut, cut_oversized hrest]
  rfl

end Unit

/-! ### Units in a row -/

/-- **What a row of units comes to**, read off the stream that they make up behind the
bytes that wait already. Either the stream ends in an unfinished frame: then all its
frames have been given, and the rest waits. Or it runs into the header of an oversized
frame: then that is the fault, and what has been given are frames from before it. -/
theorem receiveAll_cases (splitter : Splitter) (hmode : splitter.reassemble = true)
    (hpending : Unfinished splitter.limit splitter.pending) (units : List Bytes) :
    (∃ payloads rest, Cutting splitter.limit (splitter.pending ++ units.flatten) payloads rest ∧
        Unfinished splitter.limit rest ∧
        splitter.receiveAll units
          = ⟨payloads.map Received.ofPayload, { splitter with pending := rest }, none⟩) ∨
      ∃ payloads rest declared given,
        Cutting splitter.limit (splitter.pending ++ units.flatten) payloads rest ∧
        Oversized splitter.limit declared rest ∧ given <+: payloads ∧
        splitter.receiveAll units
          = ⟨given.map Received.ofPayload, { splitter with pending := [] },
              some (.tooLarge declared splitter.limit)⟩ := by
  induction units generalizing splitter with
  | nil =>
    rw [List.flatten_nil, List.append_nil]
    exact Or.inl ⟨[], splitter.pending, .nil _ _, hpending, rfl⟩
  | cons unit units ih =>
    rw [List.flatten_cons, ← List.append_assoc]
    obtain ⟨payloads, rest, hcut, hrest | ⟨declared, hrest⟩⟩ :=
      exists_cutting splitter.limit (splitter.pending ++ unit)
    · -- the unit is taken, and the units after it find its rest waiting
      have hunit := receive_of_unfinished hmode hcut hrest
      rcases ih { splitter with pending := rest } hmode hrest with
        ⟨more, last, hmore, hlast, hrun⟩ | ⟨more, last, declared, given, hmore, hlast, hgiven, hrun⟩
      · refine Or.inl ⟨payloads ++ more, last, (hcut.append _).trans hmore, hlast, ?_⟩
        rw [receiveAll, hunit]
        dsimp only
        rw [hrun, List.map_append]
      · refine Or.inr ⟨payloads ++ more, last, declared, payloads ++ given,
          (hcut.append _).trans hmore, hlast, (List.prefix_append_right_inj payloads).2 hgiven, ?_⟩
        rw [receiveAll, hunit]
        dsimp only
        rw [hrun, List.map_append]
    · -- the unit is the one that completes the header
      have hunit := receive_of_oversized hcut hrest
      refine Or.inr ⟨payloads, rest ++ units.flatten, declared, [], hcut.append _,
        hrest.append _, List.nil_prefix, ?_⟩
      rw [receiveAll, hunit, List.map_nil]

/-- Without a fault, the frames are all that there are before the bytes that wait. -/
theorem exists_cutting_of_fault_eq_none (splitter : Splitter) (hmode : splitter.reassemble = true)
    (hpending : Unfinished splitter.limit splitter.pending) {units : List Bytes}
    (hfault : (splitter.receiveAll units).fault = none) :
    ∃ payloads rest, Cutting splitter.limit (splitter.pending ++ units.flatten) payloads rest ∧
      Unfinished splitter.limit rest ∧
      (splitter.receiveAll units).frames = payloads.map Received.ofPayload ∧
      (splitter.receiveAll units).splitter = { splitter with pending := rest } := by
  rcases receiveAll_cases splitter hmode hpending units with
    ⟨payloads, rest, hcut, hrest, hparts⟩ | ⟨payloads, rest, declared, given, -, -, -, hparts⟩
  · rw [hparts]
    exact ⟨payloads, rest, hcut, hrest, rfl, rfl⟩
  · rw [hparts] at hfault
    exact nomatch hfault

/-- **Units in a row come to what the whole stream comes to**: the same frames and the same
bytes waiting if there is no fault in it, and else the same fault. -/
theorem receiveAll_whole (splitter : Splitter) (hmode : splitter.reassemble = true)
    (hpending : Unfinished splitter.limit splitter.pending) (units : List Bytes) :
    let parts := splitter.receiveAll units
    splitter.receive units.flatten
      = (match parts.fault with
          | none => .ok parts.frames
          | some fault => .error fault, parts.splitter) := by
  intro parts
  rcases receiveAll_cases splitter hmode hpending units with
    ⟨payloads, rest, hcut, hrest, hparts⟩ |
      ⟨payloads, rest, declared, given, hcut, hrest, -, hparts⟩
  · rw [receive_of_unfinished hmode hcut hrest, show parts = _ from hparts]
  · rw [receive_of_oversized hcut hrest, show parts = _ from hparts]

/-- Two cuttings of one stream come to the same, up to the frames that are given before a
fault. -/
theorem receiveAll_eq_of_flatten_eq (splitter : Splitter) (hmode : splitter.reassemble = true)
    (hpending : Unfinished splitter.limit splitter.pending) {first second : List Bytes}
    (h : first.flatten = second.flatten) :
    (splitter.receiveAll first).fault = (splitter.receiveAll second).fault ∧
      ((splitter.receiveAll first).fault = none →
        (splitter.receiveAll first).frames = (splitter.receiveAll second).frames ∧
          (splitter.receiveAll first).splitter = (splitter.receiveAll second).splitter) := by
  have hone := splitter.receiveAll_whole hmode hpending first
  have hother := splitter.receiveAll_whole hmode hpending second
  obtain ⟨hresult, hsplitter⟩ := Prod.mk.inj (hone.symm.trans (h ▸ hother))
  cases hfault : (splitter.receiveAll first).fault <;>
    cases hfault' : (splitter.receiveAll second).fault <;>
    rw [hfault, hfault'] at hresult
  · exact ⟨rfl, fun _ => ⟨Except.ok.inj hresult, hsplitter⟩⟩
  · exact nomatch hresult
  · exact nomatch hresult
  · exact ⟨congrArg some (Except.error.inj hresult), nofun⟩

/-- Bytes fall into frames and an unfinished frame in one way at most. -/
theorem eq_of_unfinished {limit : Nat} {bytes rest rest' : Bytes} {payloads payloads' : List Bytes}
    (hcut : Cutting limit bytes payloads rest) (hrest : Unfinished limit rest)
    (hcut' : Cutting limit bytes payloads' rest') (hrest' : Unfinished limit rest') :
    payloads = payloads' ∧ rest = rest' := by
  have h := cut_of_cutting hcut true
  rw [cut_of_cutting hcut' true, cut_unfinished hrest, cut_unfinished hrest'] at h
  simpa [Except.map, eq_comm] using h

/-! ### The end of the stream -/

/-- A stream may end where no bytes wait; else it is said how many do. -/
theorem finish_eq (splitter : Splitter) :
    splitter.finish.1
      = if splitter.pending = [] then .ok () else .error (.incomplete splitter.pending.length) := by
  rw [finish]
  cases splitter.pending <;> rfl

/-- **Units mean nothing to the frames inside.** A new reassembling splitter, fed a stream
in units up to the first fault, meets a fault just if the whole stream at once is faulty,
and the same one: that the first header after a row of frames declares too much; and what
it has given by then stands in that row. Else the frames are those of the whole stream,
the same bytes wait, and the end of the stream is taken in the same way: gladly after a
row of frames, and otherwise as a fault that tells how many bytes are left over. -/
theorem receiveAll_new (limit : Nat) (units : List Bytes) :
    let whole := (new limit true).receive units.flatten
    let parts := (new limit true).receiveAll units
    (∀ fault, parts.fault = some fault ↔ whole.1 = .error fault) ∧
      (∀ fault, parts.fault = some fault →
        ∃ declared payloads rest, fault = .tooLarge declared limit ∧
          Cutting limit units.flatten payloads rest ∧ Oversized limit declared rest ∧
          parts.frames <+: payloads.map Received.ofPayload) ∧
      (parts.fault = none →
        whole.1 = .ok parts.frames ∧ parts.splitter = whole.2 ∧
          parts.splitter.finish = whole.2.finish ∧
          (parts.splitter.finish.1 = .ok () ↔
            ∃ payloads, Cutting limit units.flatten payloads []) ∧
          ∃ payloads rest, Cutting limit units.flatten payloads rest ∧ Unfinished limit rest ∧
            parts.frames = payloads.map Received.ofPayload ∧ parts.splitter.pending = rest ∧
            (rest ≠ [] → parts.splitter.finish.1 = .error (.incomplete rest.length))) := by
  intro whole parts
  have hpending : Unfinished limit (new limit true).pending := .nil limit
  rcases receiveAll_cases (new limit true) rfl hpending units with
    ⟨payloads, rest, hcut, hrest, hparts⟩ |
      ⟨payloads, rest, declared, given, hcut, hrest, hgiven, hparts⟩
  · have hwhole : whole = (.ok (payloads.map Received.ofPayload), ⟨limit, true, rest⟩) :=
      receive_of_unfinished rfl hcut hrest
    have hparts : parts = ⟨payloads.map Received.ofPayload, ⟨limit, true, rest⟩, none⟩ := hparts
    rw [hwhole, hparts]
    refine ⟨fun fault => ⟨nofun, nofun⟩, nofun, fun _ =>
      ⟨rfl, rfl, rfl, ?_, payloads, rest, hcut, hrest, rfl, rfl, fun hne => ?_⟩⟩
    · rw [finish_eq]
      constructor
      · -- no bytes wait just if the row of frames is the whole stream
        intro hfinish
        by_cases hnil : rest = []
        · exact ⟨payloads, hnil ▸ hcut⟩
        · rw [if_neg hnil] at hfinish
          exact nomatch hfinish
      · rintro ⟨payloads', hcut'⟩
        exact if_pos (eq_of_unfinished hcut hrest hcut' (.nil limit)).2
    · rw [finish_eq, if_neg hne]
  · have hwhole : whole = (.error (.tooLarge declared limit), ⟨limit, true, []⟩) :=
      receive_of_oversized hcut hrest
    have hparts : parts
        = ⟨given.map Received.ofPayload, ⟨limit, true, []⟩, some (.tooLarge declared limit)⟩ :=
      hparts
    rw [hwhole, hparts]
    refine ⟨fun fault => ?_, fun fault hfault => ?_, nofun⟩
    · simp only [Option.some.injEq, Except.error.injEq]
    · refine ⟨declared, payloads, rest, (Option.some.inj hfault).symm, hcut, hrest, ?_⟩
      exact hgiven.map Received.ofPayload

end Splitter

end StripChart
