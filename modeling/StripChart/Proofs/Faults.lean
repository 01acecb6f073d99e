import StripChart.Proofs.Delivery

/-!
# Framing faults

A framing fault ends a session, and it is found before anything else is done with the unit: an
engine that meets one is as it was, save that the unit has been counted and that nothing waits
any more (`Engine.receive_atomic`). Frames that stand before the fault in the unit are lost with
it, whole as they may be.

Which units have a fault can be read off the grammar of frames. The bytes at hand fall into a
row of frames and a rest, and all depends on the rest (`Frame.Breaks`): it is a fault if it
begins with the header of a frame that is too long, and for a strict splitter it is one
whenever there is a rest at all.

Of the two sorts of faults, those of framing and those of a payload, a unit that is refused
shows only the first and a frame that is passed over only the second.
-/

namespace StripChart

namespace Frame

/-! ### What a rest does -/

/-- **The stream breaks in the rest** behind a row of frames: the rest begins with the header of
a frame that is too long, or it is there and nobody waits for what is missing of it. -/
def Breaks (limit : Nat) (reassemble : Bool) (rest : Bytes) : Prop :=
  (∃ declared, Oversized limit declared rest) ∨ (reassemble = false ∧ rest ≠ [])

variable {limit : Nat} {reassemble : Bool} {rest : Bytes}

/-- Whoever does not wait takes the start of a frame for a fault. -/
theorem cut_unfinished_of_strict (h : Unfinished limit rest) (hne : rest ≠ []) :
    ∃ fault, fault.breaksStream = true ∧ cut limit false rest = .error fault := by
  cases h with
  | header hshort =>
    refine ⟨.shortHeader rest.length, rfl, ?_⟩
    match rest, hshort, hne with
    | [a], _, _ => simp [cut]
    | [a, b], _, _ => simp [cut]
    | [a, b, c], _, _ => simp [cut]
  | @payload declared missing hlimit hgreatest hpart =>
    refine ⟨.overrun declared missing.length, rfl, ?_⟩
    rw [cut_header limit false hgreatest, if_neg (Nat.not_lt.2 hlimit), if_pos hpart,
      if_neg Bool.false_ne_true]

/-- A rest in which the stream breaks is a fault. -/
theorem cut_of_breaks (hrest : Unfinished limit rest ∨ ∃ declared, Oversized limit declared rest)
    (h : Breaks limit reassemble rest) :
    ∃ fault, fault.breaksStream = true ∧ cut limit reassemble rest = .error fault := by
  rcases h with ⟨declared, hover⟩ | ⟨hmode, hne⟩
  · exact ⟨.tooLarge declared limit, rfl, cut_oversized hover reassemble⟩
  · rcases hrest with hunfinished | ⟨declared, hover⟩
    · rw [hmode]
      exact cut_unfinished_of_strict hunfinished hne
    · exact ⟨.tooLarge declared limit, rfl, cut_oversized hover reassemble⟩

/-- Any other rest is left over. -/
theorem cut_of_not_breaks
    (hrest : Unfinished limit rest ∨ ∃ declared, Oversized limit declared rest)
    (h : ¬Breaks limit reassemble rest) : cut limit reassemble rest = .ok ([], rest) := by
  have hunfinished : Unfinished limit rest := hrest.resolve_right fun hover => h (Or.inl hover)
  cases reassemble with
  | true => exact cut_unfinished hunfinished
  | false =>
    have hnil : rest = [] := Decidable.not_not.1 fun hne => h (Or.inr ⟨rfl, hne⟩)
    rw [hnil, cut]

end Frame

namespace Splitter

open StripChart.Frame

/-- **What a unit comes to** depends on the rest behind the frames that it completes: either the
stream breaks there, and then nothing is given and nothing waits; or the frames are given, and
the rest waits. -/
theorem receive_cases {splitter : Splitter} {unit rest : Bytes} {payloads : List Bytes}
    (hcut : Cutting splitter.limit (splitter.pending ++ unit) payloads rest)
    (hrest : Unfinished splitter.limit rest ∨ ∃ declared, Oversized splitter.limit declared rest) :
    (Breaks splitter.limit splitter.reassemble rest ∧
        ∃ fault, fault.breaksStream = true ∧
          splitter.receive unit = (.error fault, new splitter.limit splitter.reassemble)) ∨
      (¬Breaks splitter.limit splitter.reassemble rest ∧
        splitter.receive unit
          = (.ok (payloads.map Received.ofPayload), { splitter with pending := rest })) := by
  by_cases hbreaks : Breaks splitter.limit splitter.reassemble rest
  · obtain ⟨fault, hfault, hwhole⟩ := cut_of_breaks hrest hbreaks
    refine Or.inl ⟨hbreaks, fault, hfault, ?_⟩
    rw [receive, feed, atHand_eq_append, cut_of_cutting hcut, hwhole]
    rfl
  · refine Or.inr ⟨hbreaks, ?_⟩
    rw [receive, feed, atHand_eq_append, cut_of_cutting hcut, cut_of_not_breaks hrest hbreaks]
    simp [Except.map]

/-- A fault of a unit is one of framing, and leaves the splitter as good as new. -/
theorem receive_error {splitter : Splitter} {unit : Bytes} {fault : FrameError}
    (h : (splitter.receive unit).1 = .error fault) :
    fault.breaksStream = true ∧
      splitter.receive unit = (.error fault, new splitter.limit splitter.reassemble) := by
  obtain ⟨payloads, rest, hcut, hrest⟩ := exists_cutting splitter.limit (splitter.pending ++ unit)
  rcases receive_cases hcut hrest with ⟨-, other, hbreaks, hunit⟩ | ⟨-, hunit⟩
  · rw [hunit] at h ⊢
    obtain rfl := Except.error.inj h
    exact ⟨hbreaks, rfl⟩
  · rw [hunit] at h
    cases h

/-- A frame that is passed over has a fault of its payload. -/
theorem breaksStream_of_malformed_mem {splitter : Splitter} {unit : Bytes} {frames : List Received}
    (h : (splitter.receive unit).1 = .ok frames) {fault : FrameError}
    (hmem : Received.malformed fault ∈ frames) : fault.breaksStream = false := by
  obtain ⟨payloads, rest, hcut, hrest⟩ := exists_cutting splitter.limit (splitter.pending ++ unit)
  rcases receive_cases hcut hrest with ⟨-, other, -, hunit⟩ | ⟨-, hunit⟩
  · rw [hunit] at h
    cases h
  · rw [hunit] at h
    obtain rfl := Except.ok.inj h
    obtain ⟨payload, -, hpayload⟩ := List.mem_map.1 hmem
    exact Received.breaksStream_of_ofPayload_malformed hpayload

/-- A stream that ends too early has a fault of framing. -/
theorem breaksStream_of_finish {splitter : Splitter} {fault : FrameError}
    (h : splitter.finish.1 = .error fault) : fault.breaksStream = true := by
  rw [finish_eq] at h
  split at h
  · cases h
  · obtain rfl := Except.error.inj h
    rfl

end Splitter

namespace Engine

section Open

variable {engine : Engine} {unit : Bytes}

/-- **An engine fails just where its splitter does**, and with the fault that this one finds. -/
theorem receive_eq_error_iff (hopen : engine.endpoint.connection.isOpen = true)
    (failure : Failure) :
    (engine.receive unit).2.2 = .error failure ↔
      ∃ fault, (engine.endpoint.splitter.receive unit).1 = .error fault ∧
        failure = .framing fault := by
  rcases hunit : engine.endpoint.splitter.receive unit with ⟨fault | frames, after⟩
  · rw [receive_of_error hopen hunit]
    constructor
    · intro h
      exact ⟨fault, rfl, (Except.error.inj h).symm⟩
    · rintro ⟨other, hother, rfl⟩
      rw [Except.error.inj hother]
  · rw [receive_of_ok hopen hunit]
    constructor
    · intro h
      cases h
    · rintro ⟨fault, hfault, -⟩
      cases hfault

/-- Whether there is a failure can be read off the rest behind the frames of the unit. -/
theorem exists_failure_iff_breaks (hopen : engine.endpoint.connection.isOpen = true)
    {payloads : List Bytes} {rest : Bytes}
    (hcut : Frame.Cutting engine.endpoint.splitter.limit
      (engine.endpoint.splitter.pending ++ unit) payloads rest)
    (hrest : Frame.Unfinished engine.endpoint.splitter.limit rest ∨
      ∃ declared, Frame.Oversized engine.endpoint.splitter.limit declared rest) :
    (∃ failure, (engine.receive unit).2.2 = .error failure) ↔
      Frame.Breaks engine.endpoint.splitter.limit engine.endpoint.splitter.reassemble rest := by
  rcases Splitter.receive_cases hcut hrest with ⟨hbreaks, fault, -, hunit⟩ | ⟨hbreaks, hunit⟩
  · rw [receive_of_error hopen hunit]
    exact iff_of_true ⟨_, rfl⟩ hbreaks
  · rw [receive_of_ok hopen hunit]
    refine iff_of_false ?_ hbreaks
    rintro ⟨failure, h⟩
    cases h

end Open

/-- **A unit is handled or refused, and nothing in between.** Whatever an engine is and whatever
bytes come in:

* while the connection is not open, nothing changes, nothing comes of it and there is no
  failure;
* while it is open, there is a failure just if the splitter finds a fault, the failure is this
  fault, and it is one of framing. Then nothing comes of the unit, the unit and its bytes have
  been counted, the splitter is as good as new, and nothing else has changed. It makes no
  difference how many whole frames there are before the rest in which the stream breaks;
* a frame that is passed over has a fault of its payload, and a stream that ends too early
  has one of framing. -/
theorem receive_atomic (engine : Engine) (unit : Bytes) :
    let handled := engine.receive unit
    let splitter := engine.endpoint.splitter
    let counters := engine.endpoint.counters
    (engine.endpoint.connection.isOpen = false →
      handled.1 = engine ∧ handled.2.2 = .ok () ∧ Upshot.ofEffects handled.2.1 = ⟨[], [], 0⟩ ∧
        handled.2.1.filterMap Effect.invocation? = []) ∧
    (engine.endpoint.connection.isOpen = true →
      (∀ failure, handled.2.2 = .error failure ↔
        ∃ fault, (splitter.receive unit).1 = .error fault ∧ failure = .framing fault) ∧
      (∀ fault, (splitter.receive unit).1 = .error fault →
        fault.breaksStream = true ∧ handled.2.1 = [] ∧
          handled.1 = { engine with
            endpoint := { engine.endpoint with
              splitter := Splitter.new splitter.limit splitter.reassemble
              counters := { counters with
                unitsIn := counters.unitsIn + 1
                bytesIn := counters.bytesIn + .ofNat unit.length } } }) ∧
      (∀ payloads rest, Frame.Cutting splitter.limit (splitter.pending ++ unit) payloads rest →
        (Frame.Unfinished splitter.limit rest ∨
          ∃ declared, Frame.Oversized splitter.limit declared rest) →
        ((∃ failure, handled.2.2 = .error failure) ↔
          Frame.Breaks splitter.limit splitter.reassemble rest))) ∧
    (∀ frames, (splitter.receive unit).1 = .ok frames →
      ∀ fault, Received.malformed fault ∈ frames → fault.breaksStream = false) ∧
    ∀ fault, engine.endpoint.finish.2 = .error fault → fault.breaksStream = true := by
  intro handled splitter counters
  refine ⟨fun hclosed => ?_, fun hopen => ⟨receive_eq_error_iff hopen, fun fault hfault => ?_,
    fun payloads rest => exists_failure_iff_breaks hopen⟩,
    fun frames hframes fault hmem => Splitter.breaksStream_of_malformed_mem hframes hmem,
    fun fault hfault => Splitter.breaksStream_of_finish hfault⟩
  · obtain ⟨line, hdropped⟩ := receive_of_not_isOpen (ne_true_of_eq_false hclosed) unit
    rw [show handled = _ from hdropped]
    exact ⟨rfl, rfl, rfl, rfl⟩
  · obtain ⟨hbreaks, hunit⟩ := Splitter.receive_error hfault
    rw [show handled = _ from receive_of_error hopen hunit]
    exact ⟨hbreaks, rfl, rfl⟩

/-- A whole frame with a message, and behind it the header of a frame that is too long. -/
def brokenUnit : Bytes :=
  Frame.ofPayload (Json.object [("loopback", .ofNat 1)]).encode ++ [255, 255, 255, 255]

/-- The message before the fault is not answered, and the engine is as before. -/
theorem receive_atomic_brokenUnit :
    bare.endpoint.connection.isOpen = true ∧
      (bare.receive brokenUnit).2.2 = .error (.framing (.tooLarge 4294967295 16777216)) ∧
      (bare.receive brokenUnit).2.1 = [] ∧
      (bare.receive brokenUnit).1.registry = bare.registry ∧
      (bare.receive brokenUnit).1.endpoint.splitter = .reassembling ∧
      (bare.receive brokenUnit).1.endpoint.counters
        = { bare.endpoint.counters with unitsIn := 1, bytesIn := .ofNat brokenUnit.length } := by
  obtain ⟨-, hopen, -, -⟩ := bare.receive_atomic brokenUnit
  obtain ⟨hfailure, hrefused, -⟩ := hopen rfl
  have hfault : (bare.endpoint.splitter.receive brokenUnit).1
      = .error (.tooLarge 4294967295 16777216) := by
    have hcut : Frame.Cutting Frame.defaultLimit ([] ++ brokenUnit)
        [(Json.object [("loopback", .ofNat 1)]).encode] [255, 255, 255, 255] :=
      .cons ⟨by decide +kernel, by decide +kernel⟩ _
    have hover : Frame.Oversized Frame.defaultLimit 4294967295 [255, 255, 255, 255] :=
      ⟨by decide, by decide, by decide⟩
    have hunit : bare.endpoint.splitter.receive brokenUnit
        = (.error (.tooLarge 4294967295 Frame.defaultLimit), .reassembling) :=
      Splitter.receive_of_oversized hcut hover
    rw [hunit]
    rfl
  obtain ⟨-, heffects, hengine⟩ := hrefused _ hfault
  refine ⟨rfl, (hfailure _).2 ⟨_, hfault, rfl⟩, heffects, ?_, ?_, ?_⟩
  · rw [hengine]
  · rw [hengine]
    rfl
  · rw [hengine]
    rfl

end Engine

end StripChart
