import StripChart.Proofs.Likeness
import StripChart.Proofs.Reassembly

/-!
# Delivery units cannot be told apart

Above the splitter it cannot be seen where a stream was cut into delivery units. An open
engine that reassembles frames and waits for no bytes does the same for any two cuttings
of one stream (`Engine.receiveAll_congr`): it comes to the same tabs, calls the same
handlers with the same values, sends the same replies, passes on the same log lines,
and counts the same, all but the units themselves.

The reason is that a unit reaches the rest of the engine only through the frames that it
completes. What else it leaves behind, the bytes that wait and the two counters of units
and bytes, is *credited* to the engine (`Engine.credit`), and frames are handled alike
with and without it. So credit can be moved past all frames to the end of the stream
(`Engine.receiveAll_eq`), where only its sum is left.
-/

namespace StripChart

/-- The value that a handler was called with, if the effect is that of a call. -/
def Effect.invocation? : Effect → Option (String × Json)
  | .handled key value => some (key, value)
  | _ => none

namespace Engine

/-! ### Credit -/

/-- The engine with units and bytes that came in, and with what waits after them. -/
def credit (engine : Engine) (units bytes : UInt64) (splitter : Splitter) : Engine :=
  { engine with
    endpoint := { engine.endpoint with
      splitter
      counters := engine.endpoint.counters.credit units bytes } }

/-- Credit is given for one stretch of the stream after the other. -/
theorem credit_credit (engine : Engine) (units bytes units' bytes' : UInt64)
    (splitter splitter' : Splitter) :
    (engine.credit units bytes splitter).credit units' bytes' splitter'
      = engine.credit (units + units') (bytes + bytes') splitter' := by
  simp [credit, Counters.credit, UInt64.add_assoc]

theorem credit_zero (engine : Engine) : engine.credit 0 0 engine.endpoint.splitter = engine := by
  simp [credit, Counters.credit]

/-- **An engine with credit is like the engine without.** -/
theorem likeness_credit (units bytes : UInt64) (splitter : Splitter) :
    Likeness fun one other => other = one.credit units bytes splitter where
  name_eq h := by rw [h]; rfl
  handlers_eq h := by rw [h]; rfl
  count h hsteady := by
    rw [h]
    simp only [Engine.count, Endpoint.count, credit]
    rw [hsteady]
  withHandler key handler h := by rw [h]; rfl
  record tab channel batch h := by rw [h]; exact ⟨rfl, rfl⟩
  fulfil request h := by rw [h]; exact ⟨rfl, rfl⟩

/-- Frames are handled alike before credit is given and after. -/
theorem takeFrames_credit (engine : Engine) (units bytes : UInt64) (splitter : Splitter)
    (frames : List Received) :
    Machine.run takeFrame (engine.credit units bytes splitter) frames
      = ((Machine.run takeFrame engine frames).1.credit units bytes splitter,
          (Machine.run takeFrame engine frames).2) := by
  obtain ⟨hengine, heffects⟩ := (likeness_credit units bytes splitter).takeFrames rfl frames
  exact Prod.ext hengine heffects.symm

/-! ### Units in a row -/

/-- What comes of units that are handled one after the other. -/
structure Delivery where
  /-- The engine afterwards. -/
  engine : Engine
  /-- The effects of each unit that was handled. -/
  effects : List (List Effect)
  /-- The failure that was met, if there was one. -/
  failure : Option Failure

namespace Delivery

/-- What the engine's surroundings are given for each unit. -/
def upshots (delivery : Delivery) : List Upshot :=
  delivery.effects.map Upshot.ofEffects

/-- The bytes that are sent back, for all units. -/
def replies (delivery : Delivery) : Bytes :=
  delivery.upshots.flatMap Upshot.replies

/-- The log lines for tabs, for all units. -/
def tabLines (delivery : Delivery) : List TabLines :=
  delivery.upshots.flatMap Upshot.tabLines

/-- The number of frames, in all units together. -/
def frames (delivery : Delivery) : Nat :=
  delivery.upshots.foldr (fun upshot total => upshot.frames + total) 0

/-- The keys and values that handlers were called with, in order. -/
def invocations (delivery : Delivery) : List (String × Json) :=
  delivery.effects.flatMap (List.filterMap Effect.invocation?)

/-- **What all units come to is what their effects come to, joined.** -/
theorem upshot_flatten (delivery : Delivery) :
    Upshot.ofEffects delivery.effects.flatten
      = ⟨delivery.replies, delivery.tabLines, delivery.frames⟩ := by
  obtain ⟨engine, effects, failure⟩ := delivery
  induction effects with
  | nil => rfl
  | cons first rest ih =>
    rw [List.flatten_cons, Upshot.ofEffects_append, ih]
    rfl

theorem invocations_eq (delivery : Delivery) :
    delivery.invocations = delivery.effects.flatten.filterMap Effect.invocation? := by
  rw [invocations, List.filterMap_flatten, List.flatMap_def]

end Delivery

/-- Handles units one after the other, up to the first failure. -/
def receiveAll (engine : Engine) : List Bytes → Delivery
  | [] => ⟨engine, [], none⟩
  | unit :: rest =>
    match engine.receive unit with
    | (engine, effects, .ok ()) =>
      let later := engine.receiveAll rest
      { later with effects := effects :: later.effects }
    | (engine, effects, .error failure) => ⟨engine, [effects], some failure⟩

/-- A unit that comes in while the connection is not open is dropped, and this is told. -/
theorem receive_of_not_isOpen {engine : Engine}
    (h : ¬engine.endpoint.connection.isOpen = true) (unit : Bytes) :
    ∃ line, engine.receive unit = (engine, [.log line], .ok ()) :=
  ⟨_, if_neg h⟩

section Open

variable {engine : Engine} {unit : Bytes} {splitter : Splitter}

/-- An open engine handles the frames that a unit completes, and is credited with the
unit. -/
theorem receive_of_ok (hopen : engine.endpoint.connection.isOpen = true)
    {frames : List Received}
    (hunit : engine.endpoint.splitter.receive unit = (.ok frames, splitter)) :
    engine.receive unit
      = ((Machine.run takeFrame engine frames).1.credit 1 (UInt64.ofNat unit.length) splitter,
          (Machine.run takeFrame engine frames).2, .ok ()) := by
  have hcredit : engine.receive unit
      = ((Machine.run takeFrame (engine.credit 1 (UInt64.ofNat unit.length) splitter) frames).1,
          (Machine.run takeFrame (engine.credit 1 (UInt64.ofNat unit.length) splitter) frames).2,
          .ok ()) := by
    rw [receive, if_pos hopen]
    simp only [Endpoint.count, hunit]
    rfl
  rw [hcredit, takeFrames_credit]

/-- A unit with a framing fault has no effects. -/
theorem receive_of_error (hopen : engine.endpoint.connection.isOpen = true) {fault : FrameError}
    (hunit : engine.endpoint.splitter.receive unit = (.error fault, splitter)) :
    engine.receive unit
      = (engine.credit 1 (UInt64.ofNat unit.length) splitter, [], .error (.framing fault)) := by
  rw [receive, if_pos hopen]
  simp only [Endpoint.count, hunit]
  rfl

end Open

/-- **What an engine does for units in a row**: it fails just if the splitter does. Else
it handles all frames that the splitter gives for the units, and is then credited with
the units and their bytes. -/
theorem receiveAll_eq (engine : Engine) (hopen : engine.endpoint.connection.isOpen = true)
    (units : List Bytes) :
    let intake := engine.endpoint.splitter.receiveAll units
    (engine.receiveAll units).failure = intake.fault.map .framing ∧
      (intake.fault = none →
        (engine.receiveAll units).engine
            = (Machine.run takeFrame engine intake.frames).1.credit (UInt64.ofNat units.length)
                (UInt64.ofNat units.flatten.length) intake.splitter ∧
          (engine.receiveAll units).effects.flatten
            = (Machine.run takeFrame engine intake.frames).2) := by
  induction units generalizing engine with
  | nil => exact ⟨rfl, fun _ => ⟨engine.credit_zero.symm, rfl⟩⟩
  | cons unit units ih =>
    rcases hunit : engine.endpoint.splitter.receive unit with ⟨fault | frames, splitter⟩
    · simp only [receiveAll, receive_of_error hopen hunit, Splitter.receiveAll, hunit]
      exact ⟨rfl, fun hnone => absurd hnone (Option.some_ne_none _)⟩
    · -- the units after this one find the engine with its frames handled, and credit
      have hopen' : ((Machine.run takeFrame engine frames).1.credit 1
          (UInt64.ofNat unit.length) splitter).endpoint.connection.isOpen = true := by
        rw [← hopen, ← connection_takeFrames engine frames]
        rfl
      obtain ⟨hfailure, hrest⟩ := ih _ hopen'
      simp only [receiveAll, receive_of_ok hopen hunit, Splitter.receiveAll, hunit]
      refine ⟨hfailure, fun hnone => ?_⟩
      obtain ⟨hengine, heffects⟩ := hrest hnone
      have hlength : UInt64.ofNat (unit :: units).flatten.length
          = UInt64.ofNat unit.length + UInt64.ofNat units.flatten.length := by
        rw [List.flatten_cons, List.length_append, UInt64.ofNat_add]
      have hcount : UInt64.ofNat (unit :: units).length = 1 + UInt64.ofNat units.length := by
        rw [List.length_cons, Nat.add_comm, UInt64.ofNat_add]
        rfl
      constructor
      · rw [hengine, takeFrames_credit, credit_credit, Machine.run_append, hlength, hcount]
        rfl
      · rw [List.flatten_cons, heffects, takeFrames_credit, Machine.run_append]
        rfl

/-- **Where a stream was cut cannot be told above the splitter.** An open engine that
reassembles frames and waits for no bytes meets a framing fault in both cuttings of a
stream or in neither. If in neither, then it comes to the same tabs with all they hold,
the same bytes wait, the same handlers have been called with the same values in the same
order (each with its own calls, and the responses that it was shown), the same bytes are
sent back, the same log lines are passed on, as many frames were taken, and all counters
are the same but that of units. All this comes of the frames that the stream is made of,
handled in order, and the start of an unfinished frame behind them waits. -/
theorem receiveAll_congr (engine : Engine) (hopen : engine.endpoint.connection.isOpen = true)
    (hmode : engine.endpoint.splitter.reassemble = true)
    (hpending : engine.endpoint.splitter.pending = []) {first second : List Bytes}
    (h : first.flatten = second.flatten) :
    let one := engine.receiveAll first
    let other := engine.receiveAll second
    one.failure = other.failure ∧
      (∀ failure, one.failure = some failure → ∃ fault, failure = .framing fault) ∧
      (one.failure = none →
        one.engine.registry = other.engine.registry ∧
          one.engine.endpoint.splitter = other.engine.endpoint.splitter ∧
          one.engine.endpoint.handlers = other.engine.endpoint.handlers ∧
          one.engine.endpoint.connection = other.engine.endpoint.connection ∧
          one.invocations = other.invocations ∧
          one.replies = other.replies ∧
          one.tabLines = other.tabLines ∧
          one.frames = other.frames ∧
          { one.engine.endpoint.counters with unitsIn := 0 }
            = { other.engine.endpoint.counters with unitsIn := 0 } ∧
          ∃ payloads rest,
            Frame.Cutting engine.endpoint.splitter.limit first.flatten payloads rest ∧
            Frame.Unfinished engine.endpoint.splitter.limit rest ∧
            one.engine.endpoint.splitter.pending = rest ∧
            one.engine.registry
              = (Machine.run takeFrame engine (payloads.map .ofPayload)).1.registry ∧
            one.effects.flatten
              = (Machine.run takeFrame engine (payloads.map .ofPayload)).2) := by
  intro one other
  obtain ⟨hfailure, hone⟩ := engine.receiveAll_eq hopen first
  obtain ⟨hfailure', hother⟩ := engine.receiveAll_eq hopen second
  have hunfinished : Frame.Unfinished engine.endpoint.splitter.limit
      engine.endpoint.splitter.pending := hpending ▸ .nil _
  obtain ⟨hfault, hgiven⟩ :=
    engine.endpoint.splitter.receiveAll_eq_of_flatten_eq hmode hunfinished h
  refine ⟨by rw [hfailure, hfailure', hfault], fun failure hsome => ?_, fun hnone => ?_⟩
  · obtain ⟨fault, -, rfl⟩ := Option.map_eq_some_iff.1 (hfailure.symm.trans hsome)
    exact ⟨fault, rfl⟩
  · have hnofault := Option.map_eq_none_iff.1 (hfailure.symm.trans hnone)
    obtain ⟨hframes, hsplitter⟩ := hgiven hnofault
    obtain ⟨hengine, heffects⟩ := hone hnofault
    obtain ⟨hengine', heffects'⟩ := hother (hfault.symm.trans hnofault)
    rw [← hframes] at hengine' heffects'
    obtain ⟨payloads, rest, hcut, hunfinished', hframe, hrest⟩ :=
      engine.endpoint.splitter.exists_cutting_of_fault_eq_none hmode hunfinished hnofault
    rw [hpending, List.nil_append] at hcut
    -- the effects are the same, and so is what they come to
    have hflatten : one.effects.flatten = other.effects.flatten :=
      heffects.trans heffects'.symm
    have hupshot := congrArg Upshot.ofEffects hflatten
    rw [Delivery.upshot_flatten, Delivery.upshot_flatten, Upshot.mk.injEq] at hupshot
    obtain ⟨hreplies, htabLines, hcount⟩ := hupshot
    rw [one.invocations_eq, other.invocations_eq, hflatten]
    -- the engines are the same up to credit, and credit differs in the units only
    rw [show other.effects.flatten = _ from heffects', show one.engine = _ from hengine,
      show other.engine = _ from hengine', ← h, ← hsplitter, hframe, hrest]
    exact ⟨rfl, rfl, rfl, rfl, rfl, hreplies, htabLines, hcount, rfl, payloads, rest,
      hcut, hunfinished', rfl, rfl, rfl⟩

/-- An open engine with no tabs and no handlers. -/
def bare : Engine where
  endpoint := { Endpoint.new "bare" .reassembling with connection := .connected "tcp://server" }
  registry :=
    { tabs := ByName.empty
      shown := none
      palette := ⟨0⟩
      fresh := Channels.new 4 (by decide)
      slotRule := ⟨8, 16⟩
      minCapacity := 1
      capacityScale := 2.0 }

/-- One message with an entry that nobody asked for, in one unit and in four, of which one
is empty and the others end inside the header and inside the payload. -/
theorem receiveAll_congr_bare :
    let whole := bare.receiveAll [[0, 0, 0, 7, 123, 34, 107, 34, 58, 49, 125]]
    let parts := bare.receiveAll [[0, 0], [], [0, 7, 123, 34, 107, 34], [58, 49, 125]]
    whole.failure = none ∧ parts.failure = none ∧ whole.frames = 1 ∧ parts.frames = 1 ∧
      whole.engine.registry = parts.engine.registry ∧
      whole.engine.endpoint.splitter = parts.engine.endpoint.splitter ∧
      { whole.engine.endpoint.counters with unitsIn := 0 }
        = { parts.engine.endpoint.counters with unitsIn := 0 } ∧
      whole.engine.endpoint.counters.unclaimed = 1 := by
  intro whole parts
  obtain ⟨hfailure, -, h⟩ := receiveAll_congr bare rfl rfl rfl
    (show [[0, 0, 0, 7, 123, 34, 107, 34, 58, 49, 125]].flatten
      = [[0, 0], [], [0, 7, 123, 34, 107, 34], [58, 49, 125]].flatten from rfl)
  have hnone : whole.failure = none := by decide +kernel
  obtain ⟨hregistry, hsplitter, -, -, -, -, -, hframes, hcounters, -⟩ := h hnone
  have hone : whole.frames = 1 := by decide +kernel
  exact ⟨hnone, hfailure.symm.trans hnone, hone, hframes.symm.trans hone, hregistry, hsplitter,
    hcounters, by decide +kernel⟩

end Engine

end StripChart
