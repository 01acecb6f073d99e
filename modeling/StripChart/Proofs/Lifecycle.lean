import StripChart.Proofs.Accounts
import StripChart.Proofs.Closing

/-!
# One way through the stages

Whoever holds an engine may do with it what they like, in any order, and call for a stage that
is long gone. The connection goes one way through its stages all the same
(`Engine.lifecycle`).

Most calls ask `Connection.canBecome` before they move the connection. Hanging up does not: it
closes the connection from wherever it is, also from where no edge leads. So it is not the edges
that carry the proof, but how far along the line a stage is (`Connection.stage`). There are four
ways for a call to move the connection (`Engine.Shift`), each leads further along the line, and
a call that fails is none of them (`Engine.perform_cases`). From there the row of calls goes by
transitivity, and a closed connection stays as it is, with its reason, because nothing is
further along than that.
-/

namespace StripChart

namespace Connection

variable {before after last : Connection} {reason : String}

/-! ### The line of the stages -/

/-- How far along its life a connection is. -/
def stage : Connection → Nat
  | .disconnected => 0
  | .connecting _ => 1
  | .connected _ => 2
  | .closed _ => 3

theorem stage_le (connection : Connection) : connection.stage ≤ 3 := by
  cases connection <;> simp [stage]

/-- The edges of the line lead forward. -/
theorem stage_lt_of_canBecome (h : before.canBecome after = true) :
    before.stage < after.stage := by
  cases before <;> cases after <;> cases h <;> simp [stage]

/-- Only a connection that has not been tried is followed by an attempt. -/
theorem eq_disconnected_of_canBecome {url : String}
    (h : before.canBecome (.connecting url) = true) : before = .disconnected := by
  cases before with
  | disconnected => rfl
  | _ => cases h

/-- Only an attempt under way is followed by an open connection. -/
theorem eq_connecting_of_canBecome {url : String} (h : before.canBecome (.connected url) = true) :
    ∃ dialled, before = .connecting dialled := by
  cases before with
  | connecting dialled => exact ⟨dialled, rfl⟩
  | _ => cases h

theorem stage_lt_of_not_isOver (h : before.isOver = false) : before.stage < 3 := by
  cases before with
  | closed reason => cases h
  | _ => simp [stage]

/-- **A stage comes before another**, or is the same: the same with all that it carries. -/
def Precedes (before after : Connection) : Prop :=
  before = after ∨ before.stage < after.stage

theorem Precedes.refl (connection : Connection) : connection.Precedes connection :=
  Or.inl rfl

theorem Precedes.trans (h : before.Precedes after) (h' : after.Precedes last) :
    before.Precedes last := by
  rcases h with rfl | hlt
  · exact h'
  · rcases h' with rfl | hlt'
    · exact Or.inr hlt
    · exact Or.inr (hlt.trans hlt')

/-- Nothing comes after a closed connection. -/
theorem Precedes.eq_closed (h : (Connection.closed reason).Precedes after) :
    after = .closed reason := by
  rcases h with rfl | hlt
  · rfl
  · exact absurd hlt (Nat.not_lt.2 after.stage_le)

end Connection

namespace Endpoint

variable (endpoint : Endpoint)

/-- Whoever asks for a stage gets it if it may follow, and else a fault. -/
theorem moveTo_cases (next : Connection) :
    endpoint.connection.canBecome next = true ∧
        endpoint.moveTo next = .ok { endpoint with connection := next } ∨
      endpoint.connection.canBecome next = false ∧
        ∃ failure, endpoint.moveTo next = .error failure := by
  rw [moveTo]
  cases endpoint.connection.canBecome next with
  | true => exact Or.inl ⟨rfl, rfl⟩
  | false => exact Or.inr ⟨rfl, _, rfl⟩

/-- An attempt that is under way comes to its end, and where there is none there is a fault. -/
theorem established_cases :
    (∃ url lines, endpoint.connection = .connecting url ∧
        endpoint.established = .ok ({ endpoint with connection := .connected url }, lines)) ∨
      (∀ url, endpoint.connection ≠ .connecting url) ∧
        ∃ failure, endpoint.established = .error failure := by
  obtain ⟨name, connection, splitter, handlers, counters⟩ := endpoint
  cases connection with
  | connecting url => exact Or.inl ⟨url, _, rfl, rfl⟩
  | _ => exact Or.inr ⟨fun url heq => (by cases heq), _, rfl⟩

end Endpoint

namespace Engine

variable {engine : Engine} {call : Call} {next : Connection}

/-! ### What a call does to the stage -/

/-- What a computation has failed with. -/
def faultOf? {ε α : Type} : Except ε α → Option ε
  | .ok _ => none
  | .error fault => some fault

/-- **How a call fails**, if it does. -/
def failure? (engine : Engine) : Call → Option Failure
  | .take (.moveTo next) => faultOf? (engine.endpoint.moveTo next)
  | .take (.dial url) => faultOf? (engine.endpoint.dial url)
  | .take .established => faultOf? engine.endpoint.established
  | .take (.hangUp _) => none
  | .take .finish => (faultOf? engine.endpoint.finish.2).map .framing
  | .register _ _ => none
  | .receive tabs unit => faultOf? ((engine.withRegistry tabs).receive unit).2.2
  | .send message out => (faultOf? (engine.endpoint.send? message out)).map .framing

/-- **A call moves the connection to another stage.** -/
inductive Shift (engine : Engine) : Call → Connection → Prop
  /-- It is asked for a stage that may follow. -/
  | moveTo {next : Connection} (h : engine.endpoint.connection.canBecome next = true) :
    Shift engine (.take (.moveTo next)) next
  /-- It has not been tried yet, and now it is. -/
  | dial {url : String} (h : engine.endpoint.connection = .disconnected) :
    Shift engine (.take (.dial url)) (.connecting url)
  /-- An attempt is under way, and it has come to its end. -/
  | established {url : String} (h : engine.endpoint.connection = .connecting url) :
    Shift engine (.take .established) (.connected url)
  /-- It is not gone yet, and now it is. -/
  | hangUp {reason : String} (h : engine.endpoint.connection.isOver = false) :
    Shift engine (.take (.hangUp reason)) (.closed reason)

/-- Every move leads further along the line. -/
theorem Shift.stage_lt (h : engine.Shift call next) :
    engine.endpoint.connection.stage < next.stage := by
  cases h with
  | moveTo hnext => exact Connection.stage_lt_of_canBecome hnext
  | dial hconnection =>
    rw [hconnection]
    exact Nat.zero_lt_one
  | established hconnection =>
    rw [hconnection]
    exact Nat.lt_succ_self 1
  | hangUp hover => exact Connection.stage_lt_of_not_isOver hover

/-- To where a call moves the connection is settled by the stage that it is in. -/
theorem Shift.unique {other : Connection} (h : engine.Shift call next)
    (h' : engine.Shift call other) : next = other := by
  cases h with
  | established hconnection =>
    cases h' with
    | established hconnection' =>
      obtain rfl := Connection.connecting.inj (hconnection.symm.trans hconnection')
      rfl
  | _ =>
    cases h'
    rfl

/-- A connection is opened out of an attempt only, and if the attempt itself has come to its
end, the address is that of the attempt. -/
theorem Shift.exists_connecting {url : String} (h : engine.Shift call (.connected url)) :
    ∃ dialled, engine.endpoint.connection = .connecting dialled ∧
      (call = .take .established → dialled = url) := by
  cases h with
  | moveTo hnext =>
    obtain ⟨dialled, hconnection⟩ := Connection.eq_connecting_of_canBecome hnext
    exact ⟨dialled, hconnection, fun hcall => by cases hcall⟩
  | established hconnection => exact ⟨url, hconnection, fun _ => rfl⟩

/-- **A turn moves the connection and does not fail, or leaves the stage as it is.** -/
theorem turned_cases (engine : Engine) (turn : Turn) :
    (∃ next, engine.Shift (.take turn) next ∧
        (engine.turned turn).endpoint.connection = next ∧
        engine.failure? (.take turn) = none) ∨
      (∀ next, ¬engine.Shift (.take turn) next) ∧
        (engine.turned turn).endpoint.connection = engine.endpoint.connection := by
  cases turn with
  | moveTo next =>
    rw [turned, failure?]
    rcases engine.endpoint.moveTo_cases next with ⟨hnext, hmove⟩ | ⟨hnext, failure, hmove⟩
    · rw [hmove]
      exact Or.inl ⟨next, .moveTo hnext, rfl, rfl⟩
    · rw [hmove]
      refine Or.inr ⟨fun other hshift => ?_, rfl⟩
      cases hshift with
      | moveTo hother => exact Bool.false_ne_true (hnext.symm.trans hother)
  | dial url =>
    rw [turned, failure?, Endpoint.dial]
    rcases engine.endpoint.moveTo_cases (.connecting url) with
      ⟨hnext, hmove⟩ | ⟨hnext, failure, hmove⟩
    · rw [hmove]
      exact Or.inl ⟨_, .dial (Connection.eq_disconnected_of_canBecome hnext), rfl, rfl⟩
    · rw [hmove]
      refine Or.inr ⟨fun other hshift => ?_, rfl⟩
      cases hshift with
      | dial hconnection =>
        rw [hconnection] at hnext
        cases hnext
  | established =>
    rw [turned, failure?]
    rcases engine.endpoint.established_cases with
      ⟨url, lines, hconnection, hopen⟩ | ⟨hconnection, failure, hopen⟩
    · rw [hopen]
      exact Or.inl ⟨_, .established hconnection, rfl, rfl⟩
    · rw [hopen]
      refine Or.inr ⟨fun other hshift => ?_, rfl⟩
      cases hshift with
      | established hattempt => exact hconnection _ hattempt
  | hangUp reason =>
    rw [turned, Endpoint.hungUp]
    cases hover : engine.endpoint.connection.isOver with
    | false => exact Or.inl ⟨_, .hangUp hover, rfl, rfl⟩
    | true =>
      refine Or.inr ⟨fun other hshift => ?_, rfl⟩
      cases hshift with
      | hangUp hopen => exact Bool.false_ne_true (hopen.symm.trans hover)
  | finish => exact Or.inr ⟨fun other hshift => (by cases hshift), rfl⟩

/-- **A call moves the connection and does not fail, or leaves the stage as it is.** Besides the
turns of the connection there is no call that moves it. -/
theorem perform_cases (engine : Engine) (call : Call) :
    (∃ next, engine.Shift call next ∧ (engine.perform call).endpoint.connection = next ∧
        engine.failure? call = none) ∨
      (∀ next, ¬engine.Shift call next) ∧
        (engine.perform call).endpoint.connection = engine.endpoint.connection := by
  cases call with
  | take turn => exact engine.turned_cases turn
  | register key handler => exact Or.inr ⟨fun next hshift => (by cases hshift), rfl⟩
  | receive tabs unit =>
    exact Or.inr ⟨fun next hshift => (by cases hshift),
      (engine.withRegistry tabs).connection_receive unit⟩
  | send message out =>
    refine Or.inr ⟨fun next hshift => (by cases hshift), ?_⟩
    cases hsend : engine.endpoint.send? message out with
    | error fault =>
      rw [perform, hsend]
      rfl
    | ok result =>
      obtain ⟨endpoint, longer⟩ := result
      obtain ⟨-, -, rfl⟩ := send?_eq_ok hsend
      rw [perform, hsend]
      rfl

/-- A call that may move the connection does so, and does not fail. -/
theorem Shift.connection_eq (h : engine.Shift call next) :
    (engine.perform call).endpoint.connection = next ∧ engine.failure? call = none := by
  rcases engine.perform_cases call with ⟨other, hother, hconnection, hnone⟩ | ⟨hnot, -⟩
  · exact ⟨hconnection.trans (hother.unique h), hnone⟩
  · exact absurd h (hnot next)

/-- **A call that fails leaves the stage as it is.** -/
theorem connection_perform_of_failure {failure : Failure}
    (h : engine.failure? call = some failure) :
    (engine.perform call).endpoint.connection = engine.endpoint.connection := by
  rcases engine.perform_cases call with ⟨next, -, -, hnone⟩ | ⟨-, hstays⟩
  · rw [hnone] at h
    cases h
  · exact hstays

/-! ### Rows of calls -/

theorem precedes_perform (engine : Engine) (call : Call) :
    engine.endpoint.connection.Precedes (engine.perform call).endpoint.connection := by
  rcases engine.perform_cases call with ⟨next, hshift, rfl, -⟩ | ⟨-, hstays⟩
  · exact Or.inr hshift.stage_lt
  · exact Or.inl hstays.symm

/-- **A row of calls leads forward**, or leaves the stage as it is. -/
theorem precedes_performAll (engine : Engine) (calls : List Call) :
    engine.endpoint.connection.Precedes (engine.performAll calls).endpoint.connection := by
  induction calls generalizing engine with
  | nil => exact .refl _
  | cons call rest ih => exact (engine.precedes_perform call).trans (ih (engine.perform call))

/-- **The connection goes one way through its stages.** Take an engine with a new endpoint, and
the engine as it is after any calls in any order. The endpoint has begun disconnected, and

* whatever is called later, it keeps its stage, with all that this carries, or gets to one
  further along;
* a call that fails leaves the stage as it is;
* it gets connected only while it is connecting; what opens it then is the word that the attempt
  has come to its end, which does not fail and keeps the very address of the attempt, or else a
  call that asks for the stage by name;
* hung up, it is closed for the reason given, unless it is closed already;
* once it is closed it stays so, for the same reason, and a unit that comes in changes nothing:
  neither is it cut, so that it cannot fail either, nor is it counted or handled. -/
theorem lifecycle (name : String) (splitter : Splitter) (registry : Registry)
    (calls : List Call) :
    let start : Engine := ⟨.new name splitter, registry⟩
    let now := start.performAll calls
    start.endpoint.connection = .disconnected ∧
      (∀ later, now.endpoint.connection.Precedes (now.performAll later).endpoint.connection) ∧
      (∀ call failure, now.failure? call = some failure →
        (now.perform call).endpoint.connection = now.endpoint.connection) ∧
      (∀ call url, (now.perform call).endpoint.connection = .connected url →
        now.endpoint.connection = .connected url ∨
          ∃ dialled, now.endpoint.connection = .connecting dialled ∧
            (call = .take .established → dialled = url)) ∧
      (∀ url, now.endpoint.connection = .connecting url →
        now.failure? (.take .established) = none ∧
          (now.perform (.take .established)).endpoint.connection = .connected url) ∧
      (∀ reason, now.endpoint.connection.isOver = false →
        (now.perform (.take (.hangUp reason))).endpoint.connection = .closed reason) ∧
      (∀ reason later, now.endpoint.connection = .closed reason →
        (now.performAll later).endpoint.connection = .closed reason ∧
          ∀ tabs unit,
            let last := (now.performAll later).withRegistry tabs
            ∃ line, last.receive unit = (last, [.log line], .ok ())) := by
  intro start now
  refine ⟨rfl, now.precedes_performAll, fun call failure => connection_perform_of_failure,
    fun call url hopen => ?_, fun url hattempt => ?_, fun reason hover => ?_,
    fun reason later hclosed => ?_⟩
  · rcases now.perform_cases call with ⟨next, hshift, hnext, -⟩ | ⟨-, hstays⟩
    · obtain rfl := hnext.symm.trans hopen
      exact Or.inr hshift.exists_connecting
    · exact Or.inl (hstays.symm.trans hopen)
  · exact (Shift.established hattempt).connection_eq.symm
  · exact (Shift.hangUp hover).connection_eq.1
  · have hlast : (now.performAll later).endpoint.connection = .closed reason :=
      (hclosed ▸ now.precedes_performAll later).eq_closed
    refine ⟨hlast, fun tabs unit => receive_of_not_isOpen ?_ unit⟩
    show ¬(now.performAll later).endpoint.connection.isOpen = true
    rw [hlast]
    exact Bool.false_ne_true

/-- An endpoint is told of an opening before there was an attempt, is to dial twice, gets a unit
that cannot be cut while it is connected, and is hung up twice; then it is to begin anew, and
another unit comes in. -/
def disorderlyCalls : List Call :=
  [.take .established, .take (.dial "tcp://one"), .take (.dial "tcp://two"), .take .established,
    .receive bare.registry [255, 255, 255, 255], .take (.hangUp "went away"),
    .take (.hangUp "again"), .take (.moveTo (.connecting "tcp://two")),
    .receive bare.registry (Frame.ofPayload [123, 125])]

theorem lifecycle_disorderlyCalls :
    let start : Engine := ⟨.new "bare" .reassembling, bare.registry⟩
    (List.range 10).map (fun calls =>
        (start.performAll (disorderlyCalls.take calls)).endpoint.connection)
      = [.disconnected, .disconnected, .connecting "tcp://one", .connecting "tcp://one",
          .connected "tcp://one", .connected "tcp://one", .closed "went away",
          .closed "went away", .closed "went away", .closed "went away"] ∧
    (start.performAll (disorderlyCalls.take 4)).failure?
        (.receive bare.registry [255, 255, 255, 255])
      = some (.framing (.tooLarge 4294967295 16777216)) ∧
    (start.performAll disorderlyCalls).endpoint.connection = .closed "went away" := by
  intro start
  refine ⟨by decide +kernel, by decide +kernel, ?_⟩
  obtain ⟨-, -, -, -, -, -, hclosed⟩ :=
    lifecycle "bare" .reassembling bare.registry (disorderlyCalls.take 6)
  exact (hclosed "went away" (disorderlyCalls.drop 6) (by decide +kernel)).1

end Engine

end StripChart
