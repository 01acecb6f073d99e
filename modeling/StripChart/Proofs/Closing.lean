import StripChart.Proofs.Delivery
import StripChart.Proofs.Publishing
import StripChart.Proofs.Requests

/-!
# How a session comes to its end

Whatever happens to a session and in whatever order, it makes one way: it tries to connect,
it is connected or not, and it is closed. This file says so of all that a session gives out
(`Session.closes_once`): which stages of the connection are made known, which notices are
sent, and from what cause the session comes to which outcome.

What carries it is that the outcome of an event can be told beforehand, without having the
session handle it (`Session.verdict?`). A step of an open session gives out nothing about the
connection as long as there is no verdict, and with a verdict it ends in the same three outputs
whatever the verdict is (`Session.Leads`, `Session.leads_step`). So a run is quiet up to the
first event with a verdict, and what comes after that one falls on a session that is over.
-/

namespace StripChart

namespace Engine

/-! ### What a unit does to the connection -/

/-- A unit does not change the stage of the connection. -/
theorem connection_receive (engine : Engine) (unit : Bytes) :
    (engine.receive unit).1.endpoint.connection = engine.endpoint.connection := by
  rcases hopen : engine.endpoint.connection.isOpen with - | -
  · rw [receive, hopen, if_neg Bool.false_ne_true]
  · rcases hunit : engine.endpoint.splitter.receive unit with ⟨fault | frames, splitter⟩
    · rw [receive_of_error hopen hunit]
      rfl
    · rw [receive_of_ok hopen hunit]
      exact engine.connection_takeFrames frames

end Engine

/-- Whether the notice is about the connection itself. -/
def Notice.isOfConnection : Notice → Bool
  | .connected _ => true
  | .closed _ => true
  | _ => false

namespace Session

/-! ### What is said about the connection -/

/-- The stage of the connection that is made known, if the output is one. -/
def Output.stage? : Output → Option Connection
  | .connection stage => some stage
  | _ => none

/-- The notice that is sent, if the output is one. -/
def Output.notice? : Output → Option Notice
  | .notice given => some given
  | _ => none

/-- Whether the output says nothing about the connection itself. -/
def Output.isQuiet : Output → Bool
  | .connection _ => false
  | .notice given => !given.isOfConnection
  | _ => true

/-- The stages of the connection among the outputs of a session, in order. -/
def stages (outputs : List Output) : List Connection :=
  outputs.filterMap Output.stage?

/-- The notices among the outputs of a session, in order. -/
def notices (outputs : List Output) : List Notice :=
  outputs.filterMap Output.notice?

/-- **Nothing is said about the connection itself.** -/
def Quiet (outputs : List Output) : Prop :=
  ∀ output ∈ outputs, output.isQuiet = true

/-- What a session gives out last. -/
def farewell (reason : String) (line : LogLine) : List Output :=
  [.connection (.closed reason), .log line, .notice (.closed reason)]

variable {session : Session} {outputs more : List Output} {url : String}

theorem stages_append (outputs more : List Output) :
    stages (outputs ++ more) = stages outputs ++ stages more :=
  List.filterMap_append

theorem notices_append (outputs more : List Output) :
    notices (outputs ++ more) = notices outputs ++ notices more :=
  List.filterMap_append

theorem Quiet.nil : Quiet [] :=
  fun _ hmem => absurd hmem List.not_mem_nil

theorem Quiet.append (h : Quiet outputs) (hmore : Quiet more) : Quiet (outputs ++ more) :=
  fun output hmem => (List.mem_append.1 hmem).elim (h output) (hmore output)

theorem quiet_singleton {output : Output} (h : output.isQuiet = true) : Quiet [output] := by
  intro given hmem
  rw [List.mem_singleton.1 hmem]
  exact h

/-- A row is quiet that is made from other things by something quiet. -/
theorem quiet_map {β : Type} {output : β → Output} (h : ∀ item, (output item).isQuiet = true)
    (items : List β) : Quiet (items.map output) := by
  intro given hmem
  obtain ⟨item, -, rfl⟩ := List.mem_map.1 hmem
  exact h item

theorem quiet_logOutputs (effects : List Effect) : Quiet (logOutputs effects) :=
  quiet_map (fun _ => rfl) _

theorem quiet_refuse (reason : String) : Quiet (refuse reason) := by
  simp [Quiet, refuse, Output.isQuiet, Notice.isOfConnection]

theorem quiet_failureLines (session : Session) (outcome : Except Failure Ending) :
    Quiet (session.failureLines outcome) := by
  cases outcome with
  | ok how => exact .nil
  | error error => simp [Quiet, failureLines, Output.isQuiet]

theorem connection_publish (session : Session) :
    session.publish.1.connection = session.connection :=
  congrArg (fun engine => engine.endpoint.connection) session.engine_publish

theorem quiet_publish (session : Session) : Quiet session.publish.2 := by
  rcases session.publish_cases with ⟨-, -, h⟩ | ⟨snapshot, -, h⟩ <;> rw [h]
  · exact .nil
  · simp [Quiet, Output.isQuiet]

theorem notices_publish (session : Session) : notices session.publish.2 = [] := by
  rcases session.publish_cases with ⟨-, -, h⟩ | ⟨snapshot, -, h⟩ <;> rw [h] <;> rfl

theorem Quiet.stages_eq_nil (h : Quiet outputs) : stages outputs = [] := by
  refine List.filterMap_eq_nil_iff.2 fun output hmem => ?_
  cases output with
  | connection stage => exact absurd (h _ hmem) Bool.false_ne_true
  | _ => rfl

theorem Quiet.isOfConnection_eq_false (h : Quiet outputs) :
    ∀ notice ∈ notices outputs, notice.isOfConnection = false := by
  intro notice hmem
  obtain ⟨output, houtput, hnotice⟩ := List.mem_filterMap.1 hmem
  cases output with
  | notice other =>
    obtain rfl : other = notice := Option.some.inj hnotice
    have hquiet : (!other.isOfConnection) = true := h _ houtput
    exact Bool.not_eq_true' _ ▸ hquiet
  | _ => cases hnotice

/-! ### What an event comes to -/

/-- **The session is open** to the address and takes events. -/
structure IsOpen (session : Session) (url : String) : Prop where
  /-- It is not over. -/
  outcome_eq : session.outcome = none
  /-- It is connected to the address. -/
  connection_eq : session.connection = .connected url

theorem IsOpen.isRunning (h : session.IsOpen url) : session.isRunning = true := by
  rw [Session.isRunning, h.outcome_eq, h.connection_eq]
  rfl

theorem IsOpen.isOpen_connection (h : session.IsOpen url) :
    session.engine.endpoint.connection.isOpen = true := by
  rw [show session.engine.endpoint.connection = .connected url from h.connection_eq]
  rfl

/-- What an open session comes to with what it gives out: as long as there is no verdict it
stays open and says nothing about the connection, and at a verdict it is over and takes its
leave. -/
inductive Leads (url : String) : Session × List Output → Option (Except Failure Ending) → Prop
  /-- The session stays open. -/
  | goesOn {after : Session} {outputs : List Output} :
    after.IsOpen url → Quiet outputs → Leads url (after, outputs) none
  /-- The session is over. -/
  | ends {after : Session} {earlier : List Output} {outcome : Except Failure Ending}
    {line : LogLine} :
    after.outcome = some outcome → after.connection = .closed (reasonOf outcome) →
    Quiet earlier → Leads url (after, earlier ++ farewell (reasonOf outcome) line) (some outcome)

variable {verdict : Option (Except Failure Ending)} {result : Session × List Output}

theorem Leads.outcome_eq (h : Leads url result verdict) : result.1.outcome = verdict := by
  cases h with
  | goesOn hopen _ => exact hopen.outcome_eq
  | ends houtcome _ _ => exact houtcome

theorem Leads.isOpen (h : Leads url result none) : result.1.IsOpen url := by
  cases h with
  | goesOn hopen _ => exact hopen

/-- What is told before makes no difference. -/
theorem Leads.prepend (h : Leads url result verdict) (houtputs : Quiet outputs) :
    Leads url (result.1, outputs ++ result.2) verdict := by
  cases h with
  | goesOn hopen hquiet => exact .goesOn hopen (houtputs.append hquiet)
  | ends houtcome hconnection hquiet =>
    rw [← List.append_assoc]
    exact .ends houtcome hconnection (houtputs.append hquiet)

/-- Closing an open connection. -/
theorem close_of_not_isOver (h : session.connection.isOver = false) (reason : String) :
    session.close reason
      = (session.withEndpoint { session.engine.endpoint with connection := .closed reason },
          .log ⟨.info, s!"Connection '{session.name}' closed: {reason}"⟩ ::
            farewell reason ⟨.info, s!"Session '{session.name}' ended: {reason}"⟩) := by
  unfold close Endpoint.hungUp
  rw [show session.engine.endpoint.connection.isOver = false from h]
  rfl

/-- **An open session that ends takes its leave**, for whatever outcome it ends. -/
theorem leads_conclude (h : session.IsOpen url) (outcome : Except Failure Ending) :
    Leads url (session.conclude outcome) (some outcome) := by
  have hover : session.publish.1.connection.isOver = false := by
    rw [connection_publish, h.connection_eq]
    rfl
  have hclose := close_of_not_isOver hover (reasonOf outcome)
  have hconclude : session.conclude outcome
      = ({ (session.publish.1.close (reasonOf outcome)).1 with outcome := some outcome },
        session.publish.2 ++
          (session.publish.1.close (reasonOf outcome)).1.failureLines outcome ++
          (session.publish.1.close (reasonOf outcome)).2) := rfl
  rw [hconclude, hclose, List.append_cons]
  exact .ends rfl rfl (((quiet_publish session).append (quiet_failureLines _ outcome)).append
    (quiet_singleton rfl))

/-- The verdict on something that is to be sent: the transport may not take it. -/
def refusal? (sendFault : Option String) : Option (Except Failure Ending) :=
  sendFault.map fun reason => .error (.transport reason)

theorem leads_deliver (h : session.IsOpen url) (sendFault : Option String) (unit : Bytes) :
    Leads url (session.deliver sendFault unit) (refusal? sendFault) := by
  cases sendFault with
  | none => exact .goesOn h (quiet_singleton rfl)
  | some reason => exact leads_conclude h _

/-- **What a session would send** while it handles an event. -/
def sent? (session : Session) : Event → Option Bytes
  | .unit bytes =>
    let upshot := Upshot.ofEffects (session.engine.receive bytes).2.1
    if upshot.isSilent then none else some upshot.replies
  | .command (.send message) =>
    (session.engine.endpoint.send? message []).toOption.map Prod.snd
  | _ => none

/-- **The outcome to which an event brings an open session**, if it brings it to its end. -/
def verdict? (session : Session) (sendFault : Option String) (event : Event) :
    Option (Except Failure Ending) :=
  match event with
  | .failed reason => some (.error (.transport reason))
  | .ended =>
    if session.engine.endpoint.splitter.pending = [] then some (.ok .byPeer)
    else
      some (.error (.framing (.incomplete session.engine.endpoint.splitter.pending.length)))
  | .abandoned => some (.ok .byClient)
  | .command .stop => some (.ok .byClient)
  | .unit bytes =>
    match (session.engine.endpoint.splitter.receive bytes).1 with
    | .error fault => some (.error (.framing fault))
    | .ok _ => (session.sent? (.unit bytes)).bind fun _ => refusal? sendFault
  | event => (session.sent? event).bind fun _ => refusal? sendFault

/-- A session stays open whatever becomes of its tabs. -/
theorem IsOpen.withRegistry (h : session.IsOpen url) (registry : Registry) :
    (session.withRegistry registry).IsOpen url :=
  ⟨h.outcome_eq, h.connection_eq⟩

/-- The session after a delivery unit, if it does not end with it. -/
def afterUnit (session : Session) (unit : Bytes) : Session :=
  { session with engine := (session.engine.receive unit).1 }

/-- What is told of a delivery unit. -/
def toldOf (session : Session) (unit : Bytes) : List Output :=
  logOutputs (session.engine.receive unit).2.1 ++
    (Upshot.ofEffects (session.engine.receive unit).2.1).tabLines.map
      fun sent => .notice (.tabLines sent)

theorem IsOpen.afterUnit (h : session.IsOpen url) (unit : Bytes) :
    (session.afterUnit unit).IsOpen url where
  outcome_eq := h.outcome_eq
  connection_eq := (session.engine.connection_receive unit).trans h.connection_eq

theorem quiet_toldOf (session : Session) (unit : Bytes) : Quiet (session.toldOf unit) :=
  (quiet_logOutputs _).append (quiet_map (fun _ => rfl) _)

/-- A unit with a framing fault ends the session. -/
theorem receive_of_error (h : session.IsOpen url) (sendFault : Option String) {unit : Bytes}
    {fault : FrameError}
    (hunit : (session.engine.endpoint.splitter.receive unit).1 = .error fault) :
    session.receive sendFault unit
      = (((session.afterUnit unit).conclude (.error (.framing fault))).1,
          session.toldOf unit ++
            ((session.afterUnit unit).conclude (.error (.framing fault))).2) := by
  have hreceive := Engine.receive_of_error h.isOpen_connection (Prod.ext hunit rfl)
  rw [Session.receive, afterUnit, toldOf, hreceive]
  rfl

/-- Nothing is sent for a unit with a framing fault. -/
theorem sent?_of_error (h : session.IsOpen url) {unit : Bytes} {fault : FrameError}
    (hunit : (session.engine.endpoint.splitter.receive unit).1 = .error fault) :
    session.sent? (.unit unit) = none := by
  rw [sent?, Engine.receive_of_error h.isOpen_connection (Prod.ext hunit rfl)]
  rfl

/-- The frames of any other unit are handled, and then what they want sent is sent. -/
theorem receive_of_ok (h : session.IsOpen url) (sendFault : Option String) {unit : Bytes}
    {frames : List Received}
    (hunit : (session.engine.endpoint.splitter.receive unit).1 = .ok frames) :
    session.receive sendFault unit
      = match session.sent? (.unit unit) with
        | none => (session.afterUnit unit, session.toldOf unit)
        | some replies =>
          (((session.afterUnit unit).deliver sendFault replies).1,
            session.toldOf unit ++ ((session.afterUnit unit).deliver sendFault replies).2) := by
  have hreceive := Engine.receive_of_ok h.isOpen_connection (Prod.ext hunit rfl)
  rw [Session.receive, afterUnit, toldOf, sent?, hreceive]
  dsimp only
  split <;> rfl

theorem leads_receive (h : session.IsOpen url) (sendFault : Option String) (unit : Bytes) :
    Leads url (session.receive sendFault unit) (session.verdict? sendFault (.unit unit)) := by
  have hafter := h.afterUnit unit
  have htold := session.quiet_toldOf unit
  rcases hunit : (session.engine.endpoint.splitter.receive unit).1 with fault | frames
  · have hverdict : session.verdict? sendFault (.unit unit) = some (.error (.framing fault)) := by
      simp only [verdict?, hunit]
    rw [hverdict, receive_of_error h sendFault hunit]
    exact (leads_conclude hafter _).prepend htold
  · have hverdict : session.verdict? sendFault (.unit unit)
        = (session.sent? (.unit unit)).bind fun _ => refusal? sendFault := by
      simp only [verdict?, hunit]
    rw [hverdict, receive_of_ok h sendFault hunit]
    rcases session.sent? (.unit unit) with - | replies
    · exact .goesOn hafter htold
    · exact (leads_deliver hafter sendFault replies).prepend htold

theorem leads_execute (h : session.IsOpen url) (sendFault : Option String) (command : Command) :
    Leads url (session.execute sendFault command)
      (session.verdict? sendFault (.command command)) := by
  cases command with
  | change request => exact .goesOn ⟨h.outcome_eq, h.connection_eq⟩ (quiet_logOutputs _)
  | resize tab capacity =>
    refine .goesOn (h.withRegistry _) ?_
    split
    · exact quiet_singleton rfl
    · exact quiet_refuse _
  | zoom tab grow => exact .goesOn (h.withRegistry _) (quiet_singleton rfl)
  | discard tab =>
    simp only [execute]
    split
    · exact .goesOn ⟨h.outcome_eq, h.connection_eq⟩ (quiet_singleton rfl)
    · exact .goesOn (h.withRegistry _) .nil
  | send message =>
    simp only [execute, verdict?, sent?]
    rcases hsend : session.engine.endpoint.send? message [] with fault | ⟨endpoint, unit⟩
    · exact .goesOn h (quiet_refuse _)
    · -- sending counts, and leaves the connection as it is
      have hconnection : endpoint.connection = session.engine.endpoint.connection := by
        obtain ⟨longer, -, hsend⟩ := exists_of_bind_eq_ok hsend
        rw [← (Prod.mk.inj (Except.ok.inj hsend)).1]
        rfl
      have hopen : (session.withEndpoint endpoint).IsOpen url :=
        ⟨h.outcome_eq, hconnection.trans h.connection_eq⟩
      exact leads_deliver hopen sendFault unit
  | stop => exact (leads_conclude h _).prepend (quiet_singleton rfl)

theorem leads_finish (h : session.IsOpen url) (sendFault : Option String) :
    Leads url session.finish (session.verdict? sendFault .ended) := by
  have hafter : (session.withEndpoint session.engine.endpoint.finish.1).IsOpen url :=
    ⟨h.outcome_eq, h.connection_eq⟩
  by_cases hpending : session.engine.endpoint.splitter.pending = []
  · have hfinish : session.finish
        = (session.withEndpoint session.engine.endpoint.finish.1).conclude (.ok .byPeer) := by
      simp only [Session.finish, Endpoint.finish, Splitter.finish, hpending, List.isEmpty_nil,
        if_true]
    rw [verdict?, if_pos hpending, hfinish]
    exact leads_conclude hafter _
  · have hfinish : session.finish
        = (session.withEndpoint session.engine.endpoint.finish.1).conclude (.error
            (.framing (.incomplete session.engine.endpoint.splitter.pending.length))) := by
      simp only [Session.finish, Endpoint.finish, Splitter.finish, List.isEmpty_iff, hpending,
        if_false]
    rw [verdict?, if_neg hpending, hfinish]
    exact leads_conclude hafter _

/-- **At every event an open session comes to the verdict.** -/
theorem leads_step (h : session.IsOpen url) (sendFault : Option String) (event : Event) :
    Leads url (session.step sendFault event) (session.verdict? sendFault event) := by
  unfold Session.step
  rw [if_pos h.isRunning]
  cases event with
  | unit bytes => exact leads_receive h sendFault bytes
  | failed reason => exact leads_conclude h _
  | ended => exact leads_finish h sendFault
  | command command => exact leads_execute h sendFault command
  | abandoned => exact leads_execute h sendFault .stop
  | tick =>
    exact .goesOn ⟨session.outcome_publish.trans h.outcome_eq,
      session.connection_publish.trans h.connection_eq⟩ session.quiet_publish

/-- **A run of an open session** is quiet up to its end, and at its end the session takes its
leave. -/
theorem leads_run (h : session.IsOpen url) (events : List (Event × Option String)) :
    Leads url (session.run events) (session.run events).1.outcome := by
  induction events generalizing session with
  | nil =>
    rw [run_nil, h.outcome_eq]
    exact .goesOn h .nil
  | cons entry rest ih =>
    obtain ⟨event, sendFault⟩ := entry
    have hstep := leads_step h sendFault event
    rw [run_cons]
    generalize session.verdict? sendFault event = verdict at hstep
    generalize session.step sendFault event = result at hstep
    cases hstep with
    | goesOn hopen hquiet => exact (ih hopen).prepend hquiet
    | ends houtcome hconnection hquiet =>
      rw [run_of_over (Option.isSome_of_eq_some houtcome), List.append_nil, houtcome]
      exact .ends houtcome hconnection hquiet

/-! ### The event at which it ends -/

/-- **The session comes to such an event** while it takes events: what is said of the session
as it is then, the event and what would become of sending holds of one event of the row. -/
def Meets (session : Session) (events : List (Event × Option String))
    (cause : Session → Event → Option String → Prop) : Prop :=
  ∃ before event sendFault after, events = before ++ (event, sendFault) :: after ∧
    (session.run before).1.isRunning = true ∧ cause (session.run before).1 event sendFault

variable {cause : Session → Event → Option String → Prop}

theorem not_meets_nil : ¬session.Meets [] cause := by
  rintro ⟨before, event, sendFault, after, hevents, -⟩
  exact List.append_ne_nil_of_right_ne_nil before (List.cons_ne_nil _ _) hevents.symm

/-- A session that is over comes to nothing any more. -/
theorem not_meets_of_over (h : session.outcome.isSome) (events : List (Event × Option String)) :
    ¬session.Meets events cause := by
  rintro ⟨before, event, sendFault, after, -, hrunning, -⟩
  rw [run_of_over h, isRunning_of_over h] at hrunning
  exact Bool.false_ne_true hrunning

/-- The first event is such an event, or one of the others is. -/
theorem meets_cons_iff {event : Event} {sendFault : Option String}
    {rest : List (Event × Option String)} :
    session.Meets ((event, sendFault) :: rest) cause ↔
      session.isRunning = true ∧ cause session event sendFault ∨
        (session.step sendFault event).1.Meets rest cause := by
  constructor
  · rintro ⟨before, other, fault, after, hevents, hrunning, hcause⟩
    rcases before with - | ⟨entry, before⟩
    · obtain ⟨⟨⟩, -⟩ := List.cons.inj hevents
      exact Or.inl ⟨hrunning, hcause⟩
    · obtain ⟨rfl, rfl⟩ := List.cons.inj hevents
      exact Or.inr ⟨before, other, fault, after, rfl, hrunning, hcause⟩
  · rintro (⟨hrunning, hcause⟩ | ⟨before, other, fault, after, rfl, hrunning, hcause⟩)
    · exact ⟨[], event, sendFault, rest, rfl, hrunning, hcause⟩
    · exact ⟨(event, sendFault) :: before, other, fault, after, rfl, hrunning, hcause⟩

/-- As long as a session takes events it is open, to the one address. -/
theorem IsOpen.run (h : session.IsOpen url) {events : List (Event × Option String)}
    (hrunning : (session.run events).1.isRunning = true) : (session.run events).1.IsOpen url := by
  have hrun := leads_run h events
  have hnone : (session.run events).1.outcome = none := by
    rw [Session.isRunning, Bool.and_eq_true] at hrunning
    exact Option.isNone_iff_eq_none.1 hrunning.1
  rw [hnone] at hrun
  exact hrun.isOpen

/-- Causes that are the same for open sessions. -/
theorem meets_congr {other : Session → Event → Option String → Prop} (h : session.IsOpen url)
    (hcause : ∀ (now : Session) event sendFault, now.IsOpen url →
      (cause now event sendFault ↔ other now event sendFault))
    (events : List (Event × Option String)) :
    session.Meets events cause ↔ session.Meets events other := by
  constructor
  · rintro ⟨before, event, sendFault, after, hevents, hrunning, hmet⟩
    exact ⟨before, event, sendFault, after, hevents, hrunning,
      (hcause _ event sendFault (h.run hrunning)).1 hmet⟩
  · rintro ⟨before, event, sendFault, after, hevents, hrunning, hmet⟩
    exact ⟨before, event, sendFault, after, hevents, hrunning,
      (hcause _ event sendFault (h.run hrunning)).2 hmet⟩

/-- **A session ends with the verdict on an event** that it comes to, and only so. -/
theorem outcome_run_iff (h : session.IsOpen url) (events : List (Event × Option String))
    (outcome : Except Failure Ending) :
    (session.run events).1.outcome = some outcome ↔
      session.Meets events fun now event sendFault =>
        now.verdict? sendFault event = some outcome := by
  induction events generalizing session with
  | nil =>
    rw [run_nil, h.outcome_eq]
    exact iff_of_false (Option.some_ne_none _).symm not_meets_nil
  | cons entry rest ih =>
    obtain ⟨event, sendFault⟩ := entry
    have hstep := leads_step h sendFault event
    rw [run_cons, meets_cons_iff]
    rcases hverdict : session.verdict? sendFault event with - | verdict <;> rw [hverdict] at hstep
    · -- the session goes on, and it is for the other events to end it
      rw [ih hstep.isOpen]
      exact (or_iff_right fun hnow => Option.some_ne_none _ hnow.2.symm).symm
    · -- the session is over, and no other event is come to
      have hover := Option.isSome_of_eq_some hstep.outcome_eq
      rw [run_of_over hover, hstep.outcome_eq, or_iff_left (not_meets_of_over hover rest)]
      exact (and_iff_right h.isRunning).symm

/-- **What comes after the end comes to nothing.** The events can be cut where the session
ends: up to there it takes every event, and whatever events follow, it is as it was and gives
out nothing more. -/
def StopsWithin (session : Session) (events : List (Event × Option String)) : Prop :=
  ∃ taken after, events = taken ++ after ∧
    (∀ more, session.run (taken ++ more) = session.run events) ∧
    ∀ earlier entry later, taken = earlier ++ entry :: later →
      (session.run earlier).1.isRunning = true

theorem stopsWithin_of_over (h : session.outcome.isSome) (events : List (Event × Option String)) :
    session.StopsWithin events := by
  refine ⟨[], events, rfl, fun more => ?_, fun earlier entry later htaken => ?_⟩
  · rw [run_of_over h, run_of_over h]
  · exact absurd htaken.symm (List.append_ne_nil_of_right_ne_nil _ (List.cons_ne_nil _ _))

theorem IsOpen.stopsWithin (h : session.IsOpen url) {events : List (Event × Option String)}
    (hover : (session.run events).1.outcome.isSome) : session.StopsWithin events := by
  induction events generalizing session with
  | nil =>
    rw [run_nil, h.outcome_eq] at hover
    exact absurd hover Bool.false_ne_true
  | cons entry rest ih =>
    obtain ⟨event, sendFault⟩ := entry
    have hstep := leads_step h sendFault event
    rcases hverdict : session.verdict? sendFault event with - | verdict <;> rw [hverdict] at hstep
    · rw [run_cons] at hover
      obtain ⟨taken, after, rfl, hmore, hearlier⟩ := ih hstep.isOpen hover
      refine ⟨(event, sendFault) :: taken, after, rfl, fun more => ?_, ?_⟩
      · rw [List.cons_append, run_cons, run_cons, hmore]
      · rintro (- | ⟨first, earlier⟩) other later htaken
        · exact h.isRunning
        · obtain ⟨⟨⟩, hrest⟩ := List.cons.inj htaken
          exact hearlier earlier other later hrest
    · have hend := Option.isSome_of_eq_some hstep.outcome_eq
      refine ⟨[(event, sendFault)], rest, rfl, fun more => ?_, ?_⟩
      · rw [List.singleton_append, run_cons, run_cons, run_of_over hend, run_of_over hend]
      · rintro (- | ⟨first, earlier⟩) other later htaken
        · exact h.isRunning
        · exact absurd (List.cons.inj htaken).2 (by simp)

/-! ### What a session sends -/

/-- The delivery unit that is sent, if the output is one. -/
def Output.unit? : Output → Option Bytes
  | .unit bytes => some bytes
  | _ => none

/-- The delivery units among the outputs of a session, in order. -/
def units (outputs : List Output) : List Bytes :=
  outputs.filterMap Output.unit?

theorem units_append (outputs more : List Output) :
    units (outputs ++ more) = units outputs ++ units more :=
  List.filterMap_append

theorem units_map {β : Type} {output : β → Output} (h : ∀ item, (output item).unit? = none)
    (items : List β) : units (items.map output) = [] := by
  rw [units, List.filterMap_map]
  exact List.filterMap_eq_nil_iff.2 fun item _ => h item

theorem units_logOutputs (effects : List Effect) : units (logOutputs effects) = [] :=
  units_map (fun _ => rfl) _

theorem units_publish (session : Session) : units session.publish.2 = [] := by
  rcases session.publish_cases with ⟨-, -, h⟩ | ⟨snapshot, -, h⟩ <;> rw [h] <;> rfl

/-- Nothing is sent at the end. -/
theorem units_conclude (session : Session) (outcome : Except Failure Ending) :
    units (session.conclude outcome).2 = [] := by
  have hfailure : ∀ after : Session, units (after.failureLines outcome) = [] := fun after => by
    cases outcome <;> rfl
  have hlines : ∀ lines : List LogLine, units (lines.map .log) = [] := units_map fun _ => rfl
  simp only [conclude, close, units_append, units_publish, hfailure, hlines]
  rfl

theorem units_toldOf (session : Session) (unit : Bytes) : units (session.toldOf unit) = [] := by
  rw [toldOf, units_append, units_logOutputs, units_map fun _ => rfl, List.append_nil]

/-- **What a session sends** while it handles an event, if the transport takes it. -/
theorem units_step (h : session.IsOpen url) (event : Event) :
    units (session.step none event).2 = (session.sent? event).toList := by
  unfold Session.step
  rw [if_pos h.isRunning]
  cases event with
  | unit bytes =>
    rcases hunit : (session.engine.endpoint.splitter.receive bytes).1 with fault | frames
    · rw [sent?_of_error h hunit]
      show units (session.receive none bytes).2 = []
      rw [receive_of_error h none hunit, units_append, units_toldOf, units_conclude,
        List.append_nil]
    · show units (session.receive none bytes).2 = _
      rw [receive_of_ok h none hunit]
      rcases session.sent? (.unit bytes) with - | replies
      · exact session.units_toldOf bytes
      · rw [units_append, units_toldOf]
        rfl
  | failed reason => exact units_conclude _ _
  | ended =>
    show units session.finish.2 = []
    unfold Session.finish
    rcases session.engine.endpoint.finish with ⟨endpoint, error | -⟩ <;> exact units_conclude _ _
  | command command =>
    cases command with
    | change request => exact units_logOutputs _
    | resize tab capacity =>
      simp only [execute]
      split <;> rfl
    | zoom tab grow => rfl
    | discard tab =>
      simp only [execute]
      split <;> rfl
    | send message =>
      simp only [execute, sent?]
      rcases session.engine.endpoint.send? message [] with fault | ⟨endpoint, unit⟩ <;> rfl
    | stop => exact units_conclude _ _
  | abandoned => exact units_conclude _ _
  | tick => exact units_publish _

/-! ### Causes -/

/-- The verdict on sending is that the transport has failed. -/
theorem bind_refusal?_iff {sent : Option Bytes} {sendFault : Option String}
    {outcome : Except Failure Ending} :
    (sent.bind fun _ => refusal? sendFault) = some outcome ↔
      ∃ reason, (sendFault = some reason ∧ sent ≠ none) ∧ outcome = .error (.transport reason) := by
  rcases sent with - | bytes <;> rcases sendFault with - | reason <;> simp [refusal?, eq_comm]

theorem verdict?_byPeer_iff {sendFault : Option String} {event : Event} :
    session.verdict? sendFault event = some (.ok .byPeer) ↔
      event = .ended ∧ session.engine.endpoint.splitter.pending = [] := by
  cases event with
  | ended => simp [verdict?]
  | unit bytes =>
    simp only [verdict?]
    split <;> simp [bind_refusal?_iff]
  | command command => cases command <;> simp [verdict?, bind_refusal?_iff]
  | _ => simp [verdict?, bind_refusal?_iff]

theorem verdict?_byClient_iff {sendFault : Option String} {event : Event} :
    session.verdict? sendFault event = some (.ok .byClient) ↔
      event = .command .stop ∨ event = .abandoned := by
  cases event with
  | ended =>
    simp only [verdict?]
    split <;> simp
  | unit bytes =>
    simp only [verdict?]
    split <;> simp [bind_refusal?_iff]
  | command command => cases command <;> simp [verdict?, bind_refusal?_iff]
  | _ => simp [verdict?, bind_refusal?_iff]

theorem verdict?_framing_iff {sendFault : Option String} {event : Event} {fault : FrameError} :
    session.verdict? sendFault event = some (.error (.framing fault)) ↔
      (∃ bytes, event = .unit bytes ∧
        (session.engine.endpoint.splitter.receive bytes).1 = .error fault) ∨
      event = .ended ∧ session.engine.endpoint.splitter.pending ≠ [] ∧
        fault = .incomplete session.engine.endpoint.splitter.pending.length := by
  cases event with
  | ended =>
    simp only [verdict?]
    split <;> simp [*, eq_comm]
  | unit bytes =>
    simp only [verdict?]
    split <;> simp [*, bind_refusal?_iff]
  | command command => cases command <;> simp [verdict?, bind_refusal?_iff]
  | _ => simp [verdict?, bind_refusal?_iff]

theorem verdict?_transport_iff (h : session.IsOpen url) {sendFault : Option String}
    {event : Event} {reason : String} :
    session.verdict? sendFault event = some (.error (.transport reason)) ↔
      event = .failed reason ∨
        sendFault = some reason ∧ units (session.step none event).2 ≠ [] := by
  rw [units_step h, ne_eq, Option.toList_eq_nil_iff]
  cases event with
  | failed other => simp [verdict?, sent?]
  | ended =>
    simp only [verdict?]
    split <;> simp [sent?]
  | unit bytes =>
    simp only [verdict?]
    split
    · rename_i hunit
      simp [sent?_of_error h hunit]
    · simp [bind_refusal?_iff]
  | command command => cases command <;> simp [verdict?, sent?, bind_refusal?_iff]
  | _ => simp [verdict?, sent?]

/-- What ends a session as a failure is one of the stream or of the transport. -/
theorem failure_of_verdict? {sendFault : Option String} {event : Event} {failure : Failure}
    (h : session.verdict? sendFault event = some (.error failure)) :
    (∃ fault, failure = .framing fault) ∨ ∃ reason, failure = .transport reason := by
  have hrefusal : ∀ event, ((session.sent? event).bind fun _ => refusal? sendFault)
      = some (.error failure) → ∃ reason, failure = .transport reason := by
    intro event hrefused
    obtain ⟨reason, -, hfailure⟩ := bind_refusal?_iff.1 hrefused
    exact ⟨reason, Except.error.inj hfailure⟩
  cases event with
  | failed reason => exact Or.inr ⟨reason, (Except.error.inj (Option.some.inj h)).symm⟩
  | ended =>
    simp only [verdict?] at h
    split at h
    · cases h
    · exact Or.inl ⟨_, (Except.error.inj (Option.some.inj h)).symm⟩
  | unit bytes =>
    simp only [verdict?] at h
    split at h
    · exact Or.inl ⟨_, (Except.error.inj (Option.some.inj h)).symm⟩
    · exact Or.inr (hrefusal _ h)
  | command command =>
    cases command with
    | send message => exact Or.inr (hrefusal (.command (.send message)) h)
    | _ => cases h
  | abandoned => cases h
  | tick => cases h

/-! ### From the start to the end -/

/-- A session that cannot reach the address is over at once. -/
theorem start_of_error (h : session.connection = .disconnected) (url fault : String) :
    (session.start url (.error fault)).1.outcome
        = some (.error (.transport s!"connect to {url} failed: {fault}")) ∧
      stages (session.start url (.error fault)).2
        = [.connecting url, .closed s!"connect to {url} failed: {fault}"] ∧
      notices (session.start url (.error fault)).2
        = [.closed s!"connect to {url} failed: {fault}"] := by
  unfold start
  rw [dial_of_disconnected h]
  dsimp only
  rw [close_of_not_isOver rfl]
  exact ⟨rfl, rfl, rfl⟩

/-- A session that reaches the address says so, and then publishes a first snapshot. -/
theorem start_of_ok (h : session.connection = .disconnected) (url : String) :
    stages (session.start url (.ok ())).2 = [.connecting url, .connected url] ∧
      notices (session.start url (.ok ())).2 = [.connected url] := by
  have hstart : ∃ line published, (stages published = [] ∧ notices published = []) ∧
      (session.start url (.ok ())).2
        = [.connection (.connecting url), .log line, .connection (.connected url),
            .notice (.connected url)] ++ published := by
    unfold start
    rw [dial_of_disconnected h]
    refine ⟨_, _, ⟨(quiet_publish _).stages_eq_nil, notices_publish _⟩, rfl⟩
  obtain ⟨line, published, ⟨hstages, hnotices⟩, hstart⟩ := hstart
  rw [hstart, stages_append, notices_append, hstages, hnotices]
  exact ⟨rfl, rfl⟩

/-- The session that reaches the address is open to it. -/
theorem isOpen_start (h : session.connection = .disconnected) (houtcome : session.outcome = none)
    (url : String) : (session.start url (.ok ())).1.IsOpen url := by
  rw [start_fst h]
  exact ⟨(outcome_publish _).trans houtcome, connection_publish _⟩

/-- **What is said about the connection is said once, and in order**: from the attempt to the
end, with the word that the connection is open in between just if the address is reached. -/
structure ClosesOnce (url : String) (reached : Except String Unit) (outputs : List Output)
    (reason : String) : Prop where
  /-- The stages are those of one way. -/
  stages_eq : stages outputs
    = .connecting url :: ((match reached with
        | .ok () => [.connected url]
        | .error _ => []) ++ [.closed reason])
  /-- No notice comes before the word that the connection is open, and none after the word that
  it is closed; and neither is said again. -/
  notices_eq : ∃ middle, notices outputs
      = (match reached with
          | .ok () => [.connected url]
          | .error _ => []) ++ middle ++ [.closed reason] ∧
    ∀ notice ∈ middle, notice.isOfConnection = false

theorem closesOnce_of_error (h : session.connection = .disconnected) (url fault : String) :
    ClosesOnce url (.error fault) (session.start url (.error fault)).2
      s!"connect to {url} failed: {fault}" := by
  obtain ⟨-, hstages, hnotices⟩ := start_of_error h url fault
  exact ⟨hstages, [], hnotices, fun _ hmem => absurd hmem List.not_mem_nil⟩

theorem closesOnce_of_ok (h : session.connection = .disconnected)
    (houtcome : session.outcome = none) (url : String) {events : List (Event × Option String)}
    {outcome : Except Failure Ending}
    (hend : ((session.start url (.ok ())).1.run events).1.outcome = some outcome) :
    ClosesOnce url (.ok ())
      ((session.start url (.ok ())).2 ++ ((session.start url (.ok ())).1.run events).2)
      (reasonOf outcome) := by
  obtain ⟨hstages, hnotices⟩ := start_of_ok h url
  have hrun := leads_run (isOpen_start h houtcome url) events
  rw [hend] at hrun
  generalize (session.start url (.ok ())).1.run events = result at hrun
  cases hrun with
  | ends _ _ hquiet =>
    refine ⟨?_, _, ?_, hquiet.isOfConnection_eq_false⟩
    · rw [stages_append, stages_append, hstages, hquiet.stages_eq_nil]
      rfl
    · rw [notices_append, notices_append, hnotices, List.append_assoc]
      rfl

/-- **A session that ends is closed, once, and for one reason.** Whatever happens to it, in
whatever order, and however the attempt to connect goes:

* the stages that are made known are those of one way, from the first to the last, through the
  one in which the connection is open just if the address was reached;
* the notice that it is open is the first of all and the notice that it is closed the last, each
  is sent once, and the latter tells the reason that the last stage has;
* up to the end the session takes every event, and what follows comes to nothing;
* it never ends because the connection could not go on to a stage.

The outcome tells the cause. It is the peer's just if the stream ends while no bytes wait, and
the client's just if it asks for the end or is gone; the stream is at fault just if a unit is, or
if the stream ends within a frame; and the transport is at fault just if the address is not
reached, receiving fails, or something that is sent is not taken. -/
theorem closes_once {config : Config} {palette : Palette} {fresh : Session}
    (hnew : new? config palette = .ok fresh) (handlers : List (String × Handler)) (url : String)
    (reached : Except String Unit) (events : List (Event × Option String)) :
    let opened := (fresh.withHandlers handlers).start url reached
    let done := opened.1.run events
    let outputs := opened.2 ++ done.2
    fresh.connection = .disconnected ∧
    (∀ outcome, done.1.outcome = some outcome →
      opened.1.StopsWithin events ∧
        ClosesOnce url reached outputs (match reached with
          | .ok () => reasonOf outcome
          | .error fault => s!"connect to {url} failed: {fault}")) ∧
    (∀ failure, done.1.outcome = some (.error failure) →
      (∀ source target, failure ≠ .impossibleMove source target) ∧
        ∀ reason, failure ≠ .closed reason) ∧
    (done.1.outcome = some (.ok .byPeer) ↔
      opened.1.Meets events fun now event _ =>
        event = .ended ∧ now.engine.endpoint.splitter.pending = []) ∧
    (done.1.outcome = some (.ok .byClient) ↔
      opened.1.Meets events fun _ event _ => event = .command .stop ∨ event = .abandoned) ∧
    (∀ fault, done.1.outcome = some (.error (.framing fault)) ↔
      opened.1.Meets events fun now event _ =>
        (∃ bytes, event = .unit bytes ∧
          (now.engine.endpoint.splitter.receive bytes).1 = .error fault) ∨
        event = .ended ∧ now.engine.endpoint.splitter.pending ≠ [] ∧
          fault = .incomplete now.engine.endpoint.splitter.pending.length) ∧
    ∀ reason, done.1.outcome = some (.error (.transport reason)) ↔
      (∃ fault, reached = .error fault ∧ reason = s!"connect to {url} failed: {fault}") ∨
      opened.1.Meets events fun now event sendFault =>
        event = .failed reason ∨
          sendFault = some reason ∧ units (now.step none event).2 ≠ [] := by
  have hfresh := (isFresh_of_new? hnew).withHandlers handlers
  intro opened done outputs
  refine ⟨(isFresh_of_new? hnew).connection_eq, ?_⟩
  rcases reached with fault | -
  · -- the session is over before the first event
    obtain ⟨houtcome, -⟩ := start_of_error hfresh.connection_eq url fault
    have hover : opened.1.outcome.isSome := Option.isSome_of_eq_some houtcome
    have hdone : done = (opened.1, []) := run_of_over hover events
    have hnever : ∀ cause, ¬opened.1.Meets events cause :=
      fun cause => not_meets_of_over hover events
    have hend : done.1.outcome
        = some (.error (.transport s!"connect to {url} failed: {fault}")) := by
      rw [hdone]
      exact houtcome
    have houtputs : outputs = opened.2 := by
      rw [show outputs = opened.2 ++ done.2 from rfl, hdone, List.append_nil]
    rw [houtputs, hend]
    refine ⟨fun outcome _ => ?_, fun failure hfailure => ?_, ?_, ?_, fun other => ?_,
      fun reason => ?_⟩
    · exact ⟨stopsWithin_of_over hover events, closesOnce_of_error hfresh.connection_eq url fault⟩
    · obtain rfl := Except.error.inj (Option.some.inj hfailure)
      exact ⟨fun _ _ => Failure.noConfusion, fun _ => Failure.noConfusion⟩
    · exact iff_of_false (fun h => nomatch h) (hnever _)
    · exact iff_of_false (fun h => nomatch h) (hnever _)
    · exact iff_of_false (fun h => nomatch h) (hnever _)
    · rw [or_iff_left (hnever _)]
      constructor
      · rintro ⟨⟩
        exact ⟨fault, rfl, rfl⟩
      · rintro ⟨_, ⟨⟩, rfl⟩
        rfl
  · -- the session is open, and the outcome is the verdict on the event at which it ends
    have hopen : opened.1.IsOpen url := isOpen_start hfresh.connection_eq hfresh.outcome_eq url
    refine ⟨fun outcome houtcome => ?_, fun failure hfailure => ?_, ?_, ?_, fun fault => ?_,
      fun reason => ?_⟩
    · exact ⟨hopen.stopsWithin (Option.isSome_of_eq_some houtcome),
        closesOnce_of_ok hfresh.connection_eq hfresh.outcome_eq url houtcome⟩
    · obtain ⟨_, _, _, _, -, -, hverdict⟩ := (outcome_run_iff hopen _ _).1 hfailure
      rcases failure_of_verdict? hverdict with ⟨fault, rfl⟩ | ⟨reason, rfl⟩
      · exact ⟨fun _ _ => Failure.noConfusion, fun _ => Failure.noConfusion⟩
      · exact ⟨fun _ _ => Failure.noConfusion, fun _ => Failure.noConfusion⟩
    · rw [outcome_run_iff hopen]
      exact meets_congr hopen (fun _ _ _ _ => verdict?_byPeer_iff) events
    · rw [outcome_run_iff hopen]
      exact meets_congr hopen (fun _ _ _ _ => verdict?_byClient_iff) events
    · rw [outcome_run_iff hopen]
      exact meets_congr hopen (fun _ _ _ _ => verdict?_framing_iff) events
    · rw [outcome_run_iff hopen, or_iff_right (by rintro ⟨_, ⟨⟩, -⟩)]
      exact meets_congr hopen (fun _ _ _ hnow => verdict?_transport_iff hnow) events

/-- The server ends the stream within a frame, and then a tab would be taken away. -/
theorem closes_once_onePlot :
    ∃ fresh, new? Registry.onePlot ⟨0⟩ = .ok fresh ∧
      let opened := (fresh.withHandlers []).start "tcp://server" (.ok ())
      let done := opened.1.run
        [(.unit [0, 0], none), (.ended, none), (.command (.discard "power"), none)]
      done.1.outcome = some (.error (.framing (.incomplete 2))) ∧
        fresh.connection = .disconnected ∧
        stages (opened.2 ++ done.2)
          = [.connecting "tcp://server", .connected "tcp://server",
              .closed "protocol error: stream ended with 2 byte(s) of an incomplete frame"] := by
  obtain ⟨hfresh, hclosed, -, -, -, hframing, -⟩ := closes_once
    (show new? Registry.onePlot ⟨0⟩ = .ok _ from rfl) [] "tcp://server" (.ok ())
    [(.unit [0, 0], none), (.ended, none), (.command (.discard "power"), none)]
  have hend := (hframing (.incomplete 2)).2 ⟨[(.unit [0, 0], none)], .ended, none,
    [(.command (.discard "power"), none)], rfl, by decide +kernel,
    Or.inr ⟨rfl, by decide +kernel, by decide +kernel⟩⟩
  obtain ⟨-, hstages, -⟩ := hclosed _ hend
  exact ⟨_, rfl, hend, hfresh, hstages.trans (by decide +kernel)⟩

end Session

end StripChart
