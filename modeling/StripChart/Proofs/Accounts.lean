import StripChart.Proofs.Handling
import StripChart.Proofs.Hearing

/-!
# Keeping accounts

Nine counters tell what has passed through an engine, and they are counted up in as many places:
when a unit comes in, when a frame is taken, when an entry meets its fate, when samples go into
a ring, when a reply is sent and when a message of the client's own is. Here it is shown that
they tell the truth over any course of events (`Engine.accounts`): each is the length of a list
of things that have happened, up to the 64 bits that it has.

What has happened is a row of moments (`Engine.Moment`), each one thing done with an engine as
it was then. A moment is looked at through views, among them the unit that is handled in it
(`Engine.Moment.visit?`), the bytes that are given out, and the samples for the rings; these say
nothing of counters. The one step is that what a moment counts is what its views tell
(`Engine.Moment.counters_after`), and since both are added up along the row
(`Engine.tally_cons`), the accounts of a whole row are those of its moments.

No account is kept of entries that are applied or handed to a handler. That nothing becomes of
these but that, each once, is read off the tabs and the handlers instead (`Engine.Visit.keeps`).
-/

namespace StripChart

/-- The payloads of frames that stand back to back; there are none if the bytes are anything
else. -/
def Frame.payloads (bytes : Bytes) : List Bytes :=
  match cut greatestLength false bytes with
  | .ok (payloads, _) => payloads
  | .error _ => []

theorem Frame.payloads_ofPayloads {payloads : List Bytes}
    (h : ∀ payload ∈ payloads, payload.length ≤ greatestLength) :
    Frame.payloads (ofPayloads payloads) = payloads := by
  have hfits : ∀ payload ∈ payloads, Fits greatestLength payload :=
    fun payload hmem => ⟨h payload hmem, h payload hmem⟩
  rw [Frame.payloads, cut_ofPayloads hfits]

/-! ### Fates, counted -/

/-- Every entry meets one fate. -/
theorem Incoming.length_meeting (registered : String → Bool) (entries : List (String × Json)) :
    (meeting registered .returned entries).length + (meeting registered .unclaimed entries).length
        + (meeting registered .unusable entries).length
        + (meeting registered .applied entries).length
        + (meeting registered .handled entries).length
      = entries.length := by
  induction entries with
  | nil => rfl
  | cons entry rest ih =>
    rw [← List.singleton_append]
    simp only [meeting_append, List.length_append, meeting_singleton, List.length_singleton]
    cases fate registered entry <;> simp <;> omega

namespace Engine

/-! ### Things done with an engine -/

/-- What happens to the connection of an engine. -/
inductive Turn
  /-- It is brought to another stage. -/
  | moveTo (next : Connection)
  /-- An attempt is started to reach an address. -/
  | dial (url : String)
  /-- The transport has reached the address. -/
  | established
  /-- The transport is gone. -/
  | hangUp (reason : String)
  /-- The stream has ended. -/
  | finish

/-- What may be done with an engine. -/
inductive Call
  /-- Its connection takes a turn. -/
  | take (turn : Turn)
  /-- A key is given a handler. -/
  | register (key : String) (handler : Handler)
  /-- A unit has come in, and it is for these tabs. -/
  | receive (tabs : Registry) (unit : Bytes)
  /-- A message is appended to what goes out. -/
  | send (message : Outgoing) (out : Bytes)

/-- Whether a handler is registered for the key. -/
def Call.registers (key : String) : Call → Bool
  | .register name _ => key == name
  | _ => false

/-- The engine with another endpoint. If that was refused, nothing changes. -/
def adopt {ε : Type} (engine : Engine) : Except ε Endpoint → Engine
  | .ok endpoint => { engine with endpoint }
  | .error _ => engine

/-- The engine after its connection has taken a turn. -/
def turned (engine : Engine) : Turn → Engine
  | .moveTo next => engine.adopt (engine.endpoint.moveTo next)
  | .dial url => engine.adopt (engine.endpoint.dial url)
  | .established => engine.adopt (engine.endpoint.established.map Prod.fst)
  | .hangUp reason => { engine with endpoint := (engine.endpoint.hungUp reason).1 }
  | .finish => { engine with endpoint := engine.endpoint.finish.1 }

/-- The engine after something has been done with it. -/
def perform (engine : Engine) : Call → Engine
  | .take turn => engine.turned turn
  | .register key handler => engine.withHandler key handler
  | .receive tabs unit => ((engine.withRegistry tabs).receive unit).1
  | .send message out => engine.adopt ((engine.endpoint.send? message out).map Prod.fst)

/-- The engine after a row of calls. -/
def performAll (engine : Engine) (calls : List Call) : Engine :=
  calls.foldl perform engine

/-- Moving to another stage changes nothing but the stage. -/
theorem adopt_moveTo (engine : Engine) (next : Connection) :
    (engine.adopt (engine.endpoint.moveTo next)).endpoint.handlers = engine.endpoint.handlers ∧
      (engine.adopt (engine.endpoint.moveTo next)).endpoint.counters
        = engine.endpoint.counters := by
  rw [Endpoint.moveTo]
  split <;> exact ⟨rfl, rfl⟩

/-- **No turn of the connection touches handlers or counters.** -/
theorem turned_keeps (engine : Engine) (turn : Turn) :
    (engine.turned turn).endpoint.handlers = engine.endpoint.handlers ∧
      (engine.turned turn).endpoint.counters = engine.endpoint.counters := by
  cases turn with
  | moveTo next => exact engine.adopt_moveTo next
  | dial url => exact engine.adopt_moveTo (.connecting url)
  | established =>
    rw [turned, Endpoint.established]
    split
    · rename_i url hconnection
      have hmoves := engine.adopt_moveTo (.connected url)
      cases hmove : engine.endpoint.moveTo (.connected url) with
      | error failure => exact ⟨rfl, rfl⟩
      | ok endpoint =>
        rw [hmove] at hmoves
        exact hmoves
    · exact ⟨rfl, rfl⟩
  | hangUp reason =>
    rw [turned, Endpoint.hungUp]
    split <;> exact ⟨rfl, rfl⟩
  | finish => exact ⟨rfl, rfl⟩

/-- A message is sent as one frame behind what goes out, if it is not too long. -/
theorem send?_eq_ok {endpoint after : Endpoint} {message : Outgoing} {out longer : Bytes}
    (h : endpoint.send? message out = .ok (after, longer)) :
    message.toJson.encode.length ≤ Frame.greatestLength ∧
      longer = out ++ Frame.ofPayload message.toJson.encode ∧
      after = endpoint.count (·.addSent (Frame.ofPayload message.toJson.encode).length) := by
  rw [Endpoint.send?, Frame.append?] at h
  by_cases hle : message.toJson.encode.length ≤ Frame.greatestLength
  · rw [if_pos hle] at h
    obtain ⟨rfl, rfl⟩ := Prod.mk.inj (Except.ok.inj h)
    refine ⟨hle, rfl, ?_⟩
    rw [List.length_append, Nat.add_sub_cancel_left]
  · rw [if_neg hle] at h
    cases h

/-! ### Units that are handled -/

/-- A unit that is handled, with the engine that it comes to. -/
structure Visit where
  /-- The engine before. -/
  engine : Engine
  /-- The unit. -/
  unit : Bytes
  /-- The connection is open, or the unit would be dropped. -/
  isOpen : engine.endpoint.connection.isOpen = true

namespace Visit

variable (visit : Visit)

/-- The engine afterwards. -/
def after : Engine :=
  (visit.engine.receive visit.unit).1

/-- What comes of the unit. -/
def effects : List Effect :=
  (visit.engine.receive visit.unit).2.1

/-- The frames that the unit completes; there are none if it has a framing fault. -/
def frames : List Received :=
  match (visit.engine.endpoint.splitter.receive visit.unit).1 with
  | .ok frames => frames
  | .error _ => []

/-- The entries of the messages in them. -/
def entries : List (String × Json) :=
  visit.frames.flatMap Received.entries

/-- The entries that meet a fate, where the keys with a handler are those of the moment. -/
def meeting (which : Incoming.Fate) : List (String × Json) :=
  Incoming.meeting visit.engine.endpoint.handlers.contains which visit.entries

/-- The requests to the tabs, which are those in the entries that are applied. -/
def requests : List Registry.Request :=
  (visit.meeting .applied).flatMap Incoming.requests

/-- The samples that are put into rings, request by request (`Registry.storedAll`). -/
def stored : List (Sample Float) :=
  visit.engine.registry.storedAll visit.requests

/-- **A unit is handled like the frames that it completes.** -/
theorem exists_handles :
    ∃ handled splitter, visit.engine.HandlesFrames visit.frames handled ∧
      visit.after = handled.1.credit 1 (.ofNat visit.unit.length) splitter ∧
      visit.effects = handled.2 := by
  rcases hunit : visit.engine.endpoint.splitter.receive visit.unit with ⟨fault | frames, splitter⟩
  · have hframes : visit.frames = [] := by rw [Visit.frames, hunit]
    have hreceive := receive_of_error visit.isOpen hunit
    rw [hframes, after, effects, hreceive]
    exact ⟨(visit.engine, []), splitter, visit.engine.handles_takeFrames [], rfl, rfl⟩
  · have hframes : visit.frames = frames := by rw [Visit.frames, hunit]
    have hreceive := receive_of_ok visit.isOpen hunit
    rw [hframes, after, effects, hreceive]
    exact ⟨_, splitter, visit.engine.handles_takeFrames frames, rfl, rfl⟩

/-- **What becomes of the entries that nothing is counted for.** The tabs have served the
requests in those that are applied, handlers have been called with those that are theirs, none
of which has a key with a meaning of its own, and each handler has heard just the values under
its key. -/
theorem keeps :
    visit.after.registry = visit.engine.registry.after visit.requests ∧
      visit.effects.filterMap Effect.invocation? = visit.meeting .handled ∧
      (∀ entry ∈ visit.meeting .handled, ¬Incoming.IsBuiltIn entry.1) ∧
      Heard (visit.meeting .handled) visit.engine.endpoint.handlers
        visit.after.endpoint.handlers := by
  obtain ⟨handled, splitter, ⟨hengine, -, hinvocations⟩, hafter, heffects⟩ := visit.exists_handles
  refine ⟨?_, ?_, fun entry hmem => ?_, ?_⟩
  · rw [hafter, hengine, requests, meeting, Incoming.requests_applied]
    rfl
  · rw [heffects, hinvocations]
    rfl
  · exact Incoming.not_isBuiltIn_of_handled (of_decide_eq_true (List.mem_filter.1 hmem).2)
  · rw [hafter, hengine]
    exact Heard.answerAll visit.engine.endpoint.handlers visit.frames

end Visit

/-! ### Moments -/

/-- One thing done with an engine. -/
structure Moment where
  /-- The engine before. -/
  engine : Engine
  /-- What is done. -/
  call : Call

namespace Moment

variable (moment : Moment)

/-- The engine afterwards. -/
def after : Engine :=
  moment.engine.perform moment.call

/-- The unit that is handled, if one comes in while the connection is open. -/
def visit? : Option Visit :=
  match moment.call with
  | .receive tabs unit =>
    if h : moment.engine.endpoint.connection.isOpen = true then
      some ⟨moment.engine.withRegistry tabs, unit, h⟩
    else none
  | _ => none

/-- What comes of a unit that comes in. -/
def upshot : Upshot :=
  match moment.call with
  | .receive tabs unit => Upshot.ofEffects ((moment.engine.withRegistry tabs).receive unit).2.1
  | _ => ⟨[], [], 0⟩

/-- The bytes that are given out: the replies to a unit, or what is appended for a message. -/
def appended : Bytes :=
  match moment.call with
  | .receive _ _ => moment.upshot.replies
  | .send message out =>
    match moment.engine.endpoint.send? message out with
    | .ok (_, longer) => longer.drop out.length
    | .error _ => []
  | _ => []

/-- The payloads of the frames in them. -/
def sent : List Bytes :=
  Frame.payloads moment.appended

end Moment

/-- The moments of a row of calls. -/
def history (engine : Engine) : List Call → List Moment
  | [] => []
  | call :: rest => ⟨engine, call⟩ :: history (engine.perform call) rest

/-- The units that are handled in a row of moments. -/
def visits (moments : List Moment) : List Visit :=
  moments.filterMap Moment.visit?

/-- **What there is to be counted in a row of moments.** -/
def tally (moments : List Moment) : Tally where
  unitsIn := (visits moments).length
  framesIn := moments.foldr (fun moment total => moment.upshot.frames + total) 0
  bytesIn := ((visits moments).flatMap Visit.unit).length
  framesOut := (moments.flatMap Moment.sent).length
  bytesOut := (moments.flatMap Moment.appended).length
  unusable := (((visits moments).flatMap Visit.frames).filter Received.isMalformed).length
    + ((visits moments).flatMap (·.meeting .unusable)).length
  unclaimed := ((visits moments).flatMap (·.meeting .unclaimed)).length
  returned := ((visits moments).flatMap (·.meeting .returned)).length
  samplesKept := ((visits moments).flatMap Visit.stored).length

/-- **Accounts are added up moment by moment.** -/
theorem tally_cons (moment : Moment) (rest : List Moment) :
    tally (moment :: rest) = tally [moment] + tally rest := by
  have hvisits : visits (moment :: rest) = visits [moment] ++ visits rest := by
    rw [visits, ← List.singleton_append, List.filterMap_append]
    rfl
  simp only [tally, hvisits, Tally.add_def, List.flatMap_append, List.filter_append,
    List.length_append, List.flatMap_cons, List.flatMap_nil, List.append_nil, List.foldr_cons,
    List.foldr_nil, Nat.add_zero]
  ext <;> simp only
  omega

/-! ### What a moment counts -/

/-- The moment in which a unit is handled is one of that unit and nothing else. -/
theorem Moment.of_visit?_eq_some {moment : Moment} {visit : Visit}
    (h : moment.visit? = some visit) :
    visit.engine.endpoint = moment.engine.endpoint ∧ moment.after = visit.after ∧
      moment.upshot = Upshot.ofEffects visit.effects ∧
      moment.appended = (Upshot.ofEffects visit.effects).replies := by
  obtain ⟨engine, call⟩ := moment
  cases call with
  | receive tabs unit =>
    by_cases hopen : engine.endpoint.connection.isOpen = true
    · have hvisit : visit = ⟨engine.withRegistry tabs, unit, hopen⟩ :=
        (Option.some.inj ((dif_pos hopen).symm.trans h)).symm
      subst hvisit
      exact ⟨rfl, rfl, rfl, rfl⟩
    · have hnone : Moment.visit? ⟨engine, .receive tabs unit⟩ = none := dif_neg hopen
      rw [hnone] at h
      cases h
  | _ => cases h

/-- **In a moment in which no unit is handled** some frames may be given out, and nothing but
these is counted. -/
theorem Moment.of_visit?_eq_none {moment : Moment} (h : moment.visit? = none) :
    ∃ payloads, (∀ payload ∈ payloads, payload.length ≤ Frame.greatestLength) ∧
      moment.upshot.frames = 0 ∧ moment.appended = Frame.ofPayloads payloads ∧
      moment.after.endpoint.counters
        = moment.engine.endpoint.counters.after (.ofSent payloads) := by
  have hnil : ∀ payload ∈ ([] : List Bytes), payload.length ≤ Frame.greatestLength :=
    fun payload hmem => absurd hmem List.not_mem_nil
  obtain ⟨engine, call⟩ := moment
  have hnothing : engine.endpoint.counters.after (.ofSent []) = engine.endpoint.counters :=
    Counters.after_zero _
  cases call with
  | take turn =>
    exact ⟨[], hnil, rfl, rfl, (engine.turned_keeps turn).2.trans hnothing.symm⟩
  | register key handler => exact ⟨[], hnil, rfl, rfl, hnothing.symm⟩
  | receive tabs unit =>
    -- the connection is not open, or the unit would be handled
    have hopen : ¬(engine.withRegistry tabs).endpoint.connection.isOpen = true := by
      intro hopen
      have hvisit : Moment.visit? ⟨engine, .receive tabs unit⟩
          = some ⟨engine.withRegistry tabs, unit, hopen⟩ :=
        dif_pos hopen
      rw [hvisit] at h
      cases h
    obtain ⟨line, hdropped⟩ := receive_of_not_isOpen hopen unit
    have hupshot : Moment.upshot ⟨engine, .receive tabs unit⟩ = ⟨[], [], 0⟩ := by
      show Upshot.ofEffects ((engine.withRegistry tabs).receive unit).2.1 = _
      rw [hdropped]
      rfl
    refine ⟨[], hnil, congrArg Upshot.frames hupshot, congrArg Upshot.replies hupshot, ?_⟩
    show ((engine.withRegistry tabs).receive unit).1.endpoint.counters = _
    rw [hdropped, hnothing]
    rfl
  | send message out =>
    cases hsend : engine.endpoint.send? message out with
    | error fault =>
      have happended : Moment.appended ⟨engine, .send message out⟩ = [] := by
        rw [Moment.appended]
        simp only [hsend]
      refine ⟨[], hnil, rfl, happended, ?_⟩
      rw [hnothing, Moment.after, perform, hsend]
      rfl
    | ok result =>
      obtain ⟨endpoint, longer⟩ := result
      obtain ⟨hle, rfl, rfl⟩ := send?_eq_ok hsend
      have hframe : Frame.ofPayloads [message.toJson.encode]
          = Frame.ofPayload message.toJson.encode :=
        List.append_nil _
      have happended : Moment.appended ⟨engine, .send message out⟩
          = Frame.ofPayloads [message.toJson.encode] := by
        rw [Moment.appended, hframe]
        simp only [hsend, List.drop_left]
      refine ⟨[message.toJson.encode], List.forall_mem_singleton.2 hle, rfl, happended, ?_⟩
      rw [Moment.after, perform, hsend, Tally.ofSent, hframe]
      exact Counters.addSent_eq ..

/-- **What a handled unit counts**: itself, and what its frames count. -/
theorem tally_of_visit {moment : Moment} {visit : Visit} (hvisit : moment.visit? = some visit) :
    tally [moment]
      = .ofFrames visit.engine.registry visit.engine.endpoint.handlers visit.frames
        + { unitsIn := 1, bytesIn := visit.unit.length } := by
  have hvisits : visits [moment] = [visit] := List.filterMap_cons_some hvisit
  obtain ⟨-, -, hmoment, happended⟩ := Moment.of_visit?_eq_some hvisit
  obtain ⟨handled, splitter, ⟨-, hupshot, -⟩, -, heffects⟩ := visit.exists_handles
  rw [heffects, hupshot] at hmoment happended
  -- the replies are nothing but frames, so what was sent can be read off the bytes again
  have hsent : moment.sent
      = Received.replies visit.engine.endpoint.handlers visit.frames := by
    rw [Moment.sent, happended]
    exact Frame.payloads_ofPayloads fun payload => Received.length_le_of_mem_replies
  have hstored : visit.stored
      = visit.engine.registry.storedAll (visit.entries.flatMap Incoming.requests) := by
    rw [Visit.stored, Visit.requests, Visit.meeting, Incoming.requests_applied]
  simp only [tally, hvisits, List.flatMap_singleton, List.foldr_cons, List.foldr_nil, hmoment,
    hsent, happended, hstored]
  ext <;> simp [Tally.ofFrames, Tally.ofEntries, Tally.ofSent, Tally.add_def, Visit.meeting,
    Visit.entries]

/-- **What a moment counts is what its views tell.** -/
theorem Moment.counters_after (moment : Moment) :
    moment.after.endpoint.counters = moment.engine.endpoint.counters.after (tally [moment]) := by
  cases hvisit : moment.visit? with
  | some visit =>
    obtain ⟨hendpoint, hafter, -, -⟩ := Moment.of_visit?_eq_some hvisit
    obtain ⟨handled, splitter, ⟨hengine, -, -⟩, hcredit, -⟩ := visit.exists_handles
    rw [hafter, hcredit, hengine, tally_of_visit hvisit, ← Counters.after_after,
      ← Counters.credit_eq, ← hendpoint]
    rfl
  | none =>
    obtain ⟨payloads, hle, hframes, happended, hcounters⟩ := Moment.of_visit?_eq_none hvisit
    have hvisits : visits [moment] = [] := List.filterMap_cons_none hvisit
    have hsent : moment.sent = payloads := by
      rw [Moment.sent, happended, Frame.payloads_ofPayloads hle]
    have htally : tally [moment] = .ofSent payloads := by
      simp [tally, hvisits, hframes, hsent, happended, Tally.ofSent]
    rw [hcounters, htally]

/-- What is given out in a moment is a row of frames. -/
theorem Moment.appended_eq (moment : Moment) :
    moment.appended = Frame.ofPayloads moment.sent ∧
      ∀ payload ∈ moment.sent, payload.length ≤ Frame.greatestLength := by
  have hframes : ∃ payloads, (∀ payload ∈ payloads, payload.length ≤ Frame.greatestLength) ∧
      moment.appended = Frame.ofPayloads payloads := by
    cases hvisit : moment.visit? with
    | some visit =>
      obtain ⟨-, -, -, happended⟩ := Moment.of_visit?_eq_some hvisit
      obtain ⟨handled, splitter, ⟨-, hupshot, -⟩, -, heffects⟩ := visit.exists_handles
      rw [heffects, hupshot] at happended
      exact ⟨_, fun payload => Received.length_le_of_mem_replies, happended⟩
    | none =>
      obtain ⟨payloads, hle, -, happended, -⟩ := Moment.of_visit?_eq_none hvisit
      exact ⟨payloads, hle, happended⟩
  obtain ⟨payloads, hle, happended⟩ := hframes
  have hsent : moment.sent = payloads := by
    rw [Moment.sent, happended, Frame.payloads_ofPayloads hle]
  rw [hsent]
  exact ⟨happended, hle⟩

/-- A message that is sent stands behind what goes out before it. -/
theorem Moment.longer_eq {moment : Moment} {message : Outgoing} {out longer : Bytes}
    {endpoint : Endpoint} (hcall : moment.call = .send message out)
    (h : moment.engine.endpoint.send? message out = .ok (endpoint, longer)) :
    longer = out ++ moment.appended := by
  obtain ⟨-, hlonger, -⟩ := send?_eq_ok h
  have happended : moment.appended = longer.drop out.length := by
    rw [Moment.appended, hcall]
    simp only [h]
  rw [happended, hlonger, List.drop_left]

/-! ### What a row of calls counts -/

/-- The moments of a row of calls are those of its parts, one after the other. -/
theorem history_append (engine : Engine) (first second : List Call) :
    engine.history (first ++ second)
      = engine.history first ++ (engine.performAll first).history second := by
  induction first generalizing engine with
  | nil => rfl
  | cons call rest ih => exact congrArg (⟨engine, call⟩ :: ·) (ih (engine.perform call))

/-- **The accounts of a row of calls** are those of its moments. -/
theorem counters_performAll (engine : Engine) (calls : List Call) :
    (engine.performAll calls).endpoint.counters
      = engine.endpoint.counters.after (tally (engine.history calls)) := by
  induction calls generalizing engine with
  | nil => exact (Counters.after_zero _).symm
  | cons call rest ih =>
    have hstep := Moment.counters_after ⟨engine, call⟩
    rw [history, tally_cons, ← Counters.after_after, ← hstep]
    exact ih (engine.perform call)

/-- No unit registers a handler or takes one away. -/
theorem contains_receive (engine : Engine) (unit : Bytes) :
    (engine.receive unit).1.endpoint.handlers.contains = engine.endpoint.handlers.contains := by
  by_cases hopen : engine.endpoint.connection.isOpen = true
  · obtain ⟨handled, splitter, ⟨hengine, -, -⟩, hafter, -⟩ :=
      Visit.exists_handles ⟨engine, unit, hopen⟩
    rw [show (engine.receive unit).1 = _ from hafter, hengine]
    exact Received.contains_answerAll ..
  · obtain ⟨line, hdropped⟩ := receive_of_not_isOpen hopen unit
    rw [hdropped]

/-- Only registering gives a key a handler, and nothing takes one away. -/
theorem contains_perform (engine : Engine) (call : Call) (key : String) :
    (engine.perform call).endpoint.handlers.contains key
      = (engine.endpoint.handlers.contains key || call.registers key) := by
  cases call with
  | take turn =>
    rw [perform, (engine.turned_keeps turn).1]
    exact (Bool.or_false _).symm
  | register name handler =>
    show (ByName.insert _ _ _).contains key = _
    rw [ByName.contains, ByName.find?_insert, Call.registers]
    by_cases hname : key = name
    · simp [hname]
    · simp [hname, ByName.contains]
  | receive tabs unit =>
    have hreceive := congrFun ((engine.withRegistry tabs).contains_receive unit) key
    exact hreceive.trans (Bool.or_false _).symm
  | send message out =>
    cases hsend : engine.endpoint.send? message out with
    | error fault =>
      rw [perform, hsend]
      exact (Bool.or_false _).symm
    | ok result =>
      obtain ⟨endpoint, longer⟩ := result
      obtain ⟨-, -, rfl⟩ := send?_eq_ok hsend
      rw [perform, hsend]
      exact (Bool.or_false _).symm

/-- **The keys with a handler are those that one was registered for.** -/
theorem contains_performAll (engine : Engine) (calls : List Call) (key : String) :
    (engine.performAll calls).endpoint.handlers.contains key
      = (engine.endpoint.handlers.contains key || calls.any (Call.registers key)) := by
  induction calls generalizing engine with
  | nil => exact (Bool.or_false _).symm
  | cons call rest ih =>
    show ((engine.perform call).performAll rest).endpoint.handlers.contains key = _
    rw [ih, contains_perform, Bool.or_assoc, List.any_cons]

/-- **All counters tell the truth.** Take an engine with a new endpoint, and anything done with
it in any order: turns of its connection, handlers registered, units coming in for any tabs, and
messages sent. In the end its counters are, up to their 64 bits,

* the number of units that came in while the connection was open, and of their bytes;
* the number of frames, as told for each unit;
* the number of frames that are given out in replies and behind what goes out, and of their
  bytes, which are all that is given out;
* of the frames that these units complete, the number of those that are no messages, and of the
  entries of the others the number of those without the shape that their key asks for;
* the number of entries under keys without a meaning of their own that nobody was registered
  for at the moment;
* the number of entries that are sent back;
* the number of samples that are put into rings.

Every entry meets one fate. Of the two fates that are not counted, an entry meets the one if
the tabs serve the requests in it, and they serve no others, in order; and it meets the other if
the handler of its key is called with it, and no handler is called but so, none under a key with
a meaning of its own, and none hears anything else. At each moment the keys that somebody is
registered for are those that a handler was registered for before. -/
theorem accounts (name : String) (limit : Nat) (reassemble : Bool) (registry : Registry)
    (calls : List Call) :
    let start : Engine := ⟨.new name (.new limit reassemble), registry⟩
    let moments := start.history calls
    let units := visits moments
    let final := start.performAll calls
    final.endpoint.counters
      = { unitsIn := .ofNat units.length
          framesIn := .ofNat
            (moments.foldr (fun moment total => moment.upshot.frames + total) 0)
          bytesIn := .ofNat (units.flatMap Visit.unit).length
          framesOut := .ofNat (moments.flatMap Moment.sent).length
          bytesOut := .ofNat (moments.flatMap Moment.appended).length
          unusable := .ofNat
            (((units.flatMap Visit.frames).filter Received.isMalformed).length
              + (units.flatMap (·.meeting .unusable)).length)
          unclaimed := .ofNat (units.flatMap (·.meeting .unclaimed)).length
          returned := .ofNat (units.flatMap (·.meeting .returned)).length
          samplesKept := .ofNat (units.flatMap Visit.stored).length } ∧
    (∀ moment ∈ moments, moment.appended = Frame.ofPayloads moment.sent ∧
      (∀ payload ∈ moment.sent, payload.length ≤ Frame.greatestLength) ∧
      ∀ message out endpoint longer, moment.call = .send message out →
        moment.engine.endpoint.send? message out = .ok (endpoint, longer) →
          longer = out ++ moment.appended) ∧
    (∀ unit ∈ units,
      (unit.meeting .returned).length + (unit.meeting .unclaimed).length
          + (unit.meeting .unusable).length + (unit.meeting .applied).length
          + (unit.meeting .handled).length
        = unit.entries.length ∧
      unit.after.registry = unit.engine.registry.after unit.requests ∧
      unit.effects.filterMap Effect.invocation? = unit.meeting .handled ∧
      (∀ entry ∈ unit.meeting .handled, ¬Incoming.IsBuiltIn entry.1) ∧
      Heard (unit.meeting .handled) unit.engine.endpoint.handlers unit.after.endpoint.handlers) ∧
    ∀ earlier call later, calls = earlier ++ call :: later →
      let now := start.performAll earlier
      moments = start.history earlier ++ ⟨now, call⟩ :: (now.perform call).history later ∧
        ∀ key, now.endpoint.handlers.contains key = earlier.any (Call.registers key) := by
  intro start moments units final
  refine ⟨?_, fun moment _ => ?_, fun unit _ => ?_, ?_⟩
  · refine (start.counters_performAll calls).trans ?_
    show Counters.after {} (tally moments) = _
    simp only [Counters.after, UInt64.zero_add]
    rfl
  · obtain ⟨hframes, hle⟩ := moment.appended_eq
    exact ⟨hframes, hle, fun message out endpoint longer => Moment.longer_eq⟩
  · exact ⟨Incoming.length_meeting _ unit.entries, unit.keeps⟩
  · rintro earlier call later rfl now
    refine ⟨start.history_append earlier _, fun key => ?_⟩
    exact (start.contains_performAll earlier key).trans (Bool.false_or _)

/-- A connection is opened and a handler registered; then a unit comes in with a message of three
entries, of which one is the handler's, one is sent back and one has not its shape, and with bytes
that are no message; and a message is sent. -/
def busyCalls : List Call :=
  [.take (.dial "tcp://server"), .take .established,
    .register "k" ⟨fun _ call => call.response, []⟩,
    .receive bare.registry (Frame.ofPayloads
      [(Json.object [("k", .null), ("loopback", .ofNat 1), ("ui", .ofNat 3)]).encode, [120]]),
    .send (.asIs ByName.empty) [7]]

/-- The reply has a payload of fourteen bytes and the message one of two; each has a header. -/
theorem accounts_busyCalls :
    ((⟨.new "bare" .reassembling, bare.registry⟩ : Engine).performAll busyCalls).endpoint.counters
      = { unitsIn := 1, framesIn := 2, bytesIn := 39, framesOut := 2, bytesOut := 24
          unusable := 2, returned := 1 } := by
  refine (accounts "bare" Frame.defaultLimit true bare.registry busyCalls).1.trans ?_
  decide +kernel

end Engine

end StripChart
