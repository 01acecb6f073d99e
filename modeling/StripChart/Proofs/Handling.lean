import StripChart.Proofs.Delivery
import StripChart.Proofs.Fates

/-!
# What a row of frames comes to

An engine takes a row of frames apart, down to the single entries of the messages in it. This
file says what comes of that without going down again: the registry, the handlers, the counters
and all that is given out are functions of the row (`Engine.handles_takeFrames`).

A row of entries comes to four things that can be told of the row alone (`Engine.Handles`).
This holds of a single entry, fate by fate (`Engine.handles_takeEntry`), and two rows that are
handled one after the other are handled as one (`Engine.Handles.append`). A frame adds one thing
to that, the reply with the response to its message, and a row of frames is handled like its
entries in a row and their responses in a row.
-/

namespace StripChart

/-- Credit for one unit is counting it. -/
theorem Counters.credit_eq (counters : Counters) (bytes : Nat) :
    counters.credit 1 (.ofNat bytes) = counters.after { unitsIn := 1, bytesIn := bytes } := by
  simp [credit, after]

namespace Engine

/-! ### Engines that get on -/

/-- The engine with other tabs and handlers, after something has been counted. -/
def advance (engine : Engine) (registry : Registry) (handlers : ByName Handler) (tally : Tally) :
    Engine where
  registry := registry
  endpoint := { engine.endpoint with
    handlers
    counters := engine.endpoint.counters.after tally }

@[simp] theorem advance_advance (engine : Engine) (registry registry' : Registry)
    (handlers handlers' : ByName Handler) (tally tally' : Tally) :
    (engine.advance registry handlers tally).advance registry' handlers' tally'
      = engine.advance registry' handlers' (tally + tally') := by
  simp only [advance, Counters.after_after]

/-- The engine after its tabs have served requests. -/
def serving (engine : Engine) (requests : List Registry.Request) : Engine :=
  engine.advance (engine.registry.after requests) engine.endpoint.handlers
    { samplesKept := (engine.registry.storedAll requests).length }

theorem serving_append (engine : Engine) (first second : List Registry.Request) :
    (engine.serving first).serving second = engine.serving (first ++ second) := by
  rw [serving, serving, serving, advance_advance, Registry.after_append,
    Registry.storedAll_append, List.length_append]
  rfl

theorem serving_nil (engine : Engine) : engine.serving [] = engine := by
  simp [serving, advance, Registry.storedAll]

theorem count_eq (engine : Engine) (f : Counters → Counters) {tally : Tally}
    (h : ∀ counters, f counters = counters.after tally) :
    engine.count f = engine.advance engine.registry engine.endpoint.handlers tally := by
  rw [count, Endpoint.count, h]
  rfl

/-- The points of a channel are samples for one ring, and are counted if there is the ring. -/
theorem recordPoints_eq (tab : String) (engine : Engine) (points : String × List WirePoint) :
    recordPoints tab engine points
      = engine.serving [.record tab points.1 (WirePoint.samples points.2)] := by
  have hrecorded := engine.registry.snd_record tab points.1 (WirePoint.samples points.2)
  have hstored : engine.registry.storedAll [.record tab points.1 (WirePoint.samples points.2)]
      = if (engine.registry.ring? tab points.1).isSome then WirePoint.samples points.2 else [] :=
    List.append_nil _
  rw [serving, hstored]
  simp only [recordPoints, hrecorded]
  split
  · rw [count_eq _ _ fun counters => counters.addSamples_eq _]
    rfl
  · rw [advance, List.length_nil, Counters.after_zero]
    rfl

theorem applyNews_eq (engine : Engine) (item : String × TabNews) :
    engine.applyNews item
      = (engine.serving (item.2.points.entries.map fun points =>
            .record item.1 points.1 (WirePoint.samples points.2)),
          logEffects item.1 item.2.logged) := by
  rw [applyNews]
  refine Prod.ext ?_ rfl
  show item.2.points.entries.foldl (recordPoints item.1) engine = _
  induction item.2.points.entries generalizing engine with
  | nil => exact engine.serving_nil.symm
  | cons points rest ih =>
    rw [List.foldl_cons, recordPoints_eq, ih, serving_append]
    rfl

/-- News for tabs are requests to them, and the log lines that come with it. -/
theorem applyAllNews_eq (engine : Engine) (news : ByName TabNews) :
    engine.applyAllNews news
      = (engine.serving (Incoming.newsRequests news),
          news.entries.flatMap fun item => logEffects item.1 item.2.logged) := by
  rw [applyAllNews, Incoming.newsRequests]
  induction news.entries generalizing engine with
  | nil => exact Prod.ext engine.serving_nil.symm rfl
  | cons item rest ih =>
    rw [Machine.run_cons, applyNews_eq, ih, serving_append]
    rfl

/-- A change is a request, too, and all that is given out for it is told. -/
theorem fulfil_eq (engine : Engine) (request : PlotRequest) :
    engine.fulfil request
      = (engine.serving [.fulfil request], (engine.registry.fulfil request).2.map .log) := by
  refine Prod.ext ?_ rfl
  rw [serving, advance, show engine.registry.storedAll [.fulfil request] = [] from rfl,
    List.length_nil, Counters.after_zero]
  rfl

/-! ### What is only told -/

/-- Log lines are neither sent nor handed to anybody. -/
theorem ofEffects_told {α : Type} (line : α → LogLine) (items : List α) :
    Upshot.ofEffects (items.map fun item => .log (line item)) = ⟨[], [], 0⟩ ∧
      (items.map fun item => .log (line item)).filterMap Effect.invocation? = [] := by
  induction items with
  | nil => exact ⟨rfl, rfl⟩
  | cons item rest ih => exact ih

/-- Of the log lines that a tab is sent, nothing is given out but these. -/
theorem ofEffects_logEffects (tab : String) (lines : List String) :
    Upshot.ofEffects (logEffects tab lines)
        = ⟨[], if lines.isEmpty then [] else [⟨tab, lines⟩], 0⟩ ∧
      (logEffects tab lines).filterMap Effect.invocation? = [] := by
  rw [logEffects]
  split
  · exact ⟨rfl, rfl⟩
  · obtain ⟨hupshot, hinvocations⟩ :=
      ofEffects_told (fun line => ⟨.info, s!"({tab}) {line}"⟩) lines
    constructor
    · rw [Upshot.ofEffects_append, hupshot]
      rfl
    · rw [List.filterMap_append, hinvocations]
      rfl

/-- The log lines that come with news are all that is given out for it. -/
theorem ofEffects_news (news : ByName TabNews) :
    Upshot.ofEffects (news.entries.flatMap fun item => logEffects item.1 item.2.logged)
        = ⟨[], Incoming.newsLines news, 0⟩ ∧
      (news.entries.flatMap fun item => logEffects item.1 item.2.logged).filterMap
        Effect.invocation? = [] := by
  rw [Incoming.newsLines]
  induction news.entries with
  | nil => exact ⟨rfl, rfl⟩
  | cons item rest ih =>
    obtain ⟨hupshot, hinvocations⟩ := ofEffects_logEffects item.1 item.2.logged
    constructor
    · rw [List.flatMap_cons, Upshot.ofEffects_append, hupshot, ih.1, List.flatMap_cons]
      rfl
    · rw [List.flatMap_cons, List.filterMap_append, hinvocations, ih.2]
      rfl

/-! ### Entries -/

/-- **What a row of entries comes to**, for an engine and the response to a message so far. -/
structure Handles (engine : Engine) (response : Message) (entries : List (String × Json))
    (result : (Engine × Message) × List Effect) : Prop where
  /-- The tabs have served the requests in the entries, the handlers have answered, and the
  fates of the entries have been counted. -/
  engine_eq : result.1.1
    = engine.advance (engine.registry.after (entries.flatMap Incoming.requests))
        (Message.answerEntries (engine.endpoint.handlers, response) entries).1
        (.ofEntries engine.registry engine.endpoint.handlers.contains entries)
  /-- The response is what the entries have made of it. -/
  response_eq : result.1.2
    = (Message.answerEntries (engine.endpoint.handlers, response) entries).2
  /-- Nothing has been sent back yet, and the tabs are sent the log lines in the entries. -/
  upshot_eq : Upshot.ofEffects result.2 = ⟨[], entries.flatMap Incoming.tabLines, 0⟩
  /-- Handlers have been called with the entries that were theirs. -/
  invocations_eq : result.2.filterMap Effect.invocation?
    = Incoming.meeting engine.endpoint.handlers.contains .handled entries

variable {engine : Engine} {response : Message}

/-- **Rows that are handled one after the other are handled as one.** -/
theorem Handles.append {first second : List (String × Json)}
    {one other : (Engine × Message) × List Effect} (hone : engine.Handles response first one)
    (hother : one.1.1.Handles one.1.2 second other) :
    engine.Handles response (first ++ second) (other.1, one.2 ++ other.2) := by
  obtain ⟨⟨between, answered⟩, effects⟩ := one
  obtain ⟨hengine, hresponse, hupshot, hinvocations⟩ := hone
  obtain ⟨hengine', hresponse', hupshot', hinvocations'⟩ := hother
  dsimp only at hengine hresponse hupshot hinvocations hengine' hresponse' hupshot' hinvocations'
  -- the first row leaves the keys as they are that have a handler
  have hregistered : between.endpoint.handlers.contains = engine.endpoint.handlers.contains := by
    rw [hengine]
    exact Message.contains_answerEntries (engine.endpoint.handlers, response) first
  have hanswers : Message.answerEntries (engine.endpoint.handlers, response) (first ++ second)
      = Message.answerEntries (between.endpoint.handlers, answered) second := by
    rw [Message.answerEntries_append, hengine, hresponse]
    rfl
  refine ⟨?_, ?_, ?_, ?_⟩
  · rw [hanswers, Tally.ofEntries_append, List.flatMap_append, Registry.after_append,
      hengine', hregistered, hengine, advance_advance]
    rfl
  · rw [hanswers, hresponse']
  · rw [Upshot.ofEffects_append, hupshot, hupshot', List.flatMap_append]
    rfl
  · rw [List.filterMap_append, hinvocations, hinvocations', Incoming.meeting_append, hregistered]

section Entry

variable {entry : String × Json}

/-- An entry with nothing for the tabs: it may be answered, and its fate is counted. -/
theorem handles_of_ne_applied {which : Incoming.Fate}
    (hfate : Incoming.fate engine.endpoint.handlers.contains entry = which)
    (hne : which ≠ .applied) {answered : ByName Handler × Message}
    (hanswer : (Message.answerEntry (engine.endpoint.handlers, response) entry).1 = answered)
    {effects : List Effect} (hupshot : Upshot.ofEffects effects = ⟨[], [], 0⟩)
    (hinvocations : effects.filterMap Effect.invocation?
      = if which = .handled then [entry] else []) :
    engine.Handles response [entry]
      ((engine.advance engine.registry answered.1
          { unusable := if which = .unusable then 1 else 0
            unclaimed := if which = .unclaimed then 1 else 0
            returned := if which = .returned then 1 else 0 }, answered.2), effects) := by
  subst hfate hanswer
  obtain ⟨hrequests, htabLines⟩ := Incoming.nothing_of_ne_applied hne
  refine ⟨?_, rfl, ?_, ?_⟩
  · simp only [Tally.ofEntries, Incoming.meeting_singleton, List.flatMap_singleton, hrequests,
      apply_ite List.length, List.length_singleton, List.length_nil, Registry.storedAll,
      Registry.after_nil]
    rfl
  · rw [List.flatMap_singleton, htabLines, hupshot]
  · rw [Incoming.meeting_singleton, hinvocations]

/-- An entry that is applied: the tabs serve the requests in it, and nothing else is done. -/
theorem handles_of_applied
    (hfate : Incoming.fate engine.endpoint.handlers.contains entry = .applied)
    (hecho : entry.1 ∉ Incoming.echoKeys) (hbuiltIn : Incoming.IsBuiltIn entry.1)
    {effects : List Effect}
    (hupshot : Upshot.ofEffects effects = ⟨[], Incoming.tabLines entry, 0⟩)
    (hinvocations : effects.filterMap Effect.invocation? = []) :
    engine.Handles response [entry]
      ((engine.serving (Incoming.requests entry), response), effects) := by
  have hanswer : Message.answerEntries (engine.endpoint.handlers, response) [entry]
      = (engine.endpoint.handlers, response) := by
    show (Message.answerEntry _ entry).1 = _
    rw [Message.answerEntry, if_neg hecho, if_pos hbuiltIn]
  refine ⟨?_, ?_, ?_, ?_⟩
  · rw [hanswer, List.flatMap_singleton, Tally.ofEntries]
    simp only [Incoming.meeting_singleton, hfate, List.flatMap_singleton]
    rfl
  · rw [hanswer]
  · rw [List.flatMap_singleton, hupshot]
  · rw [Incoming.meeting_singleton, hfate, hinvocations]
    rfl

end Entry

/-- **What a single entry comes to**, fate by fate. -/
theorem handles_takeEntry (engine : Engine) (response : Message) (entry : String × Json) :
    engine.Handles response [entry] (takeEntry (engine, response) entry) := by
  rcases Incoming.read?_cases entry with ⟨hecho, hread⟩ | ⟨hecho, hbuiltIn, hshape, hread⟩ |
    ⟨hecho, hbuiltIn, hshape, ⟨news, hread⟩ | ⟨request, hread⟩⟩ | ⟨hcustom, hread⟩
  · -- the entry is put into the response
    have hfate : Incoming.fate engine.endpoint.handlers.contains entry = .returned := if_pos hecho
    have hanswer : (Message.answerEntry (engine.endpoint.handlers, response) entry).1
        = (engine.endpoint.handlers, response.insert entry.1 entry.2) := by
      rw [Message.answerEntry, if_pos hecho]
    simp only [takeEntry, hread, count_eq _ _ Counters.addReturned_eq]
    exact handles_of_ne_applied hfate (by decide) hanswer rfl rfl
  · -- the entry is reported
    have hfate : Incoming.fate engine.endpoint.handlers.contains entry = .unusable := by
      rw [Incoming.fate, if_neg hecho, if_pos hbuiltIn, hshape]
      rfl
    have hanswer : (Message.answerEntry (engine.endpoint.handlers, response) entry).1
        = (engine.endpoint.handlers, response) := by
      rw [Message.answerEntry, if_neg hecho, if_pos hbuiltIn]
    simp only [takeEntry, hread, count_eq _ _ Counters.addUnusable_eq]
    exact handles_of_ne_applied hfate (by decide) hanswer rfl rfl
  · -- news for tabs
    have hfate : Incoming.fate engine.endpoint.handlers.contains entry = .applied := by
      rw [Incoming.fate, if_neg hecho, if_pos hbuiltIn, hshape]
      rfl
    have hrequests : Incoming.requests entry = Incoming.newsRequests news := by
      rw [Incoming.requests, hread]
    have htabLines : Incoming.tabLines entry = Incoming.newsLines news := by
      rw [Incoming.tabLines, hread]
    obtain ⟨hupshot, hinvocations⟩ := ofEffects_news news
    simp only [takeEntry, hread, applyAllNews_eq, ← hrequests]
    exact handles_of_applied hfate hecho hbuiltIn (htabLines ▸ hupshot) hinvocations
  · -- a change to a tab
    have hfate : Incoming.fate engine.endpoint.handlers.contains entry = .applied := by
      rw [Incoming.fate, if_neg hecho, if_pos hbuiltIn, hshape]
      rfl
    have hrequests : Incoming.requests entry = [.fulfil request] := by
      rw [Incoming.requests, hread]
    have htabLines : Incoming.tabLines entry = [] := by
      rw [Incoming.tabLines, hread]
    obtain ⟨hupshot, hinvocations⟩ := ofEffects_told id (engine.registry.fulfil request).2
    simp only [takeEntry, hread, fulfil_eq, ← hrequests]
    exact handles_of_applied hfate hecho hbuiltIn (htabLines ▸ hupshot) hinvocations
  · -- whoever has asked for the key
    have hecho : entry.1 ∉ Incoming.echoKeys := fun h => hcustom (Or.inl h)
    simp only [takeEntry, hread, handOver]
    cases hfind : engine.endpoint.handlers.find? entry.1 with
    | some handler =>
      have hfate : Incoming.fate engine.endpoint.handlers.contains entry = .handled := by
        rw [Incoming.fate, if_neg hecho, if_neg hcustom, ByName.contains, hfind]
        rfl
      have hanswer : (Message.answerEntry (engine.endpoint.handlers, response) entry).1
          = (engine.endpoint.handlers.insert entry.1 (handler.call entry.2 response).1,
              (handler.call entry.2 response).2) := by
        rw [Message.answerEntry, if_neg hecho, if_neg hcustom]
        simp only [hfind]
      have hengine : engine.withHandler entry.1 (handler.call entry.2 response).1
          = engine.advance engine.registry
              (engine.endpoint.handlers.insert entry.1 (handler.call entry.2 response).1) {} := by
        rw [advance, Counters.after_zero]
        rfl
      show engine.Handles response [entry]
        ((engine.withHandler entry.1 (handler.call entry.2 response).1,
          (handler.call entry.2 response).2), [.handled entry.1 entry.2])
      rw [hengine]
      exact handles_of_ne_applied hfate (by decide) hanswer rfl rfl
    | none =>
      have hfate : Incoming.fate engine.endpoint.handlers.contains entry = .unclaimed := by
        rw [Incoming.fate, if_neg hecho, if_neg hcustom, ByName.contains, hfind]
        rfl
      have hanswer : (Message.answerEntry (engine.endpoint.handlers, response) entry).1
          = (engine.endpoint.handlers, response) := by
        rw [Message.answerEntry, if_neg hecho, if_neg hcustom]
        simp only [hfind]
      simp only [count_eq _ _ Counters.addUnclaimed_eq]
      exact handles_of_ne_applied hfate (by decide) hanswer rfl rfl

/-- **What a row of entries comes to.** -/
theorem handles_takeEntries (engine : Engine) (response : Message)
    (entries : List (String × Json)) :
    engine.Handles response entries (Machine.run takeEntry (engine, response) entries) := by
  induction entries generalizing engine response with
  | nil =>
    refine ⟨?_, rfl, rfl, rfl⟩
    show engine = engine.advance engine.registry engine.endpoint.handlers {}
    rw [advance, Counters.after_zero]
  | cons entry rest ih => exact (engine.handles_takeEntry response entry).append (ih _ _)

/-! ### Frames -/

/-- **What a row of frames comes to**, for an engine. -/
structure HandlesFrames (engine : Engine) (frames : List Received)
    (result : Engine × List Effect) : Prop where
  /-- The tabs have served the requests in the frames, the handlers have answered, and all of it
  has been counted. -/
  engine_eq : result.1
    = engine.advance
        (engine.registry.after ((frames.flatMap Received.entries).flatMap Incoming.requests))
        (Received.answerAll engine.endpoint.handlers frames).1
        (.ofFrames engine.registry engine.endpoint.handlers frames)
  /-- The replies are sent, the tabs are sent their log lines, and all frames are told of. -/
  upshot_eq : Upshot.ofEffects result.2
    = ⟨Frame.ofPayloads (Received.replies engine.endpoint.handlers frames),
        (frames.flatMap Received.entries).flatMap Incoming.tabLines, frames.length⟩
  /-- Handlers have been called with the entries that were theirs. -/
  invocations_eq : result.2.filterMap Effect.invocation?
    = Incoming.meeting engine.endpoint.handlers.contains .handled
        (frames.flatMap Received.entries)

/-- **Rows of frames that are handled one after the other are handled as one.** -/
theorem HandlesFrames.append {first second : List Received} {one other : Engine × List Effect}
    (hone : engine.HandlesFrames first one) (hother : one.1.HandlesFrames second other) :
    engine.HandlesFrames (first ++ second) (other.1, one.2 ++ other.2) := by
  obtain ⟨between, effects⟩ := one
  obtain ⟨hengine, hupshot, hinvocations⟩ := hone
  obtain ⟨hengine', hupshot', hinvocations'⟩ := hother
  dsimp only at hengine hupshot hinvocations hengine' hupshot' hinvocations'
  have hregistered : between.endpoint.handlers.contains = engine.endpoint.handlers.contains := by
    rw [hengine]
    exact Received.contains_answerAll engine.endpoint.handlers first
  have hhandlers : between.endpoint.handlers
      = (Received.answerAll engine.endpoint.handlers first).1 := by
    rw [hengine]
    rfl
  refine ⟨?_, ?_, ?_⟩
  · rw [Received.answerAll_append, Tally.ofFrames_append, List.flatMap_append,
      List.flatMap_append, Registry.after_append, hengine', hhandlers, hengine, advance_advance]
    rfl
  · rw [Upshot.ofEffects_append, hupshot, hupshot', hhandlers, Received.replies_append,
      Frame.ofPayloads_append, List.flatMap_append, List.flatMap_append, List.length_append]
  · rw [List.filterMap_append, hinvocations, hinvocations', hregistered, List.flatMap_append,
      Incoming.meeting_append]

/-- **A reply** is one frame with the response, if it can be sent at all. -/
theorem reply_eq (engine : Engine) (response : Message) :
    (engine.reply response).1
        = engine.advance engine.registry engine.endpoint.handlers
            (.ofSent response.replyPayload?.toList) ∧
      Upshot.ofEffects (engine.reply response).2
        = ⟨Frame.ofPayloads response.replyPayload?.toList, [], 0⟩ ∧
      (engine.reply response).2.filterMap Effect.invocation? = [] := by
  have hnothing : engine.advance engine.registry engine.endpoint.handlers (.ofSent [])
      = engine := by
    show engine.advance _ _ {} = _
    rw [advance, Counters.after_zero]
  by_cases hempty : response.entries.isEmpty = true
  · rw [reply, if_pos hempty, Message.replyPayload?, if_pos hempty]
    exact ⟨hnothing.symm, rfl, rfl⟩
  by_cases hfits : (Json.ofTable response).encode.length ≤ Frame.greatestLength
  · have hencode : Frame.encode? (.ofTable response)
        = .ok (Frame.ofPayload (Json.ofTable response).encode) := by
      rw [Frame.encode?, Frame.append?, if_pos hfits, List.nil_append]
    have hpayload : response.replyPayload? = some (Json.ofTable response).encode := by
      rw [Message.replyPayload?, if_neg hempty, if_pos hfits]
    have hframes : Frame.ofPayloads [(Json.ofTable response).encode]
        = Frame.ofPayload (Json.ofTable response).encode :=
      List.append_nil _
    rw [reply, if_neg hempty, hencode, hpayload, Option.toList_some, Tally.ofSent, hframes]
    refine ⟨engine.count_eq _ fun counters => counters.addSent_eq _, ?_, rfl⟩
    exact congrArg (Upshot.mk · [] 0) (List.append_nil _)
  · -- the response is too long, and it is only told that it could not be sent
    have hencode : Frame.encode? (.ofTable response)
        = .error (.tooLarge (Json.ofTable response).encode.length Frame.greatestLength) := by
      rw [Frame.encode?, Frame.append?, if_neg hfits]
    have hpayload : response.replyPayload? = none := by
      rw [Message.replyPayload?, if_neg hempty, if_neg hfits]
    rw [reply, if_neg hempty, hencode, hpayload]
    exact ⟨hnothing.symm, rfl, rfl⟩

/-- **What a message comes to**: what its entries come to, and the reply with the response that
they have made. -/
theorem takeApart_reply_eq (engine : Engine) (said : Message) :
    let taken := engine.takeApart said
    let replied := taken.1.1.reply taken.1.2
    let answered := Message.answerEntries (engine.endpoint.handlers, ByName.empty) said.entries
    replied.1
        = engine.advance (engine.registry.after (said.entries.flatMap Incoming.requests)) answered.1
            (.ofEntries engine.registry engine.endpoint.handlers.contains said.entries
              + .ofSent answered.2.replyPayload?.toList) ∧
      Upshot.ofEffects (taken.2 ++ replied.2)
        = ⟨Frame.ofPayloads answered.2.replyPayload?.toList,
            said.entries.flatMap Incoming.tabLines, 0⟩ ∧
      (taken.2 ++ replied.2).filterMap Effect.invocation?
        = Incoming.meeting engine.endpoint.handlers.contains .handled said.entries := by
  intro taken replied answered
  obtain ⟨hengine, hresponse, hupshot, hinvocations⟩ :=
    engine.handles_takeEntries ByName.empty said.entries
  obtain ⟨hreply, hupshot', hinvocations'⟩ := taken.1.1.reply_eq taken.1.2
  have hanswered : taken.1.2 = answered.2 := hresponse
  have htaken : taken.1.1
      = engine.advance (engine.registry.after (said.entries.flatMap Incoming.requests)) answered.1
          (.ofEntries engine.registry engine.endpoint.handlers.contains said.entries) := hengine
  refine ⟨?_, ?_, ?_⟩
  · rw [show replied.1 = _ from hreply, htaken, hanswered, advance_advance]
    rfl
  · rw [Upshot.ofEffects_append, show Upshot.ofEffects taken.2 = _ from hupshot,
      show Upshot.ofEffects replied.2 = _ from hupshot', hanswered, List.append_nil]
    rfl
  · rw [List.filterMap_append, show replied.2.filterMap _ = _ from hinvocations', List.append_nil]
    exact hinvocations

/-- A message by itself is answered like a row of one. -/
theorem answerAll_message (handlers : ByName Handler) (said : Message) :
    Received.answerAll handlers [.message said]
      = ((Message.answerEntries (handlers, ByName.empty) said.entries).1,
          [(Message.answerEntries (handlers, ByName.empty) said.entries).2]) :=
  rfl

theorem replies_message (handlers : ByName Handler) (said : Message) :
    Received.replies handlers [.message said]
      = (Message.answerEntries (handlers, ByName.empty) said.entries).2.replyPayload?.toList := by
  rw [Received.replies, answerAll_message, List.filterMap_cons]
  cases (Message.answerEntries (handlers, ByName.empty) said.entries).2.replyPayload? <;> rfl

/-- A frame that is told of adds one to the number of frames. -/
theorem ofEffects_frame_cons (effects : List Effect) :
    Upshot.ofEffects (.frame :: effects)
      = { Upshot.ofEffects effects with frames := (Upshot.ofEffects effects).frames + 1 } := by
  refine (Upshot.ofEffects_append [.frame] effects).trans ?_
  exact congrArg (Upshot.mk _ _) (Nat.add_comm ..)

/-- **What a single frame comes to.** -/
theorem handles_takeFrame (engine : Engine) (received : Received) :
    engine.HandlesFrames [received] (engine.takeFrame received) := by
  have hcounted := engine.count_eq _ Counters.addFrame_eq
  cases received with
  | malformed fault =>
    refine ⟨?_, rfl, rfl⟩
    rw [takeFrame, hcounted, count_eq _ _ Counters.addUnusable_eq, advance_advance]
    rfl
  | message said =>
    obtain ⟨hengine, hupshot, hinvocations⟩ := (engine.count (·.addFrame)).takeApart_reply_eq said
    have hentries : [Received.message said].flatMap Received.entries = said.entries :=
      List.append_nil _
    refine ⟨?_, ?_, ?_⟩
    · rw [hentries, answerAll_message, Tally.ofFrames, hentries, replies_message]
      refine hengine.trans ?_
      rw [hcounted, advance_advance, ← Tally.add_assoc]
      rfl
    · have heffects : (engine.takeFrame (.message said)).2
          = .frame :: (((engine.count (·.addFrame)).takeApart said).2
              ++ (((engine.count (·.addFrame)).takeApart said).1.1.reply
                ((engine.count (·.addFrame)).takeApart said).1.2).2) :=
        rfl
      rw [hentries, replies_message, heffects, ofEffects_frame_cons, hupshot]
      rfl
    · rw [hentries]
      exact hinvocations

/-- **What a row of frames comes to.** -/
theorem handles_takeFrames (engine : Engine) (frames : List Received) :
    engine.HandlesFrames frames (Machine.run takeFrame engine frames) := by
  induction frames generalizing engine with
  | nil =>
    refine ⟨?_, rfl, rfl⟩
    show engine = engine.advance engine.registry engine.endpoint.handlers {}
    rw [advance, Counters.after_zero]
  | cons received rest ih => exact (engine.handles_takeFrame received).append (ih _)

end Engine

end StripChart
