import StripChart.Proofs.Handling
import StripChart.Proofs.RoundTrip

/-!
# What is sent back

A unit is answered message by message, and all that is sent back for it are the responses to its
messages in their order, one frame each, save those in which there is nothing
(`Engine.receive_replies`). Whoever receives the bytes has the responses again.

What is in a response is told key by key. Under the keys that are sent back
(`Incoming.echoKeys`) stands what the message has under them, as long as no handler meddles with
these keys (`Message.find?_answerEntries_of_mem`); under any other key stands what the last
handler has left there (`Message.find?_answerEntries_of_not_mem`). The two facts need each other
nowhere: entries that are sent back touch no other key, and whatever a handler does to the
response, the entries that come after it are put in all the same.
-/

namespace StripChart

/-! ### Handlers that keep away from what is sent back -/

/-- **The handler leaves the keys alone whose values are sent back**: it gives them no value and
takes none away, whatever it has been called with. -/
def Handler.LeavesEchoes (handler : Handler) : Prop :=
  ∀ calls call, ∀ key ∈ Incoming.echoKeys,
    (handler.respond calls call).find? key = call.response.find? key

/-- All handlers leave these keys alone. -/
def LeaveEchoes (handlers : ByName Handler) : Prop :=
  ∀ name handler, handlers.find? name = some handler → handler.LeavesEchoes

theorem leaveEchoes_empty : LeaveEchoes ByName.empty := by
  intro name handler h
  cases h

namespace Message

/-- The part of a message that is sent back. -/
def echoes (said : Message) : Message :=
  said.filter fun entry => decide (entry.1 ∈ Incoming.echoKeys)

/-- Whether there is anything in the message that is sent back. -/
def hasEcho (said : Message) : Bool :=
  Incoming.echoKeys.any said.contains

theorem find?_echoes (said : Message) (key : String) :
    said.echoes.find? key = if key ∈ Incoming.echoKeys then said.find? key else none := by
  rw [echoes, ByName.find?_filter fun name => decide (name ∈ Incoming.echoKeys)]
  exact if_congr (decide_eq_true_iff ..) rfl rfl

/-- Something is in a response that has under these keys what a message has that has one. -/
theorem isEmpty_of_hasEcho {said response : Message}
    (h : ∀ key ∈ Incoming.echoKeys, response.find? key = said.find? key)
    (hecho : said.hasEcho = true) : response.entries.isEmpty = false := by
  obtain ⟨key, hkey, hcontains⟩ := List.any_eq_true.1 hecho
  obtain ⟨value, hfind⟩ := Option.isSome_iff_exists.1 hcontains
  rw [← h key hkey, ByName.find?_eq_some_iff] at hfind
  exact List.isEmpty_eq_false_iff_exists_mem.2 ⟨_, hfind⟩

/-- Something is in the part that is sent back just if the message has one of the keys. -/
theorem isEmpty_echoes (said : Message) : (!said.echoes.entries.isEmpty) = said.hasEcho := by
  rw [Bool.eq_iff_iff, Bool.not_eq_true']
  constructor
  · intro h
    obtain ⟨⟨key, value⟩, hmem⟩ := List.isEmpty_eq_false_iff_exists_mem.1 h
    have hfind : said.echoes.find? key = some value := ByName.find?_eq_some_iff.2 hmem
    rw [find?_echoes] at hfind
    split at hfind
    · rename_i hkey
      have hcontains : said.contains key = true := by
        rw [ByName.contains, hfind]
        rfl
      exact List.any_eq_true.2 ⟨key, hkey, hcontains⟩
    · cases hfind
  · intro h
    refine isEmpty_of_hasEcho (fun key hkey => ?_) h
    rw [find?_echoes, if_pos hkey]

/-! ### Responses, key by key -/

variable {state : ByName Handler × Message} {key : String}

/-- Handlers that leave the keys alone go on doing so. -/
theorem leaveEchoes_answerEntry (h : LeaveEchoes state.1) (entry : String × Json) :
    LeaveEchoes (answerEntry state entry).1.1 := by
  rcases answerEntry_cases state entry with ⟨-, hcase⟩ | ⟨-, -, hcase⟩ | ⟨-, handler, hfind, hcase⟩
  · rw [hcase]
    exact h
  · rw [hcase]
    exact h
  · rw [hcase]
    intro name other hother
    rw [ByName.find?_insert] at hother
    split at hother
    · obtain rfl := Option.some.inj hother
      exact h entry.1 handler hfind
    · exact h name other hother

/-- Under a key that is sent back there is what the entry has put there, and nothing else is
done to it. -/
theorem find?_answerEntry_of_mem (h : LeaveEchoes state.1) (hkey : key ∈ Incoming.echoKeys)
    (entry : String × Json) :
    (answerEntry state entry).1.2.find? key
      = if key = entry.1 then some entry.2 else state.2.find? key := by
  rcases answerEntry_cases state entry with ⟨-, hcase⟩ | ⟨hecho, -, hcase⟩ |
    ⟨hcustom, handler, hfind, hcase⟩
  · rw [hcase, ByName.find?_insert]
  · rw [hcase, if_neg]
    rintro rfl
    exact hecho hkey
  · rw [hcase, if_neg]
    · exact h entry.1 handler hfind handler.calls ⟨entry.2, state.2⟩ key hkey
    · rintro rfl
      exact hcustom (Or.inl hkey)

/-- **Under a key that is sent back** there is in the end what the entries have under it. -/
theorem find?_answerEntries_of_mem {entries : List (String × Json)}
    (hsorted : Entries.Sorted entries) (h : LeaveEchoes state.1)
    (hkey : key ∈ Incoming.echoKeys) :
    (answerEntries state entries).2.find? key
      = (Entries.find? key entries).or (state.2.find? key) := by
  induction entries generalizing state with
  | nil => rfl
  | cons entry rest ih =>
    obtain ⟨hlt, hrest⟩ := List.pairwise_cons.1 hsorted
    rw [answerEntries_cons, ih hrest (leaveEchoes_answerEntry h entry),
      find?_answerEntry_of_mem h hkey, Entries.find?]
    by_cases hname : key = entry.1
    · -- the names ascend, so no later entry has this one
      rw [hname, Entries.find?_eq_none_of_forall_lt hlt, if_pos rfl, if_pos rfl]
      rfl
    · rw [if_neg hname, if_neg hname]

/-- Under any other key nothing changes unless a handler is called, and then there is what it
has left. -/
theorem find?_answerEntry_of_not_mem (hkey : key ∉ Incoming.echoKeys) (entry : String × Json) :
    (answerEntry state entry).1.2.find? key
      = ((answerEntry state entry).2.getLast?.getD state.2).find? key := by
  rcases answerEntry_cases state entry with ⟨hecho, hcase⟩ | ⟨-, -, hcase⟩ |
    ⟨-, handler, -, hcase⟩
  · have hname : key ≠ entry.1 := by
      rintro rfl
      exact hkey hecho
    rw [hcase]
    exact ByName.find?_insert_of_ne _ hname _
  · rw [hcase]
    rfl
  · rw [hcase]
    rfl

/-- **Under any other key** there is in the end what the last handler has left. -/
theorem find?_answerEntries_of_not_mem (hkey : key ∉ Incoming.echoKeys)
    (entries : List (String × Json)) :
    (answerEntries state entries).2.find? key
      = ((Machine.run answerEntry state entries).2.getLast?.getD state.2).find? key := by
  induction entries generalizing state with
  | nil => rfl
  | cons entry rest ih =>
    rw [answerEntries_cons, ih, Machine.run_cons, List.getLast?_append]
    cases (Machine.run answerEntry (answerEntry state entry).1 rest).2.getLast? with
    | none => exact find?_answerEntry_of_not_mem hkey entry
    | some left => rfl

/-- Where there are no handlers, none is called, and none is there afterwards. -/
theorem run_answerEntry_empty (response : Message) (entries : List (String × Json)) :
    (Machine.run answerEntry (ByName.empty, response) entries).1.1 = ByName.empty ∧
      (Machine.run answerEntry (ByName.empty, response) entries).2 = [] := by
  induction entries generalizing response with
  | nil => exact ⟨rfl, rfl⟩
  | cons entry rest ih =>
    rw [Machine.run_cons]
    rcases answerEntry_cases (ByName.empty, response) entry with
      ⟨-, hcase⟩ | ⟨-, -, hcase⟩ | ⟨-, handler, hfind, -⟩
    · rw [hcase]
      exact ih _
    · rw [hcase]
      exact ih _
    · cases hfind

/-- **Without handlers the response is the part of the message that is sent back.** -/
theorem answerEntries_empty (said : Message) :
    answerEntries (ByName.empty, ByName.empty) said.entries = (ByName.empty, said.echoes) := by
  obtain ⟨hhandlers, hleft⟩ := run_answerEntry_empty ByName.empty said.entries
  refine Prod.ext hhandlers (ByName.ext_find? fun key => ?_)
  rw [find?_echoes]
  split
  · rename_i hkey
    rw [find?_answerEntries_of_mem said.sorted leaveEchoes_empty hkey]
    exact Option.or_none
  · rename_i hkey
    rw [find?_answerEntries_of_not_mem hkey, hleft]
    rfl

/-- The responses that are sent back: those in which there is something. -/
def filled (responses : List Message) : List Message :=
  responses.filter fun response => !response.entries.isEmpty

/-- If no response is too long, there is one payload for each that is sent back. -/
theorem filterMap_replyPayload? {responses : List Message}
    (h : ∀ response ∈ responses, (Json.ofTable response).encode.length ≤ Frame.greatestLength) :
    responses.filterMap replyPayload? = ((filled responses).map Json.ofTable).map Json.encode := by
  induction responses with
  | nil => rfl
  | cons response rest ih =>
    have hrest := ih fun other hmem => h other (List.mem_cons_of_mem _ hmem)
    cases hempty : response.entries.isEmpty with
    | true =>
      have hnone : response.replyPayload? = none := by rw [replyPayload?, if_pos hempty]
      rw [List.filterMap_cons_none hnone, hrest, filled, filled,
        List.filter_cons_of_neg (by rw [hempty]; exact Bool.false_ne_true)]
    | false =>
      have hsome : response.replyPayload? = some (Json.ofTable response).encode := by
        rw [replyPayload?, if_neg (ne_true_of_eq_false hempty), if_pos (h _ List.mem_cons_self)]
      rw [List.filterMap_cons_some hsome, hrest, filled, filled,
        List.filter_cons_of_pos (by rw [hempty]; rfl), List.map_cons, List.map_cons]

/-- A row of messages that is written as frames is received as it was written. -/
theorem receive_frames {limit : Nat} {responses : List Message}
    (hfits : ∀ response ∈ responses, Frame.Fits limit (Json.ofTable response).encode)
    (hreads : ∀ response ∈ responses, (Json.ofTable response).ReadsBack) (reassemble : Bool) :
    (Splitter.new limit reassemble).receive
        (Frame.ofPayloads ((responses.map Json.ofTable).map Json.encode))
      = (.ok (responses.map .message), Splitter.new limit reassemble) := by
  have hpayloads : ∀ payload ∈ (responses.map Json.ofTable).map Json.encode,
      Frame.Fits limit payload := by
    intro payload hmem
    obtain ⟨value, hvalue, rfl⟩ := List.mem_map.1 hmem
    obtain ⟨response, hresponse, rfl⟩ := List.mem_map.1 hvalue
    exact hfits response hresponse
  have hvalues : ∀ value ∈ responses.map Json.ofTable, value.ReadsBack := by
    intro value hmem
    obtain ⟨response, hresponse, rfl⟩ := List.mem_map.1 hmem
    exact hreads response hresponse
  rw [Frame.receive_ofPayloads hpayloads, Frame.map_ofPayload_encode hvalues, List.map_map]
  exact congrArg (fun given => (Except.ok given, Splitter.new limit reassemble))
    (List.map_congr_left fun response _ => Received.ofValue_ofTable response)

end Message

/-- Handlers that leave the keys alone do so after a row of frames. -/
theorem Received.leaveEchoes_answerAll {handlers : ByName Handler} (h : LeaveEchoes handlers)
    (frames : List Received) : LeaveEchoes (answerAll handlers frames).1 := by
  refine Machine.run_invariant LeaveEchoes (fun now received hnow => ?_) h frames
  cases received with
  | malformed fault => exact hnow
  | message said =>
    exact Machine.run_invariant (fun state : ByName Handler × Message => LeaveEchoes state.1)
      (fun state entry hstate => Message.leaveEchoes_answerEntry hstate entry) hnow said.entries

/-- Without handlers every message is answered with the part of it that is sent back. -/
theorem Received.answerAll_empty (frames : List Received) :
    answerAll ByName.empty frames
      = (ByName.empty, (frames.filterMap message?).map Message.echoes) := by
  induction frames with
  | nil => rfl
  | cons received rest ih =>
    cases received with
    | malformed fault =>
      rw [answerAll_cons, answer, ih]
      rfl
    | message said =>
      rw [answerAll_cons, answer, Message.answerEntries_empty, ih]
      rfl

namespace Engine

/-! ### The responses of an engine -/

/-- The response to a message, as it stands when an engine has taken the message apart. -/
def responseTo (engine : Engine) (said : Message) : Message :=
  ((engine.count (·.addFrame)).takeApart said).1.2

/-- The responses to the messages in a row of frames, each frame handled after those before. -/
def responses (engine : Engine) : List Received → List Message
  | [] => []
  | received :: rest =>
    (received.message?.map engine.responseTo).toList
      ++ responses (engine.takeFrame received).1 rest

theorem responseTo_eq (engine : Engine) (said : Message) :
    engine.responseTo said
      = (Message.answerEntries (engine.endpoint.handlers, ByName.empty) said.entries).2 :=
  ((engine.count (·.addFrame)).handles_takeEntries ByName.empty said.entries).response_eq

/-- What a row of frames makes of the handlers. -/
theorem handlers_takeFrames (engine : Engine) (frames : List Received) :
    (Machine.run takeFrame engine frames).1.endpoint.handlers
      = (Received.answerAll engine.endpoint.handlers frames).1 := by
  rw [(engine.handles_takeFrames frames).engine_eq]
  rfl

/-- The responses are those that the handlers make of the row. -/
theorem responses_eq (engine : Engine) (frames : List Received) :
    engine.responses frames = (Received.answerAll engine.endpoint.handlers frames).2 := by
  induction frames generalizing engine with
  | nil => rfl
  | cons received rest ih =>
    have hhandlers : (engine.takeFrame received).1.endpoint.handlers
        = (Received.answer engine.endpoint.handlers received).1 :=
      engine.handlers_takeFrames [received]
    rw [responses, ih, hhandlers, Received.answerAll_cons]
    refine congrArg (· ++ _) ?_
    cases received with
    | malformed fault => rfl
    | message said => exact congrArg (fun response => [response]) (engine.responseTo_eq said)

theorem responses_append (engine : Engine) (first second : List Received) :
    engine.responses (first ++ second)
      = engine.responses first ++ (Machine.run takeFrame engine first).1.responses second := by
  rw [responses_eq, responses_eq, responses_eq, handlers_takeFrames, Received.answerAll_append]

/-- What is sent back for a unit are the responses to its frames. -/
theorem replies_receive {engine : Engine} {unit : Bytes} {frames : List Received}
    (hopen : engine.endpoint.connection.isOpen = true)
    (hunit : (engine.endpoint.splitter.receive unit).1 = .ok frames) :
    (Upshot.ofEffects (engine.receive unit).2.1).replies
      = Frame.ofPayloads ((engine.responses frames).filterMap Message.replyPayload?) := by
  rw [receive_of_ok hopen (Prod.ext hunit rfl), (engine.handles_takeFrames frames).upshot_eq,
    Received.replies, responses_eq]

/-- Without handlers those messages are answered that have something to be sent back. -/
theorem responses_empty {engine : Engine} (h : engine.endpoint.handlers = ByName.empty)
    (frames : List Received) :
    engine.responses frames = (frames.filterMap Received.message?).map Message.echoes ∧
      Message.filled (engine.responses frames)
        = ((frames.filterMap Received.message?).filter Message.hasEcho).map Message.echoes := by
  have hechoes : engine.responses frames
      = (frames.filterMap Received.message?).map Message.echoes := by
    rw [responses_eq, h, Received.answerAll_empty]
  refine ⟨hechoes, ?_⟩
  rw [hechoes, Message.filled, List.filter_map]
  exact congrArg (List.map Message.echoes) (List.filter_congr fun said _ => said.isEmpty_echoes)

/-- Under a key that is not sent back a response has what the last handler has left there. -/
theorem find?_responseTo_of_not_mem (engine : Engine) (said : Message) {key : String}
    (hkey : key ∉ Incoming.echoKeys) :
    (engine.responseTo said).find? key
      = ((Machine.run Message.answerEntry (engine.endpoint.handlers, ByName.empty)
          said.entries).2.getLast?.getD ByName.empty).find? key := by
  rw [responseTo_eq, Message.find?_answerEntries_of_not_mem hkey]

/-- Under a key that is sent back it has what the message has there, if handlers leave it. -/
theorem find?_responseTo_of_mem {engine : Engine} (h : LeaveEchoes engine.endpoint.handlers)
    (said : Message) {key : String} (hkey : key ∈ Incoming.echoKeys) :
    (engine.responseTo said).find? key = said.find? key := by
  rw [responseTo_eq, Message.find?_answerEntries_of_mem said.sorted h hkey]
  exact Option.or_none

/-- **All that is sent back for a unit are the responses to its messages.** Let a connection be
open, and let a unit complete a row of frames. Then one frame is sent back for each message in
the row with anything in its response, in their order, and nothing else; the one exception is
a response that is too long for a header to declare, which is not sent. Let none be so long.
Then a strict splitter under whose limit they are takes the bytes as one unit and gives these
responses, provided that their text reads back, and waits for nothing.

* Without handlers the responses are the parts of the messages that are sent back, so that the
  messages are answered that have one.
* With handlers, and wherever a message stands in the row, there is in the response under every
  key that is not sent back what the last handler has left there. If the handlers leave those
  keys alone that are, then there is under each of these keys what the message has under it,
  and so the message is answered if it has one. -/
theorem receive_replies {engine : Engine} {unit : Bytes} {frames : List Received}
    (hopen : engine.endpoint.connection.isOpen = true)
    (hunit : (engine.endpoint.splitter.receive unit).1 = .ok frames) :
    let replies := (Upshot.ofEffects (engine.receive unit).2.1).replies
    let responses := engine.responses frames
    let messages := frames.filterMap Received.message?
    replies = Frame.ofPayloads (responses.filterMap Message.replyPayload?) ∧
    ((∀ response ∈ responses, (Json.ofTable response).encode.length ≤ Frame.greatestLength) →
      replies = Frame.ofPayloads
          ((Message.filled responses).map fun response => (Json.ofTable response).encode) ∧
        ∀ limit,
          (∀ response ∈ Message.filled responses,
            (Json.ofTable response).encode.length ≤ limit ∧ (Json.ofTable response).ReadsBack) →
          (Splitter.new limit false).receive replies
            = (.ok ((Message.filled responses).map .message), Splitter.new limit false)) ∧
    (engine.endpoint.handlers = ByName.empty →
      responses = messages.map Message.echoes ∧
        Message.filled responses = (messages.filter Message.hasEcho).map Message.echoes) ∧
    ∀ before said after, frames = before ++ .message said :: after →
      let now := (Machine.run takeFrame engine before).1
      let response := now.responseTo said
      let left := (Machine.run Message.answerEntry (now.endpoint.handlers, ByName.empty)
        said.entries).2
      responses = engine.responses before
          ++ response :: (now.takeFrame (.message said)).1.responses after ∧
        (∀ key ∉ Incoming.echoKeys,
          response.find? key = (left.getLast?.getD ByName.empty).find? key) ∧
        (LeaveEchoes engine.endpoint.handlers →
          (∀ key ∈ Incoming.echoKeys, response.find? key = said.find? key) ∧
            (said.hasEcho = true → response ∈ Message.filled responses)) := by
  intro replies responses messages
  have hreplies : replies = _ := replies_receive hopen hunit
  refine ⟨hreplies, fun hlengths => ?_, fun hnone => responses_empty hnone frames, ?_⟩
  · rw [Message.filterMap_replyPayload? hlengths] at hreplies
    refine ⟨?_, fun limit hkept => ?_⟩
    · rw [hreplies, List.map_map]
      rfl
    · rw [hreplies]
      refine Message.receive_frames (fun response hmem => ?_)
        (fun response hmem => (hkept response hmem).2) false
      exact ⟨(hkept response hmem).1, hlengths response (List.mem_of_mem_filter hmem)⟩
  · rintro before said after rfl now response left
    have hplace : responses = engine.responses before
        ++ response :: (now.takeFrame (.message said)).1.responses after :=
      engine.responses_append before _
    refine ⟨hplace, fun key => now.find?_responseTo_of_not_mem said, fun hleave => ?_⟩
    have hnow : LeaveEchoes now.endpoint.handlers := by
      show LeaveEchoes (Machine.run takeFrame engine before).1.endpoint.handlers
      rw [handlers_takeFrames]
      exact Received.leaveEchoes_answerAll hleave before
    have hechoes : ∀ key ∈ Incoming.echoKeys, response.find? key = said.find? key :=
      fun key => find?_responseTo_of_mem hnow said
    refine ⟨hechoes, fun hecho => List.mem_filter.2 ⟨?_, ?_⟩⟩
    · rw [hplace]
      exact List.mem_append_right _ List.mem_cons_self
    · rw [Message.isEmpty_of_hasEcho hechoes hecho]
      rfl

/-- An open engine with a handler that answers with the value that it is called with. -/
def answering : Engine :=
  bare.withHandler "k" ⟨fun _ call => call.response.insert "answer" call.value, []⟩

/-- A value for the handler and one that is sent back, or the answer to them. -/
def pairUnder (key : String) : List (String × Json) :=
  [(key, .ofNat 2), ("loopback", .ofNat 1)]

theorem readsBack_pairUnder {key : String} (h : key < "loopback") :
    (Json.object (pairUnder key)).ReadsBack := by
  have hdepth : (Json.object (pairUnder key)).depth ≤ Json.maxDepth := by
    show 1 ≤ Json.maxDepth
    decide
  refine Json.readsBack_of_ordered ?_ hdepth fun number hnumber => ?_
  · simpa [pairUnder, Json.Ordered, Json.OrderedEntries, Entries.Sorted, Json.ofNat] using h
  · have hcases : number = .integer 2 ∨ number = .integer 1 := by
      simpa [pairUnder, Json.tokens, Json.entryTokens, Json.moreEntryTokens, Json.ofNat]
        using hnumber
    rcases hcases with rfl | rfl <;> exact Json.Number.readsBack_integer (by decide) (by decide)

/-- A message for the handler with a value that is sent back, a value that is no message, and
a message with nothing in it. -/
def mixedValues : List Json :=
  [.object (pairUnder "k"), .null, .object []]

/-- One of the two messages is answered, with what the handler has to say next to the value
that is sent back. -/
theorem receive_replies_mixedValues :
    let frames := mixedValues.map Received.ofValue
    let unit := Frame.ofPayloads (mixedValues.map Json.encode)
    let replies := (Upshot.ofEffects (answering.receive unit).2.1).replies
    (answering.endpoint.connection.isOpen = true ∧
      (answering.endpoint.splitter.receive unit).1 = .ok frames) ∧
    replies = Frame.ofPayload (Json.object (pairUnder "answer")).encode ∧
    (Splitter.new 64 false).receive replies
      = (.ok [.message (.ofList (pairUnder "answer"))], Splitter.new 64 false) := by
  intro frames unit replies
  have hreads : ∀ value ∈ mixedValues, value.ReadsBack := by
    simp only [mixedValues, List.forall_mem_cons]
    refine ⟨readsBack_pairUnder (by decide), ?_, ?_, fun value hmem => absurd hmem List.not_mem_nil⟩
    · refine Json.readsBack_of_ordered ?_ (by decide) fun number hnumber => ?_
      · simp [Json.Ordered]
      · simp [Json.tokens] at hnumber
    · refine Json.readsBack_of_ordered ?_ (by decide) fun number hnumber => ?_
      · simp [Json.Ordered, Json.OrderedEntries, Entries.Sorted]
      · simp [Json.tokens, Json.entryTokens] at hnumber
  have hunit : (answering.endpoint.splitter.receive unit).1 = .ok frames := by
    have hfits : ∀ payload ∈ mixedValues.map Json.encode,
        Frame.Fits Frame.defaultLimit payload := by
      simp only [mixedValues, List.map_cons, List.map_nil, List.forall_mem_cons, Frame.Fits]
      decide +kernel
    have hframes : (mixedValues.map Json.encode).map Received.ofPayload = frames :=
      Frame.map_ofPayload_encode hreads
    rw [← hframes]
    exact congrArg Prod.fst (Frame.receive_ofPayloads hfits true)
  have hresponses : answering.responses frames
      = [.ofList (pairUnder "answer"), ByName.empty] := by
    rw [responses_eq]
    rfl
  obtain ⟨-, hsent, -, -⟩ := @receive_replies answering unit frames rfl hunit
  rw [hresponses] at hsent
  obtain ⟨hreplies, hpeer⟩ := hsent (by
    simp only [List.forall_mem_cons]
    decide +kernel)
  refine ⟨⟨rfl, hunit⟩, hreplies, hpeer 64 ?_⟩
  intro response hmem
  obtain rfl : response = .ofList (pairUnder "answer") := List.mem_singleton.1 hmem
  exact ⟨by decide +kernel, readsBack_pairUnder (by decide)⟩

end Engine

end StripChart
