import StripChart.Proofs.Channels
import StripChart.Proofs.Requests
import StripChart.Proofs.Tally

/-!
# What becomes of an entry

Every entry of a message meets one of five fates (`Incoming.Fate`). Which one can be told
beforehand (`Incoming.fate`): by its key, by the shape of its value, and by whether there is a
handler for the key, which no entry changes. Four things are then all that an entry comes to,
and each is told here without an engine to follow the entry through:

* the tabs serve the requests that are in it (`Incoming.requests`), and there are none unless
  its fate is to be applied;
* the handlers and the response become what they do when it is answered
  (`Message.answerEntry`), which is a matter of its key and of the one handler of this key;
* its fate is counted, and so are the samples that go into rings (`Tally.ofEntries`);
* the tabs are sent the log lines that are in it (`Incoming.tabLines`), and a handler is called
  with it just if that is its fate.

What a row of entries comes to is what its parts come to, one after the other, so that every
notion here is one about rows that may be cut anywhere.
-/

namespace StripChart

/-- Whatever brings nothing may be left out beforehand. -/
theorem flatMap_filter_of_eq_nil {α β : Type} {keep : α → Bool} {f : α → List β}
    (h : ∀ a, keep a = false → f a = []) (list : List α) :
    (list.filter keep).flatMap f = list.flatMap f := by
  induction list with
  | nil => rfl
  | cons a rest ih =>
    cases hkeep : keep a with
    | true => rw [List.filter_cons_of_pos hkeep, List.flatMap_cons, List.flatMap_cons, ih]
    | false =>
      rw [List.filter_cons_of_neg (ne_true_of_eq_false hkeep), ih, List.flatMap_cons, h a hkeep,
        List.nil_append]

/-! ### Fates -/

namespace Incoming

/-- What becomes of an entry of a message. -/
inductive Fate
  /-- It is sent back. -/
  | returned
  /-- What it says is done to the tabs. -/
  | applied
  /-- Its value has not the shape that its key asks for, and it is passed over. -/
  | unusable
  /-- A handler is called with it. -/
  | handled
  /-- Nobody has asked for its key, and it is passed over. -/
  | unclaimed
  deriving DecidableEq

/-- **The key has a meaning of its own**, which no handler can take from it. -/
def IsBuiltIn (key : String) : Prop :=
  key ∈ echoKeys ∨ key = newsKey ∨ key = changeKey

instance (key : String) : Decidable (IsBuiltIn key) :=
  inferInstanceAs (Decidable (_ ∨ _))

/-- Whether the value has the shape that the key asks for, if the key asks for one. -/
def hasShape (entry : String × Json) : Bool :=
  if entry.1 = newsKey then (TabNews.tableOfJson? entry.2).isSome
  else if entry.1 = changeKey then (PlotRequest.ofJson? entry.2).isSome
  else true

/-- What becomes of the entry, where the keys with a handler are those that are `registered`. -/
def fate (registered : String → Bool) (entry : String × Json) : Fate :=
  if entry.1 ∈ echoKeys then .returned
  else if IsBuiltIn entry.1 then
    if hasShape entry then .applied else .unusable
  else if registered entry.1 then .handled else .unclaimed

/-- The entries of a row that meet a fate. -/
def meeting (registered : String → Bool) (which : Fate) (entries : List (String × Json)) :
    List (String × Json) :=
  entries.filter fun entry => fate registered entry = which

@[simp] theorem meeting_append (registered : String → Bool) (which : Fate)
    (first second : List (String × Json)) :
    meeting registered which (first ++ second)
      = meeting registered which first ++ meeting registered which second :=
  List.filter_append ..

/-- A single entry meets its fate and no other. -/
theorem meeting_singleton (registered : String → Bool) (which : Fate) (entry : String × Json) :
    meeting registered which [entry] = if fate registered entry = which then [entry] else [] := by
  by_cases h : fate registered entry = which <;> simp [meeting, h]

/-- The keys that are sent back are none of the two that ask for a shape. -/
theorem ne_of_mem_echoKeys {key : String} (h : key ∈ echoKeys) :
    key ≠ newsKey ∧ key ≠ changeKey := by
  constructor <;> rintro rfl <;> exact absurd h (by decide)

/-- **What an entry means, read off its key and the shape of its value.** -/
theorem read?_cases (entry : String × Json) :
    (entry.1 ∈ echoKeys ∧ read? entry.1 entry.2 = some (.echo entry.1 entry.2)) ∨
      (entry.1 ∉ echoKeys ∧ IsBuiltIn entry.1 ∧ hasShape entry = false ∧
        read? entry.1 entry.2 = none) ∨
      (entry.1 ∉ echoKeys ∧ IsBuiltIn entry.1 ∧ hasShape entry = true ∧
        ((∃ news, read? entry.1 entry.2 = some (.news news)) ∨
          ∃ request, read? entry.1 entry.2 = some (.change request))) ∨
      (¬IsBuiltIn entry.1 ∧ read? entry.1 entry.2 = some (.custom entry.1 entry.2)) := by
  by_cases hecho : entry.1 ∈ echoKeys
  · exact Or.inl ⟨hecho, if_pos hecho⟩
  refine Or.inr ?_
  by_cases hnews : entry.1 = newsKey
  · have hbuiltIn : IsBuiltIn entry.1 := Or.inr (Or.inl hnews)
    rw [read?, if_neg hecho, if_pos hnews, hasShape, if_pos hnews]
    cases TabNews.tableOfJson? entry.2 with
    | none => exact Or.inl ⟨hecho, hbuiltIn, rfl, rfl⟩
    | some news => exact Or.inr (Or.inl ⟨hecho, hbuiltIn, rfl, Or.inl ⟨news, rfl⟩⟩)
  by_cases hchange : entry.1 = changeKey
  · have hbuiltIn : IsBuiltIn entry.1 := Or.inr (Or.inr hchange)
    rw [read?, if_neg hecho, if_neg hnews, if_pos hchange, hasShape, if_neg hnews, if_pos hchange]
    cases PlotRequest.ofJson? entry.2 with
    | none => exact Or.inl ⟨hecho, hbuiltIn, rfl, rfl⟩
    | some request => exact Or.inr (Or.inl ⟨hecho, hbuiltIn, rfl, Or.inr ⟨request, rfl⟩⟩)
  · refine Or.inr (Or.inr ⟨?_, ?_⟩)
    · rintro (h | h | h)
      · exact hecho h
      · exact hnews h
      · exact hchange h
    · rw [read?, if_neg hecho, if_neg hnews, if_neg hchange]

/-- **No handler is called with an entry whose key has a meaning of its own.** -/
theorem not_isBuiltIn_of_handled {registered : String → Bool} {entry : String × Json}
    (h : fate registered entry = .handled) : ¬IsBuiltIn entry.1 := by
  intro hbuiltIn
  by_cases hecho : entry.1 ∈ echoKeys
  · rw [fate, if_pos hecho] at h
    cases h
  · rw [fate, if_neg hecho, if_pos hbuiltIn] at h
    split at h <;> cases h

/-! ### What is in an entry -/

/-- The requests that come of news: the samples of each channel of each tab, in order. -/
def newsRequests (news : ByName TabNews) : List Registry.Request :=
  news.entries.flatMap fun item =>
    item.2.points.entries.map fun points => .record item.1 points.1 (WirePoint.samples points.2)

/-- The log lines that come with news, tab by tab. -/
def newsLines (news : ByName TabNews) : List TabLines :=
  news.entries.flatMap fun item =>
    if item.2.logged.isEmpty then [] else [⟨item.1, item.2.logged⟩]

/-- The requests to the tabs that are in the entry. -/
def requests (entry : String × Json) : List Registry.Request :=
  match read? entry.1 entry.2 with
  | some (.news table) => newsRequests table
  | some (.change request) => [.fulfil request]
  | _ => []

/-- The log lines for tabs that are in the entry. -/
def tabLines (entry : String × Json) : List TabLines :=
  match read? entry.1 entry.2 with
  | some (.news table) => newsLines table
  | _ => []

/-- **Only an entry that is applied has anything for the tabs.** -/
theorem nothing_of_ne_applied {registered : String → Bool} {entry : String × Json}
    (h : fate registered entry ≠ .applied) : requests entry = [] ∧ tabLines entry = [] := by
  rcases read?_cases entry with ⟨-, hread⟩ | ⟨-, -, -, hread⟩ | ⟨hecho, hbuiltIn, hshape, -⟩ |
    ⟨-, hread⟩
  · rw [requests, tabLines, hread]
    exact ⟨rfl, rfl⟩
  · rw [requests, tabLines, hread]
    exact ⟨rfl, rfl⟩
  · rw [fate, if_neg hecho, if_pos hbuiltIn, if_pos hshape] at h
    exact absurd rfl h
  · rw [requests, tabLines, hread]
    exact ⟨rfl, rfl⟩

/-- All that there is for the tabs is in the entries that are applied. -/
theorem requests_applied (registered : String → Bool) (entries : List (String × Json)) :
    (meeting registered .applied entries).flatMap requests = entries.flatMap requests := by
  refine flatMap_filter_of_eq_nil (fun entry h => ?_) entries
  exact (nothing_of_ne_applied (of_decide_eq_false h)).1

end Incoming

/-! ### Samples that go into rings -/

namespace Registry

/-- The samples that a request puts into a ring: those for a channel that is selected on a tab
that is there. -/
def stored (registry : Registry) : Request → List (Sample Float)
  | .record tab channel batch => if (registry.ring? tab channel).isSome then batch else []
  | _ => []

/-- The samples that a row of requests puts into rings. -/
def storedAll (registry : Registry) : List Request → List (Sample Float)
  | [] => []
  | request :: rest => registry.stored request ++ (registry.serve request).1.storedAll rest

theorem storedAll_append (registry : Registry) (first second : List Request) :
    registry.storedAll (first ++ second)
      = registry.storedAll first ++ (registry.after first).storedAll second := by
  induction first generalizing registry with
  | nil => rfl
  | cons request rest ih =>
    rw [List.cons_append, storedAll, ih, storedAll, after_cons, List.append_assoc]

/-- **Recording tells whether there is a ring** for the samples. -/
theorem snd_record (registry : Registry) (tab channel : String) (batch : List (Sample Float)) :
    (registry.record tab channel batch).2 = (registry.ring? tab channel).isSome := by
  rcases htab : registry.tabs.find? tab with - | found
  · rw [record_of_none htab, ring?, htab]
    rfl
  · rw [record_of_some htab, ring?, htab, Option.bind_some, Channels.samples?, Channels.record]
    cases found.channels.plotted.find? channel <;> rfl

end Registry

/-! ### Handlers and responses -/

namespace Message

/-- What an entry makes of the handlers and of the response to its message. What comes out is
the response as a handler has left it, if one is called. -/
def answerEntry (state : ByName Handler × Message) (entry : String × Json) :
    (ByName Handler × Message) × List Message :=
  if entry.1 ∈ Incoming.echoKeys then ((state.1, state.2.insert entry.1 entry.2), [])
  else if Incoming.IsBuiltIn entry.1 then (state, [])
  else
    match state.1.find? entry.1 with
    | some handler =>
      let (handler, response) := handler.call entry.2 state.2
      ((state.1.insert entry.1 handler, response), [response])
    | none => (state, [])

/-- What a row of entries makes of the handlers and of the response. -/
def answerEntries (state : ByName Handler × Message) (entries : List (String × Json)) :
    ByName Handler × Message :=
  (Machine.run answerEntry state entries).1

theorem answerEntries_cons (state : ByName Handler × Message) (entry : String × Json)
    (rest : List (String × Json)) :
    answerEntries state (entry :: rest) = answerEntries (answerEntry state entry).1 rest :=
  rfl

theorem answerEntries_append (state : ByName Handler × Message)
    (first second : List (String × Json)) :
    answerEntries state (first ++ second) = answerEntries (answerEntries state first) second := by
  simp only [answerEntries, Machine.run_append]

/-- **What an entry makes of handlers and response, case by case**: it is put into the response,
or nothing is done, or the handler of its key is called. -/
theorem answerEntry_cases (state : ByName Handler × Message) (entry : String × Json) :
    (entry.1 ∈ Incoming.echoKeys ∧
        answerEntry state entry = ((state.1, state.2.insert entry.1 entry.2), [])) ∨
      (entry.1 ∉ Incoming.echoKeys ∧
        (Incoming.IsBuiltIn entry.1 ∨ state.1.find? entry.1 = none) ∧
        answerEntry state entry = (state, [])) ∨
      (¬Incoming.IsBuiltIn entry.1 ∧ ∃ handler, state.1.find? entry.1 = some handler ∧
        answerEntry state entry
          = ((state.1.insert entry.1 (handler.call entry.2 state.2).1,
              (handler.call entry.2 state.2).2), [(handler.call entry.2 state.2).2])) := by
  by_cases hecho : entry.1 ∈ Incoming.echoKeys
  · exact Or.inl ⟨hecho, if_pos hecho⟩
  by_cases hbuiltIn : Incoming.IsBuiltIn entry.1
  · refine Or.inr (Or.inl ⟨hecho, Or.inl hbuiltIn, ?_⟩)
    rw [answerEntry, if_neg hecho, if_pos hbuiltIn]
  rw [answerEntry, if_neg hecho, if_neg hbuiltIn]
  cases hfind : state.1.find? entry.1 with
  | none => exact Or.inr (Or.inl ⟨hecho, Or.inr rfl, rfl⟩)
  | some handler => exact Or.inr (Or.inr ⟨hbuiltIn, handler, rfl, rfl⟩)

/-- **No entry registers a handler or takes one away.** -/
theorem contains_answerEntry (state : ByName Handler × Message) (entry : String × Json) :
    (answerEntry state entry).1.1.contains = state.1.contains := by
  rcases answerEntry_cases state entry with ⟨-, h⟩ | ⟨-, -, h⟩ | ⟨-, handler, hfind, h⟩
  · rw [h]
  · rw [h]
  · rw [h]
    funext key
    rw [ByName.contains, ByName.contains, ByName.find?_insert]
    split
    · rename_i hkey
      rw [hkey, hfind]
      rfl
    · rfl

theorem contains_answerEntries (state : ByName Handler × Message)
    (entries : List (String × Json)) :
    (answerEntries state entries).1.contains = state.1.contains :=
  Machine.run_invariant (fun now : ByName Handler × Message => now.1.contains = state.1.contains)
    (fun now entry h => (contains_answerEntry now entry).trans h) rfl entries

end Message

/-! ### What entries count -/

/-- What is counted for a row of entries, where the tabs are those of the registry before and
the keys with a handler are those that are `registered`. -/
def Tally.ofEntries (registry : Registry) (registered : String → Bool)
    (entries : List (String × Json)) : Tally where
  unusable := (Incoming.meeting registered .unusable entries).length
  unclaimed := (Incoming.meeting registered .unclaimed entries).length
  returned := (Incoming.meeting registered .returned entries).length
  samplesKept := (registry.storedAll (entries.flatMap Incoming.requests)).length

theorem Tally.ofEntries_append (registry : Registry) (registered : String → Bool)
    (first second : List (String × Json)) :
    ofEntries registry registered (first ++ second)
      = ofEntries registry registered first
        + ofEntries (registry.after (first.flatMap Incoming.requests)) registered second := by
  simp only [ofEntries, add_def, Incoming.meeting_append, List.length_append, List.flatMap_append,
    Registry.storedAll_append]

/-! ### Frames -/

namespace Received

/-- The message, if the payload is one. -/
def message? : Received → Option Message
  | .message said => some said
  | .malformed _ => none

/-- The entries of the message; there are none in a payload that cannot be used. -/
def entries : Received → List (String × Json)
  | .message said => said.entries
  | .malformed _ => []

/-- Whether the payload cannot be used. -/
def isMalformed : Received → Bool
  | .message _ => false
  | .malformed _ => true

/-- What a payload makes of the handlers. What comes out is the response to the message, if it
is one. -/
def answer (handlers : ByName Handler) : Received → ByName Handler × List Message
  | .message said =>
    let (handlers, response) := Message.answerEntries (handlers, ByName.empty) said.entries
    (handlers, [response])
  | .malformed _ => (handlers, [])

/-- What a row of payloads makes of the handlers, and the responses to the messages in it. -/
def answerAll (handlers : ByName Handler) (frames : List Received) :
    ByName Handler × List Message :=
  Machine.run answer handlers frames

theorem answerAll_cons (handlers : ByName Handler) (received : Received) (rest : List Received) :
    answerAll handlers (received :: rest)
      = ((answerAll (answer handlers received).1 rest).1,
          (answer handlers received).2 ++ (answerAll (answer handlers received).1 rest).2) :=
  rfl

theorem answerAll_append (handlers : ByName Handler) (first second : List Received) :
    answerAll handlers (first ++ second)
      = ((answerAll (answerAll handlers first).1 second).1,
          (answerAll handlers first).2 ++ (answerAll (answerAll handlers first).1 second).2) :=
  Machine.run_append ..

theorem contains_answerAll (handlers : ByName Handler) (frames : List Received) :
    (answerAll handlers frames).1.contains = handlers.contains := by
  refine Machine.run_invariant (fun now : ByName Handler => now.contains = handlers.contains)
    (fun now received h => ?_) rfl frames
  cases received with
  | message said =>
    exact (Message.contains_answerEntries (now, ByName.empty) said.entries).trans h
  | malformed fault => exact h

end Received

/-- The payload of the reply with a response. There is none if nothing is in the response, or
if its text is too long for a header to declare. -/
def Message.replyPayload? (response : Message) : Option Bytes :=
  if response.entries.isEmpty then none
  else if (Json.ofTable response).encode.length ≤ Frame.greatestLength then
    some (Json.ofTable response).encode
  else none

/-- The payloads of the replies to a row of frames. -/
def Received.replies (handlers : ByName Handler) (frames : List Received) : List Bytes :=
  (Received.answerAll handlers frames).2.filterMap Message.replyPayload?

/-- A payload that is sent back is one that a header can declare. -/
theorem Received.length_le_of_mem_replies {handlers : ByName Handler} {frames : List Received}
    {payload : Bytes} (h : payload ∈ Received.replies handlers frames) :
    payload.length ≤ Frame.greatestLength := by
  obtain ⟨response, -, hpayload⟩ := List.mem_filterMap.1 h
  rw [Message.replyPayload?] at hpayload
  split at hpayload
  · cases hpayload
  · split at hpayload
    · rename_i hle
      exact Option.some.inj hpayload ▸ hle
    · cases hpayload

theorem Received.replies_append (handlers : ByName Handler) (first second : List Received) :
    Received.replies handlers (first ++ second)
      = Received.replies handlers first
        ++ Received.replies (Received.answerAll handlers first).1 second := by
  simp only [Received.replies, Received.answerAll_append, List.filterMap_append]

namespace Tally

/-- What is counted for payloads that are sent as frames. -/
def ofSent (payloads : List Bytes) : Tally where
  framesOut := payloads.length
  bytesOut := (Frame.ofPayloads payloads).length

/-- What is counted for a row of frames. -/
def ofFrames (registry : Registry) (handlers : ByName Handler) (frames : List Received) : Tally :=
  { framesIn := frames.length, unusable := (frames.filter Received.isMalformed).length }
    + ofEntries registry handlers.contains (frames.flatMap Received.entries)
    + ofSent (Received.replies handlers frames)

theorem ofFrames_append (registry : Registry) (handlers : ByName Handler)
    (first second : List Received) :
    ofFrames registry handlers (first ++ second)
      = ofFrames registry handlers first
        + ofFrames (registry.after ((first.flatMap Received.entries).flatMap Incoming.requests))
            (Received.answerAll handlers first).1 second := by
  simp only [ofFrames, List.flatMap_append, ofEntries_append, Received.contains_answerAll,
    Received.replies_append]
  ext <;>
    simp only [add_def, ofSent, List.length_append, List.filter_append, Frame.ofPayloads_append] <;>
    omega

end Tally

end StripChart
