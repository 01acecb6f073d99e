import StripChart.Proofs.Handling
import StripChart.Proofs.RoundTrip

/-!
# What cannot be used costs only itself

A payload may be no text of an object, and an entry of a message may have a value of another
shape than its key asks for. A unit that holds such things is handled as if they were not in
it (`Engine.receive_clean`): the tabs, the handlers, the replies and all counters come out
as they do for the row of frames that is left when they are taken away
(`Received.clean?`). Two counters are left that see them, that of frames and that of what could
not be used.

Nothing has to be followed through the engine for this. What a row of frames comes to is told
of the row alone (`Engine.handles_takeFrames`), and so it is enough that each thing told there
says the same of a row and of what is left of it.
-/

namespace StripChart

/-! ### Entries without the shape that is asked for -/

namespace Incoming

variable {entry : String × Json}

/-- Only the two keys that ask for a shape can have a value without it. -/
theorem isBuiltIn_of_not_hasShape (h : hasShape entry = false) :
    entry.1 ∉ echoKeys ∧ IsBuiltIn entry.1 := by
  rcases read?_cases entry with ⟨hecho, -⟩ | ⟨hecho, hbuiltIn, -, -⟩ | ⟨-, -, hshape, -⟩ |
    ⟨hcustom, -⟩
  · obtain ⟨hnews, hchange⟩ := ne_of_mem_echoKeys hecho
    rw [hasShape, if_neg hnews, if_neg hchange] at h
    cases h
  · exact ⟨hecho, hbuiltIn⟩
  · rw [hshape] at h
    cases h
  · have hnews : entry.1 ≠ newsKey := fun hkey => hcustom (Or.inr (Or.inl hkey))
    have hchange : entry.1 ≠ changeKey := fun hkey => hcustom (Or.inr (Or.inr hkey))
    rw [hasShape, if_neg hnews, if_neg hchange] at h
    cases h

/-- **An entry cannot be used just if it has not the shape** that its key asks for. -/
theorem fate_eq_unusable_iff {registered : String → Bool} :
    fate registered entry = .unusable ↔ hasShape entry = false := by
  constructor
  · intro h
    by_contra hshape
    have hshape : hasShape entry = true := (Bool.not_eq_false _).mp hshape
    rw [fate, if_pos hshape] at h
    split_ifs at h
  · intro h
    obtain ⟨hecho, hbuiltIn⟩ := isBuiltIn_of_not_hasShape h
    rw [fate, if_neg hecho, if_pos hbuiltIn, h]
    rfl

/-- There is nothing for the tabs in it. -/
theorem nothing_of_not_hasShape (h : hasShape entry = false) :
    requests entry = [] ∧ tabLines entry = [] := by
  have hfate : fate (fun _ => false) entry = .unusable := fate_eq_unusable_iff.2 h
  have hne : fate (fun _ => false) entry ≠ .applied := by
    rw [hfate]
    decide
  exact nothing_of_ne_applied hne

/-- Among entries with their shape, those that meet a fate are the same; but none of them
meets the fate of those without. -/
theorem meeting_filter_hasShape (registered : String → Bool) (which : Fate)
    (entries : List (String × Json)) :
    meeting registered which (entries.filter hasShape)
      = if which = .unusable then [] else meeting registered which entries := by
  rw [meeting, List.filter_filter]
  split
  · rename_i hwhich
    refine List.filter_eq_nil_iff.2 fun entry _ hboth => ?_
    simp only [hwhich, Bool.and_eq_true, decide_eq_true_eq, fate_eq_unusable_iff] at hboth
    exact Bool.false_ne_true (hboth.1.symm.trans hboth.2)
  · rename_i hwhich
    refine List.filter_congr fun entry _ => ?_
    cases hshape : hasShape entry with
    | true => exact Bool.and_true _
    | false =>
      have hfate : fate registered entry = .unusable := fate_eq_unusable_iff.2 hshape
      rw [hfate, Bool.and_false, decide_eq_false (Ne.symm hwhich)]

/-- The entries that cannot be used are those without their shape. -/
theorem meeting_unusable (registered : String → Bool) (entries : List (String × Json)) :
    meeting registered .unusable entries = entries.filter fun entry => !hasShape entry := by
  refine List.filter_congr fun entry _ => ?_
  cases hshape : hasShape entry with
  | true =>
    exact decide_eq_false fun hfate =>
      absurd (fate_eq_unusable_iff.1 hfate) (ne_false_of_eq_true hshape)
  | false => exact decide_eq_true (fate_eq_unusable_iff.2 hshape)

end Incoming

/-- Nothing is answered to an entry without the shape that its key asks for. -/
theorem Message.answerEntries_filter_hasShape (state : ByName Handler × Message)
    (entries : List (String × Json)) :
    answerEntries state (entries.filter Incoming.hasShape) = answerEntries state entries := by
  rw [← List.filterMap_eq_filter, answerEntries, answerEntries]
  refine congrArg Prod.fst (Machine.run_filterMap (fun state entry kept hguard => ?_)
    (fun state entry hguard => ?_) state entries)
  · rw [(Option.guard_eq_some_iff.1 hguard).1]
  · have hshape : Incoming.hasShape entry = false := Option.guard_eq_none_iff.1 hguard
    obtain ⟨hecho, hbuiltIn⟩ := Incoming.isBuiltIn_of_not_hasShape hshape
    rw [answerEntry, if_neg hecho, if_pos hbuiltIn]

/-! ### What is left of a row of frames -/

namespace Received

/-- What is left of a frame when all is taken away that cannot be used: the message with those
of its entries that have their shape, if it is a message. -/
def clean? : Received → Option Received
  | .message said => some (.message (said.filter Incoming.hasShape))
  | .malformed _ => none

/-- What is left of a row of frames. -/
def clean (frames : List Received) : List Received :=
  frames.filterMap clean?

/-- The entries that are left are those that have their shape. -/
theorem entries_clean (frames : List Received) :
    (clean frames).flatMap entries = (frames.flatMap entries).filter Incoming.hasShape := by
  induction frames with
  | nil => rfl
  | cons received rest ih =>
    rw [List.flatMap_cons, List.filter_append, ← ih]
    cases received <;> rfl

/-- The same requests to the tabs are left. -/
theorem requests_clean (frames : List Received) :
    ((clean frames).flatMap entries).flatMap Incoming.requests
      = (frames.flatMap entries).flatMap Incoming.requests := by
  rw [entries_clean]
  exact flatMap_filter_of_eq_nil
    (fun entry h => (Incoming.nothing_of_not_hasShape h).1) (frames.flatMap entries)

/-- The same log lines for tabs are left. -/
theorem tabLines_clean (frames : List Received) :
    ((clean frames).flatMap entries).flatMap Incoming.tabLines
      = (frames.flatMap entries).flatMap Incoming.tabLines := by
  rw [entries_clean]
  exact flatMap_filter_of_eq_nil
    (fun entry h => (Incoming.nothing_of_not_hasShape h).2) (frames.flatMap entries)

/-- **What is left is answered as all of it is.** -/
theorem answerAll_clean (handlers : ByName Handler) (frames : List Received) :
    answerAll handlers (clean frames) = answerAll handlers frames := by
  refine Machine.run_filterMap (fun handlers received left hclean => ?_)
    (fun handlers received hclean => ?_) handlers frames
  · cases received with
    | malformed fault => cases hclean
    | message said =>
      obtain rfl := Option.some.inj hclean
      have hentries : Message.answerEntries (handlers, ByName.empty)
            (said.filter Incoming.hasShape).entries
          = Message.answerEntries (handlers, ByName.empty) said.entries :=
        Message.answerEntries_filter_hasShape _ said.entries
      rw [answer, hentries]
      rfl
  · cases received with
    | malformed fault => rfl
    | message said => cases hclean

theorem replies_clean (handlers : ByName Handler) (frames : List Received) :
    replies handlers (clean frames) = replies handlers frames := by
  rw [replies, answerAll_clean, replies]

end Received

/-- What is left of a row counts the same as all of it, save the number of frames and of what
could not be used. -/
theorem Tally.ofFrames_clean (registry : Registry) (handlers : ByName Handler)
    (frames : List Received) :
    ofFrames registry handlers frames
      = { ofFrames registry handlers (Received.clean frames) with
          framesIn := frames.length
          unusable := (frames.filter Received.isMalformed).length
            + ((frames.flatMap Received.entries).filter
                fun entry => !Incoming.hasShape entry).length } := by
  have hsamples := congrArg registry.storedAll (Received.requests_clean frames)
  rw [Received.entries_clean] at hsamples
  simp [ofFrames, add_def, ofEntries, ofSent, Received.replies_clean, hsamples,
    Received.entries_clean, Incoming.meeting_filter_hasShape, Incoming.meeting_unusable]

namespace Engine

/-- **A row of frames is handled like what is left of it**, counting apart. -/
theorem takeFrames_clean (engine : Engine) (frames : List Received) :
    let all := Machine.run takeFrame engine frames
    let left := Machine.run takeFrame engine (Received.clean frames)
    all.1.registry = left.1.registry ∧
      all.1.endpoint.handlers = left.1.endpoint.handlers ∧
      all.2.filterMap Effect.invocation? = left.2.filterMap Effect.invocation? ∧
      (Upshot.ofEffects all.2).replies = (Upshot.ofEffects left.2).replies ∧
      (Upshot.ofEffects all.2).tabLines = (Upshot.ofEffects left.2).tabLines := by
  intro all left
  obtain ⟨hall, hupshot, hinvocations⟩ := engine.handles_takeFrames frames
  obtain ⟨hleft, hupshot', hinvocations'⟩ := engine.handles_takeFrames (Received.clean frames)
  -- what is told of a row of frames says the same of what is left of it
  rw [Received.requests_clean, Received.answerAll_clean] at hleft
  rw [Received.tabLines_clean, Received.replies_clean] at hupshot'
  rw [Received.entries_clean, Incoming.meeting_filter_hasShape, if_neg (by decide)]
    at hinvocations'
  rw [show Upshot.ofEffects all.2 = _ from hupshot, show Upshot.ofEffects left.2 = _ from hupshot',
    show all.1 = _ from hall, show left.1 = _ from hleft]
  exact ⟨rfl, rfl, hinvocations.trans hinvocations'.symm, rfl, rfl⟩

/-- What a row of frames and what is left of it make of the counters. -/
theorem counters_takeFrames_clean (engine : Engine) (frames : List Received) :
    (Machine.run takeFrame engine frames).1.endpoint.counters
      = { (Machine.run takeFrame engine (Received.clean frames)).1.endpoint.counters with
          framesIn := engine.endpoint.counters.framesIn + .ofNat frames.length
          unusable := engine.endpoint.counters.unusable
            + .ofNat ((frames.filter Received.isMalformed).length
              + ((frames.flatMap Received.entries).filter
                  fun entry => !Incoming.hasShape entry).length) } := by
  rw [(engine.handles_takeFrames frames).engine_eq, Tally.ofFrames_clean,
    (engine.handles_takeFrames (Received.clean frames)).engine_eq]
  rfl

/-- **A unit is handled as what is left of it.** Let a connection be open and wait for nothing,
and let a unit be made of whole frames with payloads that fit. When from its frames those are
taken away that are no messages, and from the messages those entries that have not the shape
that their key asks for, then the row of what is left, handled frame by frame, comes to the same
tabs and leaves the handlers the same, it calls them with the same entries, sends the same bytes
back and sends the tabs the same log lines, and counts the same but for what only the unit
itself can tell: that it came, how many frames it had, and how much of it could not be used.
There is no failure whatever is in the frames. -/
theorem receive_clean (engine : Engine) (hopen : engine.endpoint.connection.isOpen = true)
    (hpending : engine.endpoint.splitter.pending = []) {payloads : List Bytes}
    (hfits : ∀ payload ∈ payloads, Frame.Fits engine.endpoint.splitter.limit payload) :
    let unit := Frame.ofPayloads payloads
    let frames := payloads.map Received.ofPayload
    let handled := engine.receive unit
    let routed := Machine.run takeFrame engine (Received.clean frames)
    let before := engine.endpoint.counters
    handled.2.2 = .ok () ∧
      handled.1.registry = routed.1.registry ∧
      handled.1.endpoint.handlers = routed.1.endpoint.handlers ∧
      handled.2.1.filterMap Effect.invocation? = routed.2.filterMap Effect.invocation? ∧
      (Upshot.ofEffects handled.2.1).replies = (Upshot.ofEffects routed.2).replies ∧
      (Upshot.ofEffects handled.2.1).tabLines = (Upshot.ofEffects routed.2).tabLines ∧
      (Upshot.ofEffects handled.2.1).frames = payloads.length ∧
      handled.1.endpoint.counters
        = { routed.1.endpoint.counters with
            unitsIn := before.unitsIn + 1
            bytesIn := before.bytesIn + .ofNat unit.length
            framesIn := before.framesIn + .ofNat payloads.length
            unusable := before.unusable + .ofNat ((frames.filter Received.isMalformed).length
              + ((frames.flatMap Received.entries).filter
                  fun entry => !Incoming.hasShape entry).length) } := by
  intro unit frames handled routed before
  have hsplitter : Splitter.new engine.endpoint.splitter.limit engine.endpoint.splitter.reassemble
      = engine.endpoint.splitter := by
    rw [Splitter.new, ← hpending]
  have hunit : engine.endpoint.splitter.receive unit = (.ok frames, engine.endpoint.splitter) := by
    have hcut := Frame.receive_ofPayloads hfits engine.endpoint.splitter.reassemble
    rwa [hsplitter] at hcut
  obtain ⟨hregistry, hhandlers, hinvocations, hreplies, htabLines⟩ :=
    engine.takeFrames_clean frames
  have hframes : (Upshot.ofEffects (Machine.run takeFrame engine frames).2).frames
      = payloads.length := by
    rw [(engine.handles_takeFrames frames).upshot_eq]
    exact List.length_map ..
  -- no frame counts as a unit
  have hunits : routed.1.endpoint.counters.unitsIn = before.unitsIn ∧
      routed.1.endpoint.counters.bytesIn = before.bytesIn := by
    rw [show routed.1 = _ from (engine.handles_takeFrames (Received.clean frames)).engine_eq]
    exact ⟨UInt64.add_zero _, UInt64.add_zero _⟩
  rw [show handled = _ from receive_of_ok hopen hunit]
  refine ⟨rfl, hregistry, hhandlers, hinvocations, hreplies, htabLines, hframes, ?_⟩
  show (Machine.run takeFrame engine frames).1.endpoint.counters.credit 1 (.ofNat unit.length) = _
  rw [counters_takeFrames_clean, Counters.credit, ← hunits.1, ← hunits.2,
    show frames.length = payloads.length from List.length_map ..]

/-- Four payloads: a message with a value to be sent back and with news that are none, bytes
that are no text of a value, a value that is no object, and a message with a change that is none
and with an entry that nobody has asked for. -/
def stained : List Bytes :=
  [(Json.object [("loopback", .ofNat 1), ("ui", .ofNat 3)]).encode, [120],
    (Json.array []).encode, (Json.object [("k", .null), ("plot", .null)]).encode]

/-- Four things cannot be used in the unit. The reply is to the value that is left. -/
theorem receive_clean_stained :
    let handled := bare.receive (Frame.ofPayloads stained)
    let routed := Machine.run takeFrame bare (Received.clean (stained.map Received.ofPayload))
    (bare.endpoint.connection.isOpen = true ∧ bare.endpoint.splitter.pending = [] ∧
      ∀ payload ∈ stained, Frame.Fits bare.endpoint.splitter.limit payload) ∧
    handled.2.2 = .ok () ∧ handled.1.registry = routed.1.registry ∧
      handled.1.endpoint.handlers = routed.1.endpoint.handlers ∧
      (Upshot.ofEffects handled.2.1).replies
        = Frame.ofPayload (Json.object [("loopback", .ofNat 1)]).encode ∧
      (Upshot.ofEffects handled.2.1).frames = 4 ∧
      handled.1.endpoint.counters.unusable = 4 ∧
      handled.1.endpoint.counters.returned = 1 ∧ handled.1.endpoint.counters.unclaimed = 1 := by
  intro handled routed
  have hfits : ∀ payload ∈ stained, Frame.Fits bare.endpoint.splitter.limit payload := by
    simp only [stained, List.forall_mem_cons, Frame.Fits]
    decide +kernel
  obtain ⟨hresult, hregistry, hhandlers, -, hreplies, -, hframes, hcounters⟩ :=
    bare.receive_clean rfl rfl hfits
  have hunusable := congrArg Counters.unusable hcounters
  have hreturned := congrArg Counters.returned hcounters
  have hunclaimed := congrArg Counters.unclaimed hcounters
  refine ⟨⟨rfl, rfl, hfits⟩, hresult, hregistry, hhandlers, hreplies.trans ?_, hframes,
    hunusable.trans ?_, hreturned.trans ?_, hunclaimed.trans ?_⟩ <;> decide +kernel

end Engine

end StripChart
