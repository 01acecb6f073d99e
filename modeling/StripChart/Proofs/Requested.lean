import StripChart.Proofs.Closing
import StripChart.Proofs.Handling
import StripChart.Proofs.Records
import StripChart.Proofs.RoundTrip

/-!
# Requests that come from either side

A request to change a plot comes from the server in a message or from the user's side as a
command. The two ways are of very different length. A command is carried out as it is; a
message is written as text, framed, cut out of a delivery unit, read, taken apart by its keys
and recognized. They come to the same (`Session.step_unit_request`): the session afterwards is
the same but for the traffic counted, and so is all that is given out. In particular the tabs
are the same.

What carries this is that nothing is lost on the way (`PlotRequest.receive_frame`), which is
a matter of the text of requests reading back. One thing can come between: a limit on frames
that is less than the length of the message. Then there is no request at the other end, and the
session fails (`Session.step_unit_of_limit_lt`).
-/

namespace StripChart

/-- The frame of a value is the one of its payload, if a header can declare it. -/
theorem Frame.encode?_eq_ok_iff {value : Json} {unit : Bytes} :
    encode? value = .ok unit
      ↔ unit = ofPayload value.encode ∧ value.encode.length ≤ greatestLength := by
  rw [encode?, append?]
  split
  · rename_i hle
    rw [List.nil_append, Except.ok.injEq]
    exact ⟨fun h => ⟨h.symm, hle⟩, fun h => h.1.symm⟩
  · rename_i hlong
    exact iff_of_false (fun h => by cases h) fun h => hlong h.2

namespace PlotRequest

/-- The request as a message from the server: an object with one entry, under the key of such
requests. -/
def toMessage (request : PlotRequest) : Json :=
  Json.ofEntries [(Incoming.changeKey, request.toJson)]

/-- The message as it is received. -/
def received (request : PlotRequest) : Message :=
  ByName.ofList [(Incoming.changeKey, request.toJson)]

/-- The message reads back, whatever the request says. -/
theorem readsBack_toMessage (request : PlotRequest) : request.toMessage.ReadsBack := by
  have hplain : request.toMessage.Plain 2 := by
    refine Json.plain_ofEntries fun entry hmem => ?_
    rw [List.mem_singleton.1 hmem]
    exact request.plain_toJson
  exact hplain.readsBack (by decide)

/-- The one entry of the message is recognized as the request. -/
theorem read?_toJson (request : PlotRequest) :
    Incoming.read? Incoming.changeKey request.toJson = some (.change request) := by
  rw [Incoming.read?, if_neg (by decide), if_neg (by decide), if_pos rfl, ofJson?_toJson]
  rfl

variable {request : PlotRequest} {unit : Bytes}

/-- **Nothing is lost on the way**: the frame of a request is received as its message. -/
theorem receive_frame {splitter : Splitter} (hpending : splitter.pending = [])
    (hunit : Frame.encode? request.toMessage = .ok unit)
    (hlimit : request.toMessage.encode.length ≤ splitter.limit) :
    splitter.receive unit = (.ok [.message request.received], splitter) := by
  obtain ⟨limit, reassemble, pending⟩ := splitter
  obtain rfl : pending = [] := hpending
  obtain ⟨rfl, hgreatest⟩ := Frame.encode?_eq_ok_iff.1 hunit
  have hfits : ∀ payload ∈ [request.toMessage.encode], Frame.Fits limit payload := by
    intro payload hmem
    rw [List.mem_singleton.1 hmem]
    exact ⟨hlimit, hgreatest⟩
  have hreceive := Frame.receive_ofPayloads hfits reassemble
  rw [Frame.ofPayloads_cons, Frame.ofPayloads_nil, List.append_nil, List.map_singleton,
    Received.ofPayload_encode request.readsBack_toMessage] at hreceive
  exact hreceive

/-- A frame that is too long is told to be so, and nothing waits after it. -/
theorem receive_frame_of_limit_lt {splitter : Splitter} (hpending : splitter.pending = [])
    (hunit : Frame.encode? request.toMessage = .ok unit)
    (hlimit : splitter.limit < request.toMessage.encode.length) :
    splitter.receive unit
      = (.error (.tooLarge request.toMessage.encode.length splitter.limit), splitter) := by
  obtain ⟨limit, reassemble, pending⟩ := splitter
  obtain rfl : pending = [] := hpending
  obtain ⟨rfl, hgreatest⟩ := Frame.encode?_eq_ok_iff.1 hunit
  have hcut := Frame.cut_oversized
    (show Frame.Oversized limit request.toMessage.encode.length
        (Frame.ofPayload request.toMessage.encode) from
      ⟨hlimit, hgreatest, List.prefix_append _ _⟩) reassemble
  rw [Splitter.receive, Splitter.feed, Splitter.atHand_eq_append, List.nil_append]
  simp only [hcut]
  rfl

end PlotRequest

/-- **A message that holds a request** does what the request says, and adds that a frame has
come in. -/
theorem Engine.takeFrame_received (engine : Engine) (request : PlotRequest) :
    engine.takeFrame (.message request.received)
      = ((engine.fulfil request).1.count (·.addFrame), .frame :: (engine.fulfil request).2) := by
  have hentry (engine : Engine) (response : Message) :
      takeEntry (engine, response) (Incoming.changeKey, request.toJson)
        = (((engine.fulfil request).1, response), (engine.fulfil request).2) := by
    simp only [takeEntry, request.read?_toJson]
  have hapart (engine : Engine) : engine.takeApart request.received
      = (((engine.fulfil request).1, ByName.empty), (engine.fulfil request).2) := by
    show Machine.run takeEntry (engine, ByName.empty) [(Incoming.changeKey, request.toJson)] = _
    rw [Machine.run_cons, hentry, Machine.run_nil, List.append_nil]
  -- nothing has been said that is to be sent back
  have hreply (engine : Engine) : engine.reply ByName.empty = (engine, []) := rfl
  simp only [takeFrame, hapart, hreply, List.append_nil]
  rfl

/-- Nothing is given out for a request but what there is to tell. -/
theorem Engine.ofEffects_frame_fulfil (engine : Engine) (request : PlotRequest) :
    Upshot.ofEffects (.frame :: (engine.fulfil request).2) = ⟨[], [], 1⟩ := by
  have htold : Upshot.ofEffects (engine.fulfil request).2 = ⟨[], [], 0⟩ :=
    (ofEffects_told id (engine.registry.fulfil request).2).1
  rw [ofEffects_frame_cons, htold]

namespace Session

variable {session : Session} {request : PlotRequest} {unit : Bytes}

/-- A unit with the message of a request comes to the request, and to the credit for the
unit. -/
theorem receive_frame (hopen : session.connection.isOpen = true)
    (hpending : session.engine.endpoint.splitter.pending = [])
    (hunit : Frame.encode? request.toMessage = .ok unit)
    (hlimit : request.toMessage.encode.length ≤ session.engine.endpoint.splitter.limit)
    (sendFault : Option String) :
    let endpoint := session.engine.endpoint
    let asked := session.execute sendFault (.change request)
    session.receive sendFault unit
      = (asked.1.withEndpoint { endpoint with
            counters := (endpoint.counters.addUnit unit.length).addFrame }, asked.2) := by
  intro endpoint asked
  have hframes := PlotRequest.receive_frame hpending hunit hlimit
  have hreceive : session.engine.receive unit
      = (((session.engine.fulfil request).1.count (·.addFrame)).credit 1
            (UInt64.ofNat unit.length) endpoint.splitter,
          .frame :: (session.engine.fulfil request).2, .ok ()) := by
    rw [Engine.receive_of_ok hopen hframes, Machine.run_cons, Machine.run_nil,
      Engine.takeFrame_received, List.append_nil]
  have hupshot := session.engine.ofEffects_frame_fulfil request
  simp only [receive, hreceive, hupshot, List.map_nil, List.append_nil]
  rfl

/-- **A request may come from either side.** Let a session be open, let nothing wait in its
splitter, and let the message of a request be no longer than a frame may be. Then it is the
same whether the message comes in or the request is asked for by a command:

* The tabs afterwards are the same, and so is all that is given out, which is log lines only.
  Nothing is sent back.
* The sessions afterwards differ by the unit and the frame that are counted, and by nothing
  else; so the splitter waits for nothing, and nothing is counted as unusable or as under a key
  that nobody asked for.
* On its way the request is received as one message, with one entry that is recognized as this
  request, with nothing said that it does not say. -/
theorem step_unit_request (hrunning : session.isRunning = true)
    (hpending : session.engine.endpoint.splitter.pending = [])
    (hunit : Frame.encode? request.toMessage = .ok unit)
    (hlimit : request.toMessage.encode.length ≤ session.engine.endpoint.splitter.limit)
    (sendFault sendFault' : Option String) :
    let endpoint := session.engine.endpoint
    let told := session.step sendFault (.unit unit)
    let asked := session.step sendFault' (.command (.change request))
    (told.1.registry = asked.1.registry ∧ told.2 = asked.2 ∧
      ∀ output ∈ told.2, ∃ line, output = .log line) ∧
    told.1 = asked.1.withEndpoint
      { endpoint with counters := (endpoint.counters.addUnit unit.length).addFrame } ∧
    (told.1.engine.endpoint.splitter = endpoint.splitter ∧
      told.1.engine.endpoint.counters.unusable = endpoint.counters.unusable ∧
      told.1.engine.endpoint.counters.unclaimed = endpoint.counters.unclaimed) ∧
    ∃ message : Message,
      endpoint.splitter.receive unit = (.ok [.message message], endpoint.splitter) ∧
        message.entries.map (fun entry => Incoming.read? entry.1 entry.2)
          = [some (.change request)] := by
  intro endpoint told asked
  have hopen : session.connection.isOpen = true := (Bool.and_eq_true_iff.1 hrunning).2
  have hframe := receive_frame hopen hpending hunit hlimit sendFault
  have htold : told = (asked.1.withEndpoint
      { endpoint with counters := (endpoint.counters.addUnit unit.length).addFrame }, asked.2) := by
    simp only [told, asked, step, hrunning, if_true]
    exact hframe
  refine ⟨⟨by rw [htold]; rfl, by rw [htold], fun output hmem => ?_⟩, by rw [htold], ?_,
    request.received, PlotRequest.receive_frame hpending hunit hlimit, ?_⟩
  · rw [htold] at hmem
    simp only [asked, step, hrunning, if_true, execute, logOutputs] at hmem
    obtain ⟨line, -, rfl⟩ := List.mem_map.1 hmem
    exact ⟨line, rfl⟩
  · rw [htold]
    exact ⟨rfl, rfl, rfl⟩
  · show [Incoming.read? Incoming.changeKey request.toJson] = _
    rw [request.read?_toJson]

/-- A channel is selected on a tab that is not there yet. -/
def plotAmps : PlotRequest :=
  .selecting "thermal" "amps" true

theorem step_unit_request_plotAmps :
    ∃ fresh unit, new? Registry.onePlot ⟨0⟩ = .ok fresh ∧
      Frame.encode? plotAmps.toMessage = .ok unit ∧
      let opened := (fresh.start "tcp://server" (.ok ())).1
      (opened.step none (.unit unit)).1.registry
          = (opened.step none (.command (.change plotAmps))).1.registry ∧
        ∃ tab, (opened.step none (.unit unit)).1.registry.tabs.find? "thermal" = some tab ∧
          tab.channels.contains "amps" = true := by
  have hlength : plotAmps.toMessage.encode.length ≤ 64 := by decide +kernel
  have hunit : Frame.encode? plotAmps.toMessage = .ok _ :=
    Frame.encode?_eq_ok_iff.2 ⟨rfl, Nat.le_trans hlength (by decide)⟩
  refine ⟨_, _, rfl, hunit, ?_⟩
  intro opened
  have hlimit : plotAmps.toMessage.encode.length ≤ opened.engine.endpoint.splitter.limit :=
    Nat.le_trans hlength (show 64 ≤ Frame.defaultLimit by decide)
  obtain ⟨⟨hregistry, -⟩, -⟩ :=
    step_unit_request (show opened.isRunning = true from rfl) rfl hunit hlimit none none
  refine ⟨hregistry, ?_⟩
  rw [hregistry]
  exact ⟨_, rfl, rfl⟩

/-! ### Requests that are too long -/

/-- **A request that is longer than a frame may be** does not get through. The session fails, and
of the tabs there are last pictures taken and nothing else. -/
theorem step_unit_of_limit_lt (hrunning : session.isRunning = true)
    (hpending : session.engine.endpoint.splitter.pending = [])
    (hunit : Frame.encode? request.toMessage = .ok unit)
    (hlimit : session.engine.endpoint.splitter.limit < request.toMessage.encode.length)
    (sendFault : Option String) :
    let told := session.step sendFault (.unit unit)
    told.1.registry = session.registry.takePictures.1 ∧
      told.1.outcome = some (.error (.framing
        (.tooLarge request.toMessage.encode.length session.engine.endpoint.splitter.limit))) := by
  intro told
  have hopen : session.connection.isOpen = true := (Bool.and_eq_true_iff.1 hrunning).2
  have htold : told = session.receive sendFault unit := if_pos hrunning
  rw [htold, receive, Engine.receive_of_error hopen (PlotRequest.receive_frame_of_limit_lt hpending
    hunit hlimit)]
  refine ⟨?_, rfl⟩
  exact registry_publish _

/-- No frame may be longer than sixteen bytes. -/
def narrow : Config :=
  { Registry.onePlot with maxFrameLen := 16 }

/-- **It does make a difference from which side a request comes** if it does not get through: by
a command the tab is put on the screen, and by the message it is not. -/
theorem exists_step_unit_ne_narrow :
    ∃ fresh unit, new? narrow ⟨0⟩ = .ok fresh ∧
      Frame.encode? (PlotRequest.showing "thermal" true).toMessage = .ok unit ∧
      let opened := (fresh.start "tcp://server" (.ok ())).1
      opened.isRunning = true ∧ opened.engine.endpoint.splitter.pending = [] ∧
        (opened.step none (.unit unit)).1.registry
          ≠ (opened.step none (.command (.change (.showing "thermal" true)))).1.registry := by
  have hlength : 16 < (PlotRequest.showing "thermal" true).toMessage.encode.length ∧
      (PlotRequest.showing "thermal" true).toMessage.encode.length ≤ 64 := by
    decide +kernel
  have hunit : Frame.encode? (PlotRequest.showing "thermal" true).toMessage = .ok _ :=
    Frame.encode?_eq_ok_iff.2 ⟨rfl, Nat.le_trans hlength.2 (by decide)⟩
  refine ⟨_, _, rfl, hunit, ?_⟩
  intro opened
  refine ⟨rfl, rfl, fun heq => ?_⟩
  obtain ⟨hregistry, -⟩ :=
    step_unit_of_limit_lt (show opened.isRunning = true from rfl) rfl hunit hlength.1 none
  rw [hregistry] at heq
  -- the tab that was on the screen before is there still
  have hshown : some "power" = some "thermal" := congrArg Registry.shown heq
  exact absurd hshown (by decide)

end Session

end StripChart
