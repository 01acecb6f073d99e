import StripChart.Effect
import StripChart.Endpoint
import StripChart.Machine
import StripChart.Registry

/-!
# The engine of a session

An `Engine` is the client's end of a connection together with the tabs, and it carries out
what comes in. It takes every message apart entry by entry: some are sent back, some change
tabs, some go to a handler, and what is left over is reported and counted.

Every operation gives the engine afterwards and the list of its effects in order. An
operation on a row of things is the operations on each, one after the other, and its
effects are theirs joined (`Machine.run`); so a row can be cut anywhere without changing
what comes of it.
-/

namespace StripChart

/-- The client's end of a connection together with the tabs it works on. -/
structure Engine where
  /-- The client's end. -/
  endpoint : Endpoint
  /-- The tabs. -/
  registry : Registry

namespace Engine

/-! ### News for tabs and changes to them -/

/-- Changes the counters of the endpoint. -/
def count (engine : Engine) (f : Counters → Counters) : Engine :=
  { engine with endpoint := engine.endpoint.count f }

/-- Puts the points of one channel into its ring. -/
def recordPoints (tab : String) (engine : Engine) (entry : String × List WirePoint) : Engine :=
  let samples := WirePoint.samples entry.2
  let (registry, recorded) := engine.registry.record tab entry.1 samples
  let engine := { engine with registry }
  if recorded then engine.count (·.addSamples samples.length) else engine

/-- The effects of log lines that a tab was sent, if it was sent any. -/
def logEffects (tab : String) (lines : List String) : List Effect :=
  if lines.isEmpty then []
  else (lines.map fun line => .log ⟨.info, s!"({tab}) {line}"⟩) ++ [.tabLines ⟨tab, lines⟩]

/-- Does what the news for a tab says. -/
def applyNews (engine : Engine) (entry : String × TabNews) : Engine × List Effect :=
  (entry.2.points.entries.foldl (recordPoints entry.1) engine,
    logEffects entry.1 entry.2.logged)

/-- Does what news for tabs says, in the order of their names. -/
def applyAllNews (engine : Engine) (news : ByName TabNews) : Engine × List Effect :=
  Machine.run applyNews engine news.entries

/-- Does what a request says about a tab. -/
def fulfil (engine : Engine) (request : PlotRequest) : Engine × List Effect :=
  let (registry, lines) := engine.registry.fulfil request
  ({ engine with registry }, lines.map .log)

/-! ### Messages -/

/-- Calls the handler of a key, if there is one; else the entry is reported. -/
def handOver (engine : Engine) (response : Message) (key : String) (value : Json) :
    (Engine × Message) × List Effect :=
  match engine.endpoint.handlers.find? key with
  | some handler =>
    let (handler, response) := handler.call value response
    (({ engine with endpoint := engine.endpoint.withHandler key handler }, response),
      [.handled key value])
  | none =>
    ((engine.count (·.addUnclaimed), response),
      [.log ⟨.warn, s!"(not handled) {key}: {value.render}"⟩])

/-- Does what one entry of a message says. The response to the message goes along. -/
def takeEntry (state : Engine × Message) (entry : String × Json) :
    (Engine × Message) × List Effect :=
  let (engine, response) := state
  match Incoming.read? entry.1 entry.2 with
  | none =>
    ((engine.count (·.addUnusable), response),
      [.log ⟨.warn, s!"Malformed '{entry.1}' message: unexpected shape"⟩])
  | some (.echo key value) => ((engine.count (·.addReturned), response.insert key value), [])
  | some (.news news) =>
    let (engine, effects) := engine.applyAllNews news
    ((engine, response), effects)
  | some (.change request) =>
    let (engine, effects) := engine.fulfil request
    ((engine, response), effects)
  | some (.custom key value) => engine.handOver response key value

/-- Does what a message says, in the order of its keys, and gives the response to it. -/
def takeApart (engine : Engine) (message : Message) : (Engine × Message) × List Effect :=
  Machine.run takeEntry (engine, ByName.empty) message.entries

/-- Sends a response back, unless there is nothing in it. -/
def reply (engine : Engine) (response : Message) : Engine × List Effect :=
  if response.entries.isEmpty then (engine, [])
  else
    match Frame.encode? (.ofTable response) with
    | .ok bytes => (engine.count (·.addSent bytes.length), [.reply bytes])
    | .error error => (engine, [.log ⟨.warn, s!"Failed to encode reply: {error.message}"⟩])

/-- Handles one frame. -/
def takeFrame (engine : Engine) (received : Received) : Engine × List Effect :=
  let engine := engine.count (·.addFrame)
  match received with
  | .message message =>
    let ((engine, response), effects) := engine.takeApart message
    let (engine, more) := engine.reply response
    (engine, .frame :: (effects ++ more))
  | .malformed fault =>
    (engine.count (·.addUnusable),
      [.frame,
        .log ⟨.warn, s!"Dropping frame on '{engine.endpoint.name}': {fault.message}"⟩])

/-- Handles one delivery unit. A framing fault is found before any frame of the unit is
handled. While the connection is not open, nothing is handled at all. -/
def receive (engine : Engine) (unit : Bytes) :
    Engine × List Effect × Except Failure Unit :=
  if engine.endpoint.connection.isOpen then
    let endpoint := engine.endpoint.count (·.addUnit unit.length)
    let (result, splitter) := endpoint.splitter.receive unit
    let engine := { engine with endpoint := { endpoint with splitter } }
    match result with
    | .ok frames =>
      let (engine, effects) := Machine.run takeFrame engine frames
      (engine, effects, .ok ())
    | .error fault => (engine, [], .error (.framing fault))
  else
    (engine,
      [.log ⟨.warn,
        s!"Dropping {unit.length} byte(s) received while {engine.endpoint.connection.name}"⟩],
      .ok ())

end Engine

end StripChart
