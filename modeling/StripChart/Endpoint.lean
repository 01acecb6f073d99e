import StripChart.Counters
import StripChart.Failure
import StripChart.Frame.Splitter
import StripChart.Handler
import StripChart.Log
import StripChart.Message.Outgoing

/-!
# The client's end of a connection

An `Endpoint` knows the stage that its connection is in, cuts what the connection delivers
into frames, holds the handlers that give keys a meaning, and counts the traffic. It moves
from stage to stage only as `Connection.canBecome` allows, save that it may be hung up at
any time (`Endpoint.hungUp`).
-/

namespace StripChart

/-- The connection's side of a session. -/
structure Endpoint where
  /-- The name under which the connection appears in logs and counters. -/
  name : String
  /-- Where the connection is in its life. -/
  connection : Connection
  /-- Cuts delivery units into frames. -/
  splitter : Splitter
  /-- The handlers, by key. -/
  handlers : ByName Handler
  /-- What has been counted. -/
  counters : Counters

namespace Endpoint

/-- An endpoint that has not been connected. -/
def new (name : String) (splitter : Splitter) : Endpoint where
  name := name
  connection := .disconnected
  splitter := splitter
  handlers := ByName.empty
  counters := {}

/-! ### The life of the connection -/

/-- Brings the connection to another stage, if that may follow the present one. -/
def moveTo (endpoint : Endpoint) (next : Connection) : Except Failure Endpoint :=
  if endpoint.connection.canBecome next then .ok { endpoint with connection := next }
  else .error (.impossibleMove endpoint.connection.name next.name)

/-- Starts an attempt to reach an address. -/
def dial (endpoint : Endpoint) (url : String) : Except Failure Endpoint :=
  endpoint.moveTo (.connecting url)

/-- The transport has reached the address. -/
def established (endpoint : Endpoint) : Except Failure (Endpoint × List LogLine) :=
  match endpoint.connection with
  | .connecting url => do
    let after ← endpoint.moveTo (.connected url)
    return (after, [⟨.info, s!"Connection '{endpoint.name}' ({url}) open"⟩])
  | other => .error (.impossibleMove other.name "Connected")

/-- The transport is gone. A connection that was never opened ends closed as well, and
one that is closed keeps its first reason. -/
def hungUp (endpoint : Endpoint) (reason : String) : Endpoint × List LogLine :=
  if endpoint.connection.isOver then (endpoint, [])
  else
    ({ endpoint with connection := .closed reason },
      [⟨.info, s!"Connection '{endpoint.name}' closed: {reason}"⟩])

/-- A connection that is gone keeps its first reason, and nothing is told again. -/
theorem hungUp_of_isOver {endpoint : Endpoint} (h : endpoint.connection.isOver = true)
    (reason : String) : endpoint.hungUp reason = (endpoint, []) :=
  if_pos h

/-- **Hanging up leaves the connection gone**, whatever stage it was in. -/
@[simp] theorem isOver_hungUp (endpoint : Endpoint) (reason : String) :
    (endpoint.hungUp reason).1.connection.isOver = true := by
  unfold hungUp
  split
  · assumption
  · rfl

/-! ### Handlers, sending and the end of the stream -/

/-- Gives a key a handler, in the place of one that was there. Keys with a meaning
of their own never get to it. -/
def withHandler (endpoint : Endpoint) (key : String) (handler : Handler) : Endpoint :=
  { endpoint with handlers := endpoint.handlers.insert key handler }

/-- Changes the counters. -/
def count (endpoint : Endpoint) (f : Counters → Counters) : Endpoint :=
  { endpoint with counters := f endpoint.counters }

/-- Appends a message to the server as one frame. -/
def send? (endpoint : Endpoint) (message : Outgoing) (out : Bytes) :
    Except FrameError (Endpoint × Bytes) := do
  let longer ← Frame.append? out message.toJson
  return (endpoint.count (·.addSent (longer.length - out.length)), longer)

/-- Ends the stream. Bytes of an incomplete frame are a fault. -/
def finish (endpoint : Endpoint) : Endpoint × Except FrameError Unit :=
  let (result, splitter) := endpoint.splitter.finish
  ({ endpoint with splitter }, result)

end Endpoint

end StripChart
