import StripChart.Command
import StripChart.Engine
import StripChart.Notice
import StripChart.Snapshot

/-!
# Sessions

A `Session` is one life of a connection, from the attempt to reach the server to the one
reason for which it ends. It owns the engine and is driven by what happens around it:
`Session.start` says how the attempt to connect went, and `Session.step` takes one `Event`
at a time: a delivery unit, the end of the stream, a command, a tick of the drawing clock.
Both give the session afterwards and the list of its *outputs* in order: what is published
for others to read, the notices for the user's side, the delivery units for the server,
and log lines. A row of events is handled by `Session.run`, which may be cut anywhere
(`Session.run_append`).

A session publishes a snapshot when it is opened, at every tick, when a tab is taken away,
and one last time when it ends. It ends on the first event that leaves no way on
(`Session.conclude`), and from then on no event does anything (`Session.step_of_over`).
-/

namespace StripChart

/-- How a session that did not fail came to its end. -/
inductive Ending
  /-- The server closed the connection. -/
  | byPeer
  /-- The user's side wanted the session to end, or has gone away. -/
  | byClient
  deriving DecidableEq, Repr

/-- What is said about the end. -/
def Ending.message : Ending → String
  | .byPeer => "closed by peer"
  | .byClient => "shut down by client"

/-- Why there is no session for a config. -/
inductive SetupError
  /-- The config cannot be used. -/
  | config (error : ConfigError)
  /-- A tab of the config cannot be made. -/
  | tab (error : InvalidCapacity)
  deriving DecidableEq

/-- What is said about the config. -/
def SetupError.message : SetupError → String
  | .config error => error.message
  | .tab error => error.message

/-- One life of a connection. -/
structure Session where
  /-- The connection's side and the tabs. -/
  engine : Engine
  /-- The snapshot that was published last. -/
  snapshot : Snapshot
  /-- How the session ended, once it has. -/
  outcome : Option (Except Failure Ending)

namespace Session

/-- What happens to a session. -/
inductive Event
  /-- A delivery unit comes in. -/
  | unit (bytes : Bytes)
  /-- Receiving fails. -/
  | failed (reason : String)
  /-- The server has closed the stream. -/
  | ended
  /-- The user's side asks for something. -/
  | command (command : Command)
  /-- There is nobody left on the user's side. -/
  | abandoned
  /-- It is time to look for changed tabs. -/
  | tick

/-- What a session gives out. -/
inductive Output
  /-- The stage of the connection, for others to read. -/
  | connection (connection : Connection)
  /-- A snapshot, for others to read. -/
  | snapshot (snapshot : Snapshot)
  /-- A notice for the user's side. -/
  | notice (notice : Notice)
  /-- A delivery unit for the server. -/
  | unit (bytes : Bytes)
  /-- The session closes its side of the stream. -/
  | hangUp
  /-- There is something to be told. -/
  | log (line : LogLine)

/-- A session that has not tried to connect yet. -/
def new? (config : Config) (palette : Palette) : Except SetupError Session := do
  config.check.mapError .config
  let registry ← (Registry.ofConfig? config palette).mapError .tab
  let splitter := Splitter.new config.maxFrameLen config.reassemblePartialFrames
  let engine : Engine := ⟨Endpoint.new config.name splitter, registry⟩
  return { engine, snapshot := {}, outcome := none }

/-- The name under which the session appears in logs. -/
def name (session : Session) : String :=
  session.engine.endpoint.name

/-- Where the connection is in its life. -/
def connection (session : Session) : Connection :=
  session.engine.endpoint.connection

/-- The tabs. -/
def registry (session : Session) : Registry :=
  session.engine.registry

/-- Whether the session is open and takes events. -/
def isRunning (session : Session) : Bool :=
  session.outcome.isNone && session.connection.isOpen

/-- Gives a key a handler. -/
def withHandler (session : Session) (key : String) (handler : Handler) : Session :=
  { session with
    engine := { session.engine with endpoint := session.engine.endpoint.withHandler key handler } }

/-- The session with another endpoint. -/
def withEndpoint (session : Session) (endpoint : Endpoint) : Session :=
  { session with engine := { session.engine with endpoint } }

/-- The session with other tabs. -/
def withRegistry (session : Session) (registry : Registry) : Session :=
  { session with engine := { session.engine with registry } }

/-! ### Publishing and ending -/

/-- Publishes new pictures of the tabs that have changed, if there is anything new. -/
def publish (session : Session) : Session × List Output :=
  let (registry, pictures) := session.registry.takePictures
  let session := session.withRegistry registry
  match session.snapshot.publish? pictures registry.shown with
  | some snapshot => ({ session with snapshot }, [.snapshot snapshot])
  | none => (session, [])

/-- Closes the connection for good. -/
def close (session : Session) (reason : String) : Session × List Output :=
  let (endpoint, lines) := session.engine.endpoint.hungUp reason
  (session.withEndpoint endpoint,
    lines.map .log ++
      [.connection endpoint.connection, .log ⟨.info, s!"Session '{session.name}' ended: {reason}"⟩,
        .notice (.closed reason)])

/-- The reason for which a session ends that comes to this outcome. -/
def reasonOf : Except Failure Ending → String
  | .ok how => how.message
  | .error error => error.message

/-- The line that tells of a failure. -/
def failureLines (session : Session) : Except Failure Ending → List Output
  | .ok _ => []
  | .error error => [.log ⟨.error, s!"Session '{session.name}' failed: {error.message}"⟩]

/-- Ends an open session: a last look for changed tabs, and the connection is closed. -/
def conclude (session : Session) (outcome : Except Failure Ending) :
    Session × List Output :=
  let (session, published) := session.publish
  let (session, closing) := session.close (reasonOf outcome)
  ({ session with outcome := some outcome },
    published ++ session.failureLines outcome ++ closing)

/-! ### Starting -/

/-- Tries to connect to an address; `reached` says how the attempt goes. -/
def start (session : Session) (url : String) (reached : Except String Unit) :
    Session × List Output :=
  match session.engine.endpoint.dial url with
  | .error error => ({ session with outcome := some (.error error) }, [])
  | .ok endpoint =>
    let session := session.withEndpoint endpoint
    let trying : Output := .connection endpoint.connection
    match reached with
    | .error fault =>
      let reason := s!"connect to {url} failed: {fault}"
      let (session, closing) := session.close reason
      ({ session with outcome := some (.error (.transport reason)) },
        trying :: .log ⟨.error, reason⟩ :: closing)
    | .ok () =>
      match endpoint.established with
      | .error error => ({ session with outcome := some (.error error) }, [trying])
      | .ok (endpoint, lines) =>
        let (session, published) := (session.withEndpoint endpoint).publish
        (session,
          trying :: (lines.map .log ++
            [.connection endpoint.connection, .notice (.connected url)] ++ published))

/-! ### Events -/

/-- Sends a delivery unit. If the transport does not take it, for the reason given, the
session ends. -/
def deliver (session : Session) (sendFault : Option String) (unit : Bytes) :
    Session × List Output :=
  match sendFault with
  | none => (session, [.unit unit])
  | some reason => session.conclude (.error (.transport reason))

/-- What is to be told of the effects of an operation. -/
def logOutputs (effects : List Effect) : List Output :=
  (effects.filterMap Effect.logLine?).map .log

/-- Handles a delivery unit. Notices of log lines for tabs come before the replies are
sent. -/
def receive (session : Session) (sendFault : Option String) (unit : Bytes) :
    Session × List Output :=
  let (engine, effects, result) := session.engine.receive unit
  let session := { session with engine }
  match result with
  | .error error =>
    let (session, outputs) := session.conclude (.error error)
    (session, logOutputs effects ++ outputs)
  | .ok () =>
    let upshot := Upshot.ofEffects effects
    let told := logOutputs effects ++ upshot.tabLines.map fun sent => .notice (.tabLines sent)
    if upshot.isSilent then (session, told)
    else
      let (session, outputs) := session.deliver sendFault upshot.replies
      (session, told ++ outputs)

/-- Tells the user's side that a command could not be carried out. -/
def refuse (reason : String) : List Output :=
  [.log ⟨.warn, reason⟩, .notice (.refused reason)]

/-- Carries out a command. -/
def execute (session : Session) (sendFault : Option String) : Command → Session × List Output
  | .change request =>
    let (engine, effects) := session.engine.fulfil request
    ({ session with engine }, logOutputs effects)
  | .resize tab capacity =>
    let (registry, result) := session.registry.resize tab capacity
    (session.withRegistry registry,
      match result with
      | .ok () => [.notice (.resized tab capacity)]
      | .error error => refuse s!"tab '{tab}': {error.message}")
  | .zoom tab grow =>
    let (registry, capacity) := session.registry.zoom tab grow
    (session.withRegistry registry, [.notice (.resized tab capacity)])
  | .discard tab =>
    let (registry, removed) := session.registry.remove tab
    let session := session.withRegistry registry
    if removed then
      let snapshot := session.snapshot.remove tab registry.shown
      ({ session with snapshot }, [.snapshot snapshot])
    else (session, [])
  | .send message =>
    match session.engine.endpoint.send? message [] with
    | .ok (endpoint, unit) => (session.withEndpoint endpoint).deliver sendFault unit
    | .error error => (session, refuse s!"cannot encode outbound message: {error.message}")
  | .stop =>
    let (session, outputs) := session.conclude (.ok .byClient)
    (session, .hangUp :: outputs)

/-- Comes to the end of the stream, which must not be within a frame. -/
def finish (session : Session) : Session × List Output :=
  let (endpoint, result) := session.engine.endpoint.finish
  let session := session.withEndpoint endpoint
  match result with
  | .ok () => session.conclude (.ok .byPeer)
  | .error error => session.conclude (.error (.framing error))

/-- Handles an event. Were the session to send something while handling it, then
`sendFault` says for what reason the transport would not take it, if there is one. -/
def step (session : Session) (sendFault : Option String) (event : Event) :
    Session × List Output :=
  if session.isRunning then
    match event with
    | .unit bytes => session.receive sendFault bytes
    | .failed reason => session.conclude (.error (.transport reason))
    | .ended => session.finish
    | .command command => session.execute sendFault command
    | .abandoned => session.execute sendFault .stop
    | .tick => session.publish
  else (session, [])

/-- Handles events one after the other, each with what would become of sending. -/
def run (session : Session) (events : List (Event × Option String)) : Session × List Output :=
  Machine.run (fun session (event, sendFault) => session.step sendFault event) session events

@[simp] theorem run_nil (session : Session) : session.run [] = (session, []) :=
  rfl

@[simp] theorem run_cons (session : Session) (event : Event) (sendFault : Option String)
    (rest : List (Event × Option String)) :
    session.run ((event, sendFault) :: rest)
      = (((session.step sendFault event).1.run rest).1,
          (session.step sendFault event).2 ++ ((session.step sendFault event).1.run rest).2) :=
  rfl

/-- A row of events may be cut anywhere. -/
theorem run_append (session : Session) (first second : List (Event × Option String)) :
    session.run (first ++ second)
      = (((session.run first).1.run second).1,
          (session.run first).2 ++ ((session.run first).1.run second).2) :=
  Machine.run_append _ _ _ _

theorem isRunning_of_over {session : Session} (h : session.outcome.isSome) :
    session.isRunning = false := by
  simp [isRunning, Option.isNone_iff_eq_none, Option.isSome_iff_ne_none.mp h]

/-- **After its end nothing happens to a session.** -/
theorem step_of_over {session : Session} (h : session.outcome.isSome)
    (sendFault : Option String) (event : Event) : session.step sendFault event = (session, []) := by
  simp [step, isRunning_of_over h]

theorem run_of_over {session : Session} (h : session.outcome.isSome)
    (events : List (Event × Option String)) : session.run events = (session, []) :=
  Machine.run_of_fixed (fun entry => step_of_over h entry.2 entry.1) events

/-! ### Reporting -/

/-- What is reported about the traffic of the session. -/
def report (session : Session) : String :=
  Counters.report (ByName.ofList [(session.name, session.engine.endpoint.counters)])

end Session

end StripChart
