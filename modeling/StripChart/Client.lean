import StripChart.Link
import StripChart.Queue
import StripChart.Painter
import StripChart.Session

/-!
# Clients

A `Client` is a session with all that joins it to its surroundings: the link to the server,
the queue of commands from the user's side, the queue of notices back, and the connection
stage and the snapshot as they were last published.

Nothing in a client happens by itself. The two sides put things into it, and
`Client.settle` lets the session work until it has nothing left to do: first what has come
from the server, then the commands, then the drawing clock. When the session has ended, its
end of the link and the commands that were still waiting go away with it.
-/

namespace StripChart

/-- How far a client has come. -/
inductive Client.Stage
  /-- The session has not been started. -/
  | ready
  /-- The session was started and has not done anything yet. -/
  | starting
  /-- The session takes events. -/
  | working
  /-- The session has ended, or was given up before it was started. -/
  | gone
  deriving DecidableEq, Repr

/-- A session with all that joins it to its surroundings. -/
structure Client where
  /-- The session. -/
  session : Session
  /-- How far it has come. -/
  stage : Client.Stage
  /-- What joins it to the server. -/
  link : Link
  /-- Whether there is anybody on the user's side. -/
  attended : Bool
  /-- Whether it is time to look for changed tabs. -/
  tickDue : Bool
  /-- The commands that wait for the session. -/
  commands : Queue Command
  /-- The notices that wait for the user's side. -/
  notices : Queue Notice
  /-- The connection stage that was published last. -/
  connection : Connection
  /-- The snapshot that was published last. -/
  snapshot : Snapshot

namespace Client

/-- A client whose session has not been started. -/
def new? (config : Config) (palette : Palette) (link : Link) : Except SetupError Client :=
  (Session.new? config palette).map fun session =>
    { session
      stage := .ready
      link
      attended := true
      tickDue := false
      commands := Queue.new config.commandQueue
      notices := Queue.new config.notificationQueue
      connection := session.connection
      snapshot := session.snapshot }

/-! ### The user's side -/

/-- Queues a command, if there is room for it and anybody to carry it out. -/
def request (client : Client) (command : Command) : Client × Except Refusal Unit :=
  if client.stage = .gone then (client, .error .sessionOver)
  else
    match client.commands.offer? command with
    | some commands => ({ client with commands }, .ok ())
    | none => (client, .error .noRoom)

/-- Whether the connection is open; nothing while that is not settled. -/
def connected? (client : Client) : Option (Except Failure Unit) :=
  match client.connection with
  | .connected _ => some (.ok ())
  | .closed reason => some (.error (.closed reason))
  | _ => if client.stage = .gone then some (.error (.closed "session dropped")) else none

/-- Takes the notices that have come. -/
def takeNotices (client : Client) : Client × List Notice :=
  let (taken, notices) := client.notices.takeAll
  ({ client with notices }, taken)

/-- Whether there is a snapshot newer than the one of a generation; nothing if there will
be no more snapshots. -/
def changedSince (client : Client) (generation : Nat) : Option Bool :=
  if client.stage = .gone then none else some (client.snapshot.generation != generation)

/-- Draws a frame from the latest snapshot. -/
def paint {ρ : Type} [Renderer ρ] (client : Client) (painter : Painter ρ) (now : Nat) :
    Client × Painter ρ × Bool × List LogLine :=
  painter.paint client.snapshot now request client

/-- The user's side goes away. -/
def leave (client : Client) : Client :=
  { client with attended := false }

/-! ### The course of the session -/

/-- Has the session started. -/
def launch (client : Client) : Client :=
  if client.stage = .ready then { client with stage := .starting } else client

/-- The client whose session is gone. -/
def retire (client : Client) : Client :=
  { client with
    stage := .gone
    link := client.link.withdraw
    commands := Queue.new client.commands.limit }

/-- Gives the session up before it was started. -/
def discard (client : Client) : Client :=
  if client.stage = .ready then client.retire else client

/-- A period of the drawing clock passes. -/
def tick (client : Client) : Client :=
  if client.stage = .working then { client with tickDue := true } else client

/-- Puts what the session gives out in its place. -/
def place (client : Client) : Session.Output → Client × List LogLine
  | .connection connection => ({ client with connection }, [])
  | .snapshot snapshot => ({ client with snapshot }, [])
  | .notice notice => ({ client with notices := client.notices.post notice }, [])
  | .unit bytes => ({ client with link := (client.link.send bytes).1 }, [])
  | .hangUp => ({ client with link := client.link.close }, [])
  | .log line => (client, [line])

/-- Takes over the session as it is after some work, and what it gave out. -/
def takeOver (client : Client) (session : Session) (outputs : List Session.Output) :
    Client × List LogLine :=
  let (client, lines) := Machine.run place { client with session } outputs
  (if session.outcome.isSome then client.retire else client, lines)

/-- Has the session connect. -/
def connect (client : Client) : Client × List LogLine :=
  let (link, result) := client.link.connect
  let (session, outputs) := client.session.start link.url (result.mapError LinkError.message)
  { client with link, stage := .working, tickDue := true }.takeOver session outputs

/-- Has the session handle an event. -/
def handle (client : Client) (event : Session.Event) : Client × List LogLine :=
  let sendFault := client.link.sendError?.map LinkError.message
  let (session, outputs) := client.session.step sendFault event
  client.takeOver session outputs

/-- The event of coming to a delivery. -/
def eventOf : Delivery → Session.Event
  | .unit bytes => .unit bytes
  | .fault reason => .failed reason

/-- The events that are due, in the order in which they are handled. -/
def due (client : Client) : List Session.Event :=
  client.link.toClient.map eventOf ++
    (if client.link.peer = .here then [] else [.ended]) ++
    client.commands.entries.map .command ++
    (if client.attended then [] else [.abandoned]) ++
    (if client.tickDue then [.tick] else [])

/-- The client to whom nothing is due. -/
def withoutDue (client : Client) : Client :=
  { client with
    link := { client.link with toClient := [] }
    commands := { client.commands with entries := [] }
    tickDue := false }

/-- Lets a session that takes events handle all that is due. -/
def work (client : Client) : Client × List LogLine :=
  if client.stage = .working then Machine.run handle client.withoutDue client.due
  else (client, [])

/-- Lets the session work until it has nothing left to do. -/
def settle (client : Client) : Client × List LogLine :=
  if client.stage = .starting then
    let (client, lines) := client.connect
    let (client, more) := client.work
    (client, lines ++ more)
  else client.work

end Client

end StripChart
