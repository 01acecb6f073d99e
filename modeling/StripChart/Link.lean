import StripChart.Frame.Splitter

/-!
# Links within one process

A `Link` joins a client and a peer without a network: each side's delivery units wait in a
queue without a limit until the other side takes them. The client's end is handed out once,
by connecting; a link can also be one that refuses every attempt.

Each side can close, which ends what it has to say or to hear, or go away altogether. What
was queued before is still there to be taken. A link can be made to fail as well: receiving
fails with a reason when the client comes to it in the queue, sending from a moment on.
-/

namespace StripChart

/-- Something that waits for the client. -/
inductive Delivery
  /-- A delivery unit. -/
  | unit (bytes : Bytes)
  /-- A fault that the client runs into. -/
  | fault (reason : String)
  deriving DecidableEq, Repr

/-- How it stands with one side of a link. -/
inductive Presence
  /-- It takes part in full. -/
  | here
  /-- It has closed: a peer sends nothing more, a client takes nothing more. -/
  | closed
  /-- It is not there any more. -/
  | gone
  deriving DecidableEq, Repr

/-- Why something cannot be done on a link. -/
inductive LinkError
  /-- The client's end is not to be had. -/
  | refused (url : String)
  /-- Nobody would take what the client sends. -/
  | peerGone
  /-- The peer has closed and sends nothing more. -/
  | peerHungUp
  /-- Nobody would take what the peer sends. -/
  | clientGone
  /-- The link was made to fail. -/
  | fault (reason : String)
  deriving DecidableEq, Repr

/-- What is said about the failure. -/
def LinkError.message : LinkError → String
  | .refused url => s!"connection to {url} refused"
  | .peerGone => "memory peer is gone"
  | .peerHungUp => "memory peer already closed"
  | .clientGone => "memory client is gone"
  | .fault reason => reason

/-- What a side finds when it looks for the next thing that waits for it. -/
inductive Reception (α : Type)
  /-- Something has come. -/
  | item (value : α)
  /-- Nothing has come yet. -/
  | waiting
  /-- Nothing will come any more. -/
  | ended
  deriving DecidableEq, Repr

/-- A client and a peer, joined within one process. -/
structure Link where
  /-- The address under which the client's end is to be had. -/
  url : String
  /-- Whether the client's end is still to be handed out. -/
  available : Bool
  /-- The client's side. -/
  client : Presence
  /-- The peer's side. -/
  peer : Presence
  /-- What waits for the client, the oldest first. -/
  toClient : List Delivery
  /-- What waits for the peer, the oldest first. -/
  toPeer : List Bytes
  /-- Why the client cannot send, if it cannot. -/
  sendFault : Option String
  deriving DecidableEq, Repr

namespace Link

/-- A link with both sides in place. -/
def new (url : String) : Link where
  url := url
  available := true
  client := .here
  peer := .here
  toClient := []
  toPeer := []
  sendFault := none

/-- A link that refuses every attempt to connect. -/
def unreachable (url : String) : Link :=
  { new url with available := false, client := .gone, peer := .gone }

/-! ### The client's side -/

/-- Hands out the client's end. -/
def connect (link : Link) : Link × Except LinkError Unit :=
  if link.available then ({ link with available := false }, .ok ())
  else (link, .error (.refused link.url))

/-- Takes what comes next for the client. -/
def receive (link : Link) : Link × Reception Delivery :=
  match link.toClient with
  | delivery :: rest => ({ link with toClient := rest }, .item delivery)
  | [] => (link, if link.peer = .here ∧ link.client = .here then .waiting else .ended)

/-- Why the client cannot send, if it cannot. -/
def sendError? (link : Link) : Option LinkError :=
  match link.sendFault with
  | some reason => some (.fault reason)
  | none => if link.peer = .gone then some .peerGone else none

/-- Sends the peer a delivery unit. -/
def send (link : Link) (unit : Bytes) : Link × Except LinkError Unit :=
  match link.sendError? with
  | some error => (link, .error error)
  | none => ({ link with toPeer := link.toPeer ++ [unit] }, .ok ())

/-- Closes the client's side. It takes nothing that is sent from now on. -/
def close (link : Link) : Link :=
  if link.client = .here then { link with client := .closed } else link

/-- Takes the client's end away for good, handed out or not, with what waits for it. -/
def withdraw (link : Link) : Link :=
  { link with available := false, client := .gone, toClient := [] }

/-- The client lets go of its end, and what waits for it is lost. An end that was never
handed out is still to be had. -/
def dropClient (link : Link) : Link :=
  if link.available then link else link.withdraw

/-! ### The peer's side -/

/-- Queues something for the client. -/
def deliver (link : Link) (delivery : Delivery) : Link × Except LinkError Unit :=
  if link.peer ≠ .here then (link, .error .peerHungUp)
  else if link.client ≠ .here then (link, .error .clientGone)
  else ({ link with toClient := link.toClient ++ [delivery] }, .ok ())

/-- Takes the next delivery unit from the client. -/
def peerReceive (link : Link) : Link × Reception Bytes :=
  match link.toPeer with
  | unit :: rest => ({ link with toPeer := rest }, .item unit)
  | [] => (link, if link.client = .gone then .ended else .waiting)

/-- Takes all delivery units that have come from the client. -/
def peerTakeAll (link : Link) : Link × List Bytes :=
  ({ link with toPeer := [] }, link.toPeer)

/-- The messages in frames, or the first fault. -/
def messages : List Received → Except FrameError (List Message)
  | [] => .ok []
  | .message message :: rest => (messages rest).map (message :: ·)
  | .malformed fault :: _ => .error fault

/-- The messages in a delivery unit of whole frames. -/
def messagesOf (unit : Bytes) : Except FrameError (List Message) :=
  (Splitter.strict.receive unit).1.bind messages

/-- Closes the peer's side. It sends nothing more. -/
def closePeer (link : Link) : Link :=
  if link.peer = .here then { link with peer := .closed } else link

/-- Takes the peer's side away, and what waits for it. -/
def dropPeer (link : Link) : Link :=
  { link with peer := .gone, toPeer := [] }

/-- Makes every attempt of the client to send fail. -/
def breakSending (link : Link) (reason : String) : Link :=
  { link with sendFault := some reason }

end Link

end StripChart
