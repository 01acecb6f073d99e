import StripChart.Message.Outgoing
import StripChart.Message.PlotRequest

/-!
# Commands

The user's side asks a session for something by a `Command`. Commands are queued and
carried out in order; one that the queue has no room for is refused at once.
-/

namespace StripChart

/-- What the user's side asks for. -/
inductive Command
  /-- To do what a plot request says, as if the server had sent it. -/
  | change (request : PlotRequest)
  /-- To remember another number of samples on a tab. -/
  | resize (tab : String) (capacity : Nat)
  /-- To zoom a tab by one step. -/
  | zoom (tab : String) (grow : Bool)
  /-- To take a tab away. -/
  | discard (tab : String)
  /-- To send the server a message. -/
  | send (message : Outgoing)
  /-- To end the session. -/
  | stop

/-- Why a command was not queued. -/
inductive Refusal
  /-- There is no room for it. -/
  | noRoom
  /-- Nobody would carry it out. -/
  | sessionOver
  deriving DecidableEq, Repr

/-- What is said about the command. -/
def Refusal.message : Refusal → String
  | .noRoom => "command queue is full"
  | .sessionOver => "session has ended"

namespace Command

/-- To select or deselect a channel. -/
def select (tab channel : String) (selected : Bool) : Command :=
  .change (.selecting tab channel selected)

/-- To give a channel a color. -/
def recolor (tab channel color : String) : Command :=
  .change (.coloring tab channel color)

/-- To drop all samples of a tab. -/
def clear (tab : String) : Command :=
  .change (.clearing tab)

/-- To draw a tab at another size. -/
def fit (tab : String) (width height : UInt32) : Command :=
  .change (.resizing tab width height)

/-- To put a tab on the screen, or take it off. -/
def present (tab : String) (shown : Bool) : Command :=
  .change (.showing tab shown)

/-- To send the server an event of a tab. -/
def tell (tab : String) (event : Json) : Command :=
  .send (.event tab event)

/-- To tell the server that a frame was drawn. -/
def tellDrawn (timeMs : Float) : Command :=
  .send (.drawn timeMs)

end Command

end StripChart
