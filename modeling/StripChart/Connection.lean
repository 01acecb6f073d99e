import StripChart.Json.Shape

/-!
# The life of a connection

A connection is first disconnected, then connecting, then connected, and in the end
closed; it may be closed without ever having been connected. It only moves forward along
this line, and a closed connection stays closed (`Connection.canBecome`).
-/

namespace StripChart

/-- Where a connection is in its life. -/
inductive Connection
  /-- Nothing has been tried yet. -/
  | disconnected
  /-- An attempt to reach the address is under way. -/
  | connecting (url : String)
  /-- The connection to the address is open. -/
  | connected (url : String)
  /-- The connection is gone, for the reason given. -/
  | closed (reason : String)
  deriving DecidableEq, Repr

namespace Connection

/-- The name of the stage. -/
def name : Connection → String
  | .disconnected => "Disconnected"
  | .connecting _ => "Connecting"
  | .connected _ => "Connected"
  | .closed _ => "Closed"

/-- Whether the connection is open. -/
def isOpen : Connection → Bool
  | .connected _ => true
  | _ => false

/-- Whether the connection is gone. -/
def isOver : Connection → Bool
  | .closed _ => true
  | _ => false

/-- Whether the second stage may follow the first. -/
def canBecome : Connection → Connection → Bool
  | .disconnected, .connecting _ => true
  | .connecting _, .connected _ => true
  | .connecting _, .closed _ => true
  | .connected _, .closed _ => true
  | _, _ => false

/-- The address or the reason that the stage carries. -/
def detail? : Connection → Option String
  | .disconnected => none
  | .connecting url => some url
  | .connected url => some url
  | .closed reason => some reason

/-- A text that has to be the field `name` of an object. -/
def detailField? (name : String) : Json → Option String
  | .object entries => Json.required Json.string? (Entries.find? name entries)
  | _ => none

/-- The stage that a value holds: its name alone if it carries nothing, else an object
with its name as the only key. -/
def ofJson? : Json → Option Connection
  | .string "Disconnected" => some .disconnected
  | .object [("Disconnected", .null)] => some .disconnected
  | .object [("Connecting", value)] => (detailField? "url" value).map .connecting
  | .object [("Connected", value)] => (detailField? "url" value).map .connected
  | .object [("Closed", value)] => (detailField? "reason" value).map .closed
  | _ => none

/-- The stage as a value. -/
def toJson : Connection → Json
  | .disconnected => .string "Disconnected"
  | .connecting url => .object [("Connecting", .object [("url", .string url)])]
  | .connected url => .object [("Connected", .object [("url", .string url)])]
  | .closed reason => .object [("Closed", .object [("reason", .string reason)])]

@[simp] theorem ofJson?_toJson (connection : Connection) :
    ofJson? connection.toJson = some connection := by
  cases connection <;> rfl

end Connection

end StripChart
