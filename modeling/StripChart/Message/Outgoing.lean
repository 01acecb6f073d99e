import StripChart.Frame.Received
import StripChart.Message.Incoming

/-!
# What the client says

The client tells the server three sorts of things: that a frame was drawn and when, that
something happened on a tab, and whatever else its user's side wants to have sent.
-/

namespace StripChart

/-- A message to the server. -/
inductive Outgoing
  /-- A frame was drawn at this time, in milliseconds. -/
  | drawn (time : Float)
  /-- Something happened on a tab. -/
  | event (tab : String) (what : Json)
  /-- A message as it is. -/
  | asIs (entries : Message)

/-- The message as a JSON value. -/
def Outgoing.toJson : Outgoing → Json
  | .drawn time => Json.ofEntries [(Incoming.newsKey, Json.ofEntries [("time", Json.ofFloat time)])]
  | .event tab what =>
    Json.ofEntries [(Incoming.newsKey, Json.ofEntries [("name", .string tab), ("event", what)])]
  | .asIs entries => Json.ofTable entries

end StripChart
