import StripChart.Frame.Received

/-!
# Handlers

A key without a meaning of its own can be given one by a *handler*. It is called with
the value under its key and with the response to the message as it stands, and says what
the response becomes. What it says may depend on all calls it has had before, and on
nothing else; a handler therefore carries its calls with it.
-/

namespace StripChart

/-- What a handler is called with. -/
structure Handler.Call where
  /-- The value under the handler's key. -/
  value : Json
  /-- The response to the message so far. -/
  response : Message

/-- Gives a meaning to a key. -/
structure Handler where
  /-- What the response becomes, from the calls before, the last one first, and the call
  at hand. -/
  respond : List Handler.Call → Handler.Call → Message
  /-- The calls so far, the last one first. -/
  calls : List Handler.Call := []

namespace Handler

/-- Calls the handler: the handler afterwards, and the response. -/
def call (handler : Handler) (value : Json) (response : Message) : Handler × Message :=
  let call : Call := ⟨value, response⟩
  ({ handler with calls := call :: handler.calls }, handler.respond handler.calls call)

end Handler

end StripChart
