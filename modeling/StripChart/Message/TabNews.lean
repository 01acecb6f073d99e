import StripChart.Sample

/-!
# News for a tab

Under the key `ui` a message brings news for tabs: for each a table of points by
channel, log lines, and whatever else the server attached. A `TabNews` is what one tab
gets. Three entries have a meaning; every other entry is kept as it came
(`TabNews.extra`), so that nothing the server says is lost when the news is written
out again.

Log lines come in two forms, one line by itself and a list. `TabNews.logged` reads
them in that order.
-/

namespace StripChart

/-- What a message says about one tab. -/
structure TabNews where
  /-- New points, by channel. -/
  points : ByName (List WirePoint)
  /-- A log line by itself. -/
  logMessage : Option String
  /-- Log lines in a list. -/
  logMessages : List String
  /-- All other entries, as they came. -/
  extra : ByName Json

namespace TabNews

/-- The keys with a meaning of their own. -/
def ownKeys : List String :=
  ["points", "log_message", "log_messages"]

/-- The log lines, the one by itself before those in the list. -/
def logged (news : TabNews) : List String :=
  news.logMessage.toList ++ news.logMessages

/-- The news that an object holds. Entries left out are empty, and only the line by
itself may be `null`. -/
def ofJson? : Json → Option TabNews
  | .object entries => do
    let points ← Json.defaulted ByName.empty (Json.table? (Json.list? WirePoint.ofJson?))
      (Entries.find? "points" entries)
    let logMessage ← Json.optional Json.string? (Entries.find? "log_message" entries)
    let logMessages ← Json.defaulted [] (Json.list? Json.string?)
      (Entries.find? "log_messages" entries)
    let extra := ByName.ofList (entries.filter fun entry => entry.1 ∉ ownKeys)
    return ⟨points, logMessage, logMessages, extra⟩
  | _ => none

/-- The points of a tab as an object. -/
def pointsJson (points : ByName (List WirePoint)) : Json :=
  Json.ofTable (points.mapValues fun list => .array (list.map WirePoint.toJson))

/-- The news as a list of named fields. The points are always there; log lines only if
there are any. -/
def fields (news : TabNews) : List (String × Json) :=
  ("points", pointsJson news.points) ::
    ((news.logMessage.toList.map fun line => ("log_message", Json.string line)) ++
      (if news.logMessages.isEmpty then []
        else [("log_messages", Json.array (news.logMessages.map Json.string))]) ++
      news.extra.entries)

/-- The news as an object. -/
def toJson (news : TabNews) : Json :=
  Json.ofEntries news.fields

/-- The news, by tab, that a message holds under its key. -/
def tableOfJson? : Json → Option (ByName TabNews) :=
  Json.table? ofJson?

/-- The news of several tabs as one object. -/
def tableJson (news : ByName TabNews) : Json :=
  Json.ofTable (news.mapValues toJson)

end TabNews

end StripChart
