import StripChart.Effect

/-!
# Notices

A session tells the user's side what has happened in `Notice`s. They are queued; a side
that falls behind loses the oldest of them, and so always gets the last.
-/

namespace StripChart

/-- What a session tells the user's side. -/
inductive Notice
  /-- The connection to the address is open. -/
  | connected (url : String)
  /-- A tab was sent log lines. -/
  | tabLines (sent : TabLines)
  /-- A tab remembers another number of samples now. -/
  | resized (tab : String) (capacity : Nat)
  /-- A command could not be carried out. -/
  | refused (reason : String)
  /-- The connection is gone. -/
  | closed (reason : String)
  deriving DecidableEq, Repr

end StripChart
