import StripChart.Message.PlotRequest
import StripChart.Message.TabNews

/-!
# What an entry of a message means

A message is taken entry by entry, and the key says what the value is for. Two keys are
sent straight back to the server, which uses them to tell its own requests apart; two
keys have a value of a fixed shape; any other key is left to whoever registered for it.
-/

namespace StripChart

/-- One entry of a message from the server. -/
inductive Incoming
  /-- A value to be sent back under its key. -/
  | echo (key : String) (value : Json)
  /-- News for tabs. -/
  | news (news : ByName TabNews)
  /-- A change to a tab. -/
  | change (request : PlotRequest)
  /-- A value under a key without a meaning of its own. -/
  | custom (key : String) (value : Json)

namespace Incoming

/-- The keys whose values are sent back. -/
def echoKeys : List String :=
  ["__id__", "loopback"]

/-- The key of news for tabs. -/
def newsKey : String :=
  "ui"

/-- The key of a change to a tab. -/
def changeKey : String :=
  "plot"

/-- What the entry means; `none` if its key asks for a shape that the value has not. -/
def read? (key : String) (value : Json) : Option Incoming :=
  if key ∈ echoKeys then some (.echo key value)
  else if key = newsKey then (TabNews.tableOfJson? value).map .news
  else if key = changeKey then (PlotRequest.ofJson? value).map .change
  else some (.custom key value)

/-- The key under which the entry stood. -/
def key : Incoming → String
  | .echo key _ => key
  | .news _ => newsKey
  | .change _ => changeKey
  | .custom key _ => key

theorem key_of_read? {key : String} {value : Json} {incoming : Incoming}
    (h : read? key value = some incoming) : incoming.key = key := by
  unfold read? at h
  split at h
  · cases h
    rfl
  · split at h
    · rename_i hkey
      obtain ⟨news, -, rfl⟩ := Option.map_eq_some_iff.1 h
      exact hkey.symm
    · split at h
      · rename_i hkey
        obtain ⟨request, -, rfl⟩ := Option.map_eq_some_iff.1 h
        exact hkey.symm
      · cases h
        rfl

end Incoming

end StripChart
