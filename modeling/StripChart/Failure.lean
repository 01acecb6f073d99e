import StripChart.Connection
import StripChart.Frame

/-!
# What ends a session

A session that fails does so for one of a few reasons, and none of them is tried again.
-/

namespace StripChart

/-- Why a session failed or a connection was refused a step. -/
inductive Failure
  /-- The transport failed. -/
  | transport (reason : String)
  /-- The connection was closed. -/
  | closed (reason : String)
  /-- The stream can no longer be cut into frames. -/
  | framing (error : FrameError)
  /-- A connection cannot go from the one stage to the other. -/
  | impossibleMove (source target : String)
  deriving DecidableEq, Repr

/-- What is said about the failure. -/
def Failure.message : Failure → String
  | .transport reason => s!"transport error: {reason}"
  | .closed reason => s!"connection closed: {reason}"
  | .framing error => s!"protocol error: {error.message}"
  | .impossibleMove source target =>
    s!"invalid connection state transition: {source} -> {target}"

end StripChart
