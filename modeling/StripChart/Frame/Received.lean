import StripChart.Frame
import StripChart.Json.Reader

/-!
# What a payload holds

A payload is used if it is the text of a JSON object; the object is then a message, its
entries by key. Any other payload is kept apart with what is wrong with it, so that one
bad payload costs no more than its own frame.
-/

namespace StripChart

/-- A message: the entries of a JSON object. -/
abbrev Message :=
  ByName Json

/-- What became of a payload. -/
inductive Received
  /-- The payload is a message. -/
  | message (entries : Message)
  /-- The payload cannot be used. -/
  | malformed (fault : FrameError)

/-- Reads a payload. -/
def Received.ofPayload (payload : Bytes) : Received :=
  match Json.decode? payload with
  | some (.object entries) => .message (ByName.ofList entries)
  | some other => .malformed (.notAnObject other.kind)
  | none => .malformed .malformed

theorem Received.breaksStream_of_ofPayload_malformed {payload : Bytes} {fault : FrameError}
    (h : Received.ofPayload payload = .malformed fault) : fault.breaksStream = false := by
  unfold Received.ofPayload at h
  split at h <;> cases h <;> rfl

end StripChart
