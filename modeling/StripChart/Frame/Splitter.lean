import StripChart.Frame.Received

/-!
# Cutting delivery units into frames

A transport delivers bytes in units whose boundaries mean nothing to the frames inside:
a unit may hold several frames, and a frame may be spread over several units. A
`Splitter` takes unit after unit and gives back the payloads that are complete.

There are two modes. A *reassembling* splitter keeps the bytes of an incomplete frame at
the end of a unit for the next one; a *strict* one treats them as a fault. Either way
`Frame.cut` walks over the bytes at hand, frame after frame, and the checks at a frame's
start come in a fixed order: a whole header, a length within the limit, a whole payload.
After a fault nothing is kept, so the splitter is as good as new.
-/

namespace StripChart

namespace Frame

/-- Cuts the bytes into payloads and the incomplete frame that is left at the end. -/
def cut (limit : Nat) (reassemble : Bool) (bytes : Bytes) :
    Except FrameError (List Bytes × Bytes) :=
  match bytes with
  | [] => .ok ([], [])
  | a :: b :: c :: d :: rest =>
    let declared := declaredLength a b c d
    let payload := rest.take declared
    if limit < declared then .error (.tooLarge declared limit)
    else if payload.length < declared then
      if reassemble then .ok ([], a :: b :: c :: d :: rest)
      else .error (.overrun declared rest.length)
    else
      match cut limit reassemble (rest.drop declared) with
      | .ok (payloads, left) => .ok (payload :: payloads, left)
      | .error fault => .error fault
  | short => if reassemble then .ok ([], short) else .error (.shortHeader short.length)
termination_by bytes.length
decreasing_by
  simp only [List.length_drop, List.length_cons]
  omega

end Frame

/-- Takes delivery units and gives payloads. -/
structure Splitter where
  /-- The greatest payload length that a header may declare. -/
  limit : Nat
  /-- Whether an incomplete frame at the end of a unit waits for the next unit. -/
  reassemble : Bool
  /-- The bytes of the incomplete frame that is waiting. -/
  pending : Bytes
  deriving DecidableEq

namespace Splitter

/-- A splitter that has seen nothing. -/
def new (limit : Nat) (reassemble : Bool) : Splitter :=
  ⟨limit, reassemble, []⟩

/-- A splitter with the usual limit for frames that never cross units. -/
def strict : Splitter :=
  new Frame.defaultLimit false

/-- A splitter with the usual limit for frames that may cross units. -/
def reassembling : Splitter :=
  new Frame.defaultLimit true

/-- The bytes at hand when a unit comes in: those that wait go before it, if there are
any. -/
def atHand (splitter : Splitter) (unit : Bytes) : Bytes :=
  if splitter.pending.isEmpty then unit else splitter.pending ++ unit

/-- Takes a unit: the payloads completed by it, and the splitter afterwards. -/
def feed (splitter : Splitter) (unit : Bytes) : Except FrameError (List Bytes) × Splitter :=
  match Frame.cut splitter.limit splitter.reassemble (splitter.atHand unit) with
  | .ok (payloads, left) => (.ok payloads, { splitter with pending := left })
  | .error fault => (.error fault, { splitter with pending := [] })

/-- Takes a unit: what the frames completed by it hold, and the splitter afterwards. -/
def receive (splitter : Splitter) (unit : Bytes) : Except FrameError (List Received) × Splitter :=
  let (result, after) := splitter.feed unit
  (result.map fun payloads => payloads.map Received.ofPayload, after)

/-- Either way the bytes at hand are those that wait, and then the unit. -/
theorem atHand_eq_append (splitter : Splitter) (unit : Bytes) :
    splitter.atHand unit = splitter.pending ++ unit := by
  unfold atHand
  split
  · rename_i hempty
    rw [List.isEmpty_iff.1 hempty, List.nil_append]
  · rfl

/-- Ends the stream. Bytes of an incomplete frame are a fault. -/
def finish (splitter : Splitter) : Except FrameError Unit × Splitter :=
  let after := { splitter with pending := [] }
  if splitter.pending.isEmpty then (.ok (), after)
  else (.error (.incomplete splitter.pending.length), after)

end Splitter

end StripChart
