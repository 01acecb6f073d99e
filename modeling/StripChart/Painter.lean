import StripChart.Command
import StripChart.Renderer
import StripChart.Snapshot

/-!
# The drawing side

A `Painter` draws the tab on the screen from the latest snapshot, once per frame, and
tells the server about it. Messages about frames are *paced*: between two that were
queued there has to be a least time. `Pacing` keeps the time of the last one that was
queued. A message that the queue refused does not count, so the next frame tries again.

Times are in nanoseconds on a clock that should not run backwards; where it does, no time
has passed.
-/

namespace StripChart

/-- Keeps messages apart. -/
structure Pacing where
  /-- The least time between two messages. -/
  period : Nat
  /-- When the last message was queued. -/
  last : Option Nat := none
  deriving DecidableEq, Repr

namespace Pacing

/-- Whether it is time for a message. -/
def isDue (pacing : Pacing) (now : Nat) : Bool :=
  match pacing.last with
  | some last => pacing.period ≤ now - last
  | none => true

/-- The pacing after an attempt to queue a message. -/
def attempted (pacing : Pacing) (now : Nat) : Except Refusal Unit → Pacing
  | .ok () => { pacing with last := some now }
  | .error _ => pacing

@[simp] theorem attempted_error (pacing : Pacing) (now : Nat) (error : Refusal) :
    pacing.attempted now (.error error) = pacing :=
  rfl

@[simp] theorem isDue_attempted_ok (pacing : Pacing) (now later : Nat) :
    (pacing.attempted now (.ok ())).isDue later = decide (pacing.period ≤ later - now) :=
  rfl

end Pacing

/-- Draws frames with a renderer. -/
structure Painter (ρ : Type) where
  /-- What draws. -/
  renderer : ρ
  /-- Keeps the messages about frames apart. -/
  pacing : Pacing
  /-- When the painter was started. -/
  started : Nat
  /-- How many frames were drawn. -/
  painted : Nat := 0

namespace Painter

variable {ρ : Type}

/-- The painter with another least time between messages. -/
def setPeriod (painter : Painter ρ) (period : Nat) : Painter ρ :=
  { painter with pacing := { painter.pacing with period } }

/-- Draws the tab on the screen, and tells whether there was one. -/
def draw [Renderer ρ] (painter : Painter ρ) (snapshot : Snapshot) :
    Painter ρ × Bool × List LogLine :=
  match snapshot.shownPicture? with
  | some picture =>
    let (renderer, lines) := Renderer.draw painter.renderer picture
    ({ painter with renderer, painted := painter.painted + 1 }, true, lines)
  | none => (painter, false, [])

/-- A time span in milliseconds. -/
def milliseconds (nanoseconds : Nat) : Float :=
  (Float.ofNat (nanoseconds / 1000000000) +
    Float.ofNat (nanoseconds % 1000000000) / 1000000000.0) * 1000.0

/-- The message about a frame, if it is time for one. -/
def message? (painter : Painter ρ) (now : Nat) : Option Command :=
  if painter.pacing.isDue now then some (.tellDrawn (milliseconds (now - painter.started)))
  else none

/-- The painter after an attempt to queue the message about a frame. -/
def attempted (painter : Painter ρ) (now : Nat) (result : Except Refusal Unit) :
    Painter ρ :=
  { painter with pacing := painter.pacing.attempted now result }

/-- Draws a frame and tells the server, if it is time to. The message goes through
`request`, which acts on some state of its own. -/
def paint {σ : Type} [Renderer ρ] (painter : Painter ρ) (snapshot : Snapshot) (now : Nat)
    (request : σ → Command → σ × Except Refusal Unit) (state : σ) :
    σ × Painter ρ × Bool × List LogLine :=
  let (painter, drawn, lines) := painter.draw snapshot
  match painter.message? now with
  | some message =>
    let (state, result) := request state message
    (state, painter.attempted now result, drawn, lines)
  | none => (state, painter, drawn, lines)

end Painter

end StripChart
