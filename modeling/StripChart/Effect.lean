import StripChart.Frame
import StripChart.Log

/-!
# What comes of a delivery unit

Handling what the server has sent gives `Effect`s, in order: frames taken, replies to be
sent, log lines for tabs and for the program, handlers called. An `Upshot` is what a
session goes on to do with those of one delivery unit: the replies in one piece, and the
log lines for tabs.
-/

namespace StripChart

/-- Log lines that a tab was sent. -/
structure TabLines where
  /-- The tab. -/
  tab : String
  /-- The lines. -/
  lines : List String
  deriving DecidableEq, Repr

/-- What comes of handling something that came in. -/
inductive Effect
  /-- A frame was taken. -/
  | frame
  /-- A frame is to be sent back. -/
  | reply (bytes : Bytes)
  /-- A tab was sent log lines. -/
  | tabLines (sent : TabLines)
  /-- There is something to be told. -/
  | log (line : LogLine)
  /-- A handler was called. -/
  | handled (key : String) (value : Json)

/-- The effects of a delivery unit, sorted. -/
structure Upshot where
  /-- The frames to be sent back, in one piece. -/
  replies : Bytes
  /-- The log lines for tabs. -/
  tabLines : List TabLines
  /-- How many frames were taken. -/
  frames : Nat
  deriving DecidableEq

namespace Upshot

/-- The bytes that an effect sends back. -/
def replyOf : Effect → Bytes
  | .reply bytes => bytes
  | _ => []

/-- The log lines that an effect brings a tab. -/
def tabLinesOf? : Effect → Option TabLines
  | .tabLines sent => some sent
  | _ => none

/-- Whether the effect is that of taking a frame. -/
def isFrame : Effect → Bool
  | .frame => true
  | _ => false

/-- Sorts effects. -/
def ofEffects (effects : List Effect) : Upshot where
  replies := effects.flatMap replyOf
  tabLines := effects.filterMap tabLinesOf?
  frames := effects.countP isFrame

/-- What comes of two rows of effects is what comes of each, joined. -/
theorem ofEffects_append (first second : List Effect) :
    ofEffects (first ++ second) =
      { replies := (ofEffects first).replies ++ (ofEffects second).replies
        tabLines := (ofEffects first).tabLines ++ (ofEffects second).tabLines
        frames := (ofEffects first).frames + (ofEffects second).frames } := by
  simp [ofEffects]

/-- Whether nothing is to be sent back. -/
def isSilent (upshot : Upshot) : Bool :=
  upshot.replies.isEmpty

end Upshot

/-- The line that an effect has to tell. -/
def Effect.logLine? : Effect → Option LogLine
  | .log line => some line
  | _ => none

end StripChart
