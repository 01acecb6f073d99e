import StripChart.Decimal.Places
import StripChart.Renderer

/-!
# Drawing as text

A `Summary` draws pictures by describing them: one short text for every line, with its
last point to two decimal places. It remembers the picture it drew last, and every so many
pictures it logs what it would say about it.
-/

namespace StripChart

/-- Draws pictures by describing them. -/
structure Summary where
  /-- Every how many pictures the description is logged. -/
  logEvery : Nat
  /-- How many pictures were drawn. -/
  frames : Nat
  /-- The tab of the last picture. -/
  tab : String
  /-- The descriptions of its lines. -/
  lines : List String
  deriving DecidableEq, Repr

namespace Summary

/-- A summary that has not drawn anything yet. Zero counts as one. -/
def new (logEvery : Nat) : Summary where
  logEvery := max logEvery 1
  frames := 0
  tab := ""
  lines := []

/-- A point to two decimal places. -/
def describePoint (point : Float × Float) : String :=
  s!"({Decimal.withPlaces 2 point.1}, {Decimal.withPlaces 2 point.2})"

/-- A line with its color, its number of points and its last point. -/
def describeLine (line : Line Float) : String :=
  let last := (line.points.getLast?.map describePoint).getD "-"
  s!"{line.channel} {line.color.toText} {line.points.length} pts last {last}"

/-- What is said about the last picture. -/
def text (summary : Summary) : String :=
  let described := if summary.lines.isEmpty then "no lines" else ", ".intercalate summary.lines
  s!"[{summary.tab}] {described}"

/-- Draws a picture. -/
def draw (summary : Summary) (picture : Picture) : Summary × List LogLine :=
  let summary := { summary with
    frames := summary.frames + 1
    tab := picture.tab
    lines := picture.lines.map describeLine }
  (summary,
    if summary.frames % summary.logEvery = 0 then
      [⟨.info, s!"frame {summary.frames}: {summary.text}"⟩]
    else [])

instance : Renderer Summary where
  draw := draw

end Summary

end StripChart
