/-!
# Log lines

Operations report what is worth telling by returning log lines beside their results.
-/

namespace StripChart

/-- How much a log line matters. -/
inductive LogLevel
  /-- Something expected happened. -/
  | info
  /-- Something was wrong and has been put aside. -/
  | warn
  /-- Something was wrong and ended what was under way. -/
  | error
  deriving DecidableEq, Repr

/-- A line for the log. -/
structure LogLine where
  /-- How much it matters. -/
  level : LogLevel
  /-- What it says. -/
  text : String
  deriving DecidableEq, Repr

/-- The name of a level. -/
def LogLevel.name : LogLevel → String
  | .info => "INFO"
  | .warn => "WARN"
  | .error => "ERROR"

/-- The line with the name of its level in front. -/
def LogLine.render (line : LogLine) : String :=
  line.level.name ++ " " ++ line.text

end StripChart
