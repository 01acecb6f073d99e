import StripChart.ByName

/-!
# Counters

The traffic of a connection is counted: what came in, what went out, what was put aside
and why. A counter has 64 bits and starts from zero again when they are used up.

Several connections can be reported on together. `Counters.report` sets the counters of
each out in a few lines, the connections in the order of their names.
-/

namespace StripChart

/-- The counters of one connection. -/
structure Counters where
  /-- Delivery units that came in. -/
  unitsIn : UInt64 := 0
  /-- Frames that came in. -/
  framesIn : UInt64 := 0
  /-- Bytes that came in. -/
  bytesIn : UInt64 := 0
  /-- Frames that went out. -/
  framesOut : UInt64 := 0
  /-- Bytes that went out. -/
  bytesOut : UInt64 := 0
  /-- Frames and entries of messages that could not be used. -/
  unusable : UInt64 := 0
  /-- Entries of messages under keys that nobody asked for. -/
  unclaimed : UInt64 := 0
  /-- Entries of messages that were sent back. -/
  returned : UInt64 := 0
  /-- Samples that were put into rings. -/
  samplesKept : UInt64 := 0
  deriving DecidableEq, Repr

namespace Counters

/-- Counts a delivery unit of so many bytes. -/
def addUnit (counters : Counters) (bytes : Nat) : Counters :=
  { counters with
    unitsIn := counters.unitsIn + 1
    bytesIn := counters.bytesIn + UInt64.ofNat bytes }

/-- Counts a frame that came in. -/
def addFrame (counters : Counters) : Counters :=
  { counters with framesIn := counters.framesIn + 1 }

/-- Counts a frame of so many bytes that went out. -/
def addSent (counters : Counters) (bytes : Nat) : Counters :=
  { counters with
    framesOut := counters.framesOut + 1
    bytesOut := counters.bytesOut + UInt64.ofNat bytes }

/-- Counts a frame or an entry that could not be used. -/
def addUnusable (counters : Counters) : Counters :=
  { counters with unusable := counters.unusable + 1 }

/-- Counts an entry under a key that nobody asked for. -/
def addUnclaimed (counters : Counters) : Counters :=
  { counters with unclaimed := counters.unclaimed + 1 }

/-- Counts an entry that was sent back. -/
def addReturned (counters : Counters) : Counters :=
  { counters with returned := counters.returned + 1 }

/-- Counts samples that were put into a ring. -/
def addSamples (counters : Counters) (count : Nat) : Counters :=
  { counters with samplesKept := counters.samplesKept + UInt64.ofNat count }

/-! ### Reporting -/

/-- A count with its noun, in the plural unless the count is one. -/
def counted (count : UInt64) (noun : String) : String :=
  s!"{count} {noun}" ++ if count == 1 then "" else "s"

/-- The lines about one connection. -/
def lines (name : String) (counters : Counters) : String :=
  s!"\n[{name}]\n  In: {counters.framesIn} frames in {counters.unitsIn} units " ++
  s!"({counters.bytesIn} bytes)\n  Out: {counters.framesOut} frames " ++
  s!"({counters.bytesOut} bytes)\n  Samples: {counters.samplesKept}\n" ++
  s!"  Echoes: {counters.returned}\n  Problems: " ++
  counted counters.unusable "payload error" ++ ", " ++
  counted counters.unclaimed "unhandled key" ++ "\n"

/-- The lines about all connections. -/
def report (connections : ByName Counters) : String :=
  if connections.entries.isEmpty then "No connections registered"
  else
    "=== Session Metrics ===\n" ++
      String.join (connections.entries.map fun entry => lines entry.1 entry.2)

end Counters

end StripChart
