import StripChart.Counters

/-!
# What is counted, in full

Counters have 64 bits and start from zero again when these are used up. What has been counted
is a `Tally`, nine natural numbers, and the counters are what is left of it: to count a tally
is to add it, each number to its counter (`Counters.after`).

This makes sums of all that is ever counted. Every single act of counting is that of a small
tally (`Counters.addFrame_eq` and the five after it), and counting two tallies one after the
other is counting their sum (`Counters.after_after`). So a statement about counters at the end
of a run is one about the sum of what its steps count, in natural numbers, and the 64 bits come
in only once, at the very end.
-/

namespace StripChart

/-- What has been counted, as natural numbers that never start from zero again. -/
@[ext]
structure Tally where
  /-- Delivery units that came in. -/
  unitsIn : Nat := 0
  /-- Frames that came in. -/
  framesIn : Nat := 0
  /-- Bytes that came in. -/
  bytesIn : Nat := 0
  /-- Frames that went out. -/
  framesOut : Nat := 0
  /-- Bytes that went out. -/
  bytesOut : Nat := 0
  /-- Frames and entries of messages that could not be used. -/
  unusable : Nat := 0
  /-- Entries of messages under keys that nobody asked for. -/
  unclaimed : Nat := 0
  /-- Entries of messages that were sent back. -/
  returned : Nat := 0
  /-- Samples that were put into rings. -/
  samplesKept : Nat := 0
  deriving DecidableEq, Repr

namespace Tally

/-- What two tallies come to together. -/
instance : Add Tally where
  add one other :=
    { unitsIn := one.unitsIn + other.unitsIn
      framesIn := one.framesIn + other.framesIn
      bytesIn := one.bytesIn + other.bytesIn
      framesOut := one.framesOut + other.framesOut
      bytesOut := one.bytesOut + other.bytesOut
      unusable := one.unusable + other.unusable
      unclaimed := one.unclaimed + other.unclaimed
      returned := one.returned + other.returned
      samplesKept := one.samplesKept + other.samplesKept }

/-- Tallies are added number by number. -/
theorem add_def (one other : Tally) :
    one + other
      = { unitsIn := one.unitsIn + other.unitsIn
          framesIn := one.framesIn + other.framesIn
          bytesIn := one.bytesIn + other.bytesIn
          framesOut := one.framesOut + other.framesOut
          bytesOut := one.bytesOut + other.bytesOut
          unusable := one.unusable + other.unusable
          unclaimed := one.unclaimed + other.unclaimed
          returned := one.returned + other.returned
          samplesKept := one.samplesKept + other.samplesKept } :=
  rfl

theorem add_assoc (one other another : Tally) :
    one + other + another = one + (other + another) := by
  simp only [add_def, Nat.add_assoc]

end Tally

namespace Counters

/-- The counters after a tally has been counted. -/
def after (counters : Counters) (tally : Tally) : Counters where
  unitsIn := counters.unitsIn + .ofNat tally.unitsIn
  framesIn := counters.framesIn + .ofNat tally.framesIn
  bytesIn := counters.bytesIn + .ofNat tally.bytesIn
  framesOut := counters.framesOut + .ofNat tally.framesOut
  bytesOut := counters.bytesOut + .ofNat tally.bytesOut
  unusable := counters.unusable + .ofNat tally.unusable
  unclaimed := counters.unclaimed + .ofNat tally.unclaimed
  returned := counters.returned + .ofNat tally.returned
  samplesKept := counters.samplesKept + .ofNat tally.samplesKept

variable (counters : Counters)

/-- **Counting one tally after the other is counting their sum.** -/
theorem after_after (one other : Tally) :
    (counters.after one).after other = counters.after (one + other) := by
  simp only [after, Tally.add_def, UInt64.ofNat_add, UInt64.add_assoc]

/-- Nothing counted changes nothing. -/
@[simp] theorem after_zero : counters.after {} = counters := by
  simp [after]

/-! ### Single acts of counting -/

theorem addFrame_eq : counters.addFrame = counters.after { framesIn := 1 } := by
  simp [addFrame, after]

theorem addSent_eq (bytes : Nat) :
    counters.addSent bytes = counters.after { framesOut := 1, bytesOut := bytes } := by
  simp [addSent, after]

theorem addUnusable_eq : counters.addUnusable = counters.after { unusable := 1 } := by
  simp [addUnusable, after]

theorem addUnclaimed_eq : counters.addUnclaimed = counters.after { unclaimed := 1 } := by
  simp [addUnclaimed, after]

theorem addReturned_eq : counters.addReturned = counters.after { returned := 1 } := by
  simp [addReturned, after]

theorem addSamples_eq (count : Nat) :
    counters.addSamples count = counters.after { samplesKept := count } := by
  simp [addSamples, after]

end Counters

end StripChart
