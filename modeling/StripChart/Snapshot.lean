import StripChart.Tab

/-!
# What can be drawn

A `Snapshot` holds the latest picture of every tab and the name of the tab on the screen.
It is what the drawing side reads, so it changes only as a whole: by a batch of new
pictures (`Snapshot.publish?`) or by a tab going away (`Snapshot.remove`). Every change
raises its generation by one, and what changes nothing leaves it as it is.
-/

namespace StripChart

/-- The latest picture of every tab. -/
structure Snapshot where
  /-- The tab on the screen. -/
  shown : Option String := none
  /-- The pictures, by the names of their tabs. -/
  pictures : ByName Picture := ByName.empty
  /-- How often the snapshot has changed. This is a natural number where one of 64 bits would
  do: it grows by one at a time, so that its wrapping round after `2 ^ 64` changes is out of
  reach. -/
  generation : Nat := 0

namespace Snapshot

/-- The picture of the tab on the screen, if there is one. -/
def shownPicture? (snapshot : Snapshot) : Option Picture :=
  snapshot.shown.bind snapshot.pictures.find?

/-- Puts pictures in the places of older ones. -/
def insertAll (pictures : ByName Picture) (batch : List Picture) : ByName Picture :=
  batch.foldl (fun pictures picture => pictures.insert picture.tab picture) pictures

/-- The snapshot with new pictures and the tab that is on the screen now, or nothing if
that is no change: there are no new pictures and the tab is the same. -/
def publish? (snapshot : Snapshot) (batch : List Picture) (shown : Option String) :
    Option Snapshot :=
  if batch.isEmpty && snapshot.shown == shown then none
  else
    some
      { shown
        pictures := insertAll snapshot.pictures batch
        generation := snapshot.generation + 1 }

/-- The snapshot without the picture of a tab, and with the tab that is on the screen
now. -/
def remove (snapshot : Snapshot) (tab : String) (shown : Option String) : Snapshot where
  shown := shown
  pictures := snapshot.pictures.erase tab
  generation := snapshot.generation + 1

theorem publish?_eq_none {snapshot : Snapshot} {batch : List Picture} {shown : Option String} :
    snapshot.publish? batch shown = none ↔ batch = [] ∧ snapshot.shown = shown := by
  simp [publish?]

/-- **A new snapshot has the next generation.** -/
theorem generation_of_publish? {snapshot after : Snapshot} {batch : List Picture}
    {shown : Option String} (h : snapshot.publish? batch shown = some after) :
    after.generation = snapshot.generation + 1 := by
  unfold publish? at h
  split at h
  · simp at h
  · rw [← Option.some.inj h]

end Snapshot

end StripChart
