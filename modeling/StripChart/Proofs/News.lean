import StripChart.Proofs.Handling
import StripChart.Proofs.Streams

/-!
# What news can do

News is the one part of a message in which the server names tabs and channels in bulk, and
nothing keeps it from naming some that are not there. This file says how far that goes. News
adds samples to rings that are there, and that is all: no tab and no ring is made for a name
that it brings (`Engine.applyAllNews_gains`), so that what a registry holds in rings is bounded
by what has been selected.

The news for a tab is a fold of changes over the points in it, and all news is a fold of such
folds over the tabs. Both go through a table in the order of its names and change, for each,
what stands under the same name in another table, if anything does. What such a walk leaves
under a name is told by two look-ups (`ByName.find?_foldl_modify`), and this one fact serves
for the tabs of a registry and for the channels of a tab.

The window is different, since all channels of a tab have it in common. It is found anew for
every channel that is listed and selected, the last time from all rings as they are in the end
(`Channels.recordEach_eq`).
-/

namespace StripChart

/-! ### Changing values one after the other -/

namespace ByName

variable {α β : Type}

/-- Replacing what is not there changes nothing. -/
theorem modify_of_find?_eq_none {table : ByName α} {name : String}
    (h : table.find? name = none) (f : α → α) : table.modify name f = table := by
  rw [modify, h]

/-- Replacing a value by itself changes nothing. -/
@[simp] theorem modify_id (table : ByName α) (name : String) : table.modify name id = table := by
  refine ext_find? fun other => ?_
  rw [find?_modify, Option.map_id, id_eq, ite_self]

/-- **What a walk changes under a name**: what stood there is replaced once, by what `change`
makes of it and of the entry of that name. -/
theorem find?_foldl_modify (change : β → α → α) {entries : List (String × β)}
    (h : Entries.Sorted entries) (table : ByName α) (name : String) :
    (entries.foldl (fun table entry => table.modify entry.1 (change entry.2)) table).find? name
      = (table.find? name).map fun value =>
          (Entries.find? name entries).elim value (change · value) := by
  induction entries generalizing table with
  | nil => exact Option.map_id'.symm ▸ rfl
  | cons head rest ih =>
    obtain ⟨hlt, hrest⟩ := List.pairwise_cons.1 h
    rw [List.foldl_cons, ih hrest, find?_modify, Entries.find?]
    by_cases hname : name = head.1
    · -- the names behind are greater, so that the walk does not come back
      subst hname
      rw [if_pos rfl, if_pos rfl, Entries.find?_eq_none_of_forall_lt hlt, Option.map_map]
      rfl
    · rw [if_neg hname, if_neg hname]

end ByName

/-! ### Batches for the channels of a tab -/

namespace Channels

variable {α : Type} [Scalar α]

/-- What recording makes of the channels, be the one that it is for selected or not. -/
theorem fst_record (set : Channels α) (channel : String) (batch : List (Sample α)) :
    (set.record channel batch).1
      = { set with
          plotted := set.plotted.modify channel (Channel.push batch)
          window := if set.contains channel then
              windowOf (set.plotted.modify channel (Channel.push batch))
            else set.window } := by
  cases h : set.contains channel with
  | true => rw [record_of_contains h, if_pos rfl]
  | false =>
    rw [record_of_not_contains h, if_neg Bool.false_ne_true,
      ByName.modify_of_find?_eq_none (Option.isNone_iff_eq_none.1 (Option.isSome_eq_false_iff.1 h))]

/-- The channels after batches for several of them. -/
def recordEach (set : Channels α) (batches : List (String × List (Sample α))) : Channels α :=
  batches.foldl (fun set batch => (set.record batch.1 batch.2).1) set

/-- Selected channels after batches for several of them. -/
def pushEach (plotted : ByName (Channel α)) (batches : List (String × List (Sample α))) :
    ByName (Channel α) :=
  batches.foldl (fun plotted batch => plotted.modify batch.1 (Channel.push batch.2)) plotted

omit [Scalar α] in
/-- If none of the batches is for a selected channel, nothing is pushed. -/
theorem pushEach_of_any_eq_false {plotted : ByName (Channel α)}
    {batches : List (String × List (Sample α))}
    (h : (batches.any fun batch => plotted.contains batch.1) = false) :
    pushEach plotted batches = plotted := by
  induction batches with
  | nil => rfl
  | cons batch rest ih =>
    obtain ⟨hfirst, hrest⟩ := Bool.or_eq_false_iff.1 (List.any_cons.symm.trans h)
    have hnone := Option.isNone_iff_eq_none.1 (Option.isSome_eq_false_iff.1 hfirst)
    rw [pushEach, List.foldl_cons, ByName.modify_of_find?_eq_none hnone]
    exact ih hrest

/-- **Batches are pushed into the rings of those channels that are selected.** If there is such
a channel, the window is that of the rings as they are in the end, and else it stays. -/
theorem recordEach_eq (set : Channels α) (batches : List (String × List (Sample α))) :
    set.recordEach batches
      = { set with
          plotted := pushEach set.plotted batches
          window := if batches.any fun batch => set.contains batch.1 then
              windowOf (pushEach set.plotted batches)
            else set.window } := by
  induction batches generalizing set with
  | nil => rfl
  | cons batch rest ih =>
    have hcontains : ∀ other,
        (set.record batch.1 batch.2).1.contains other = set.contains other :=
      fun other => set.contains_record batch.1 other batch.2
    have hpushed : (set.record batch.1 batch.2).1.plotted
        = set.plotted.modify batch.1 (Channel.push batch.2) := by rw [fst_record]
    show (set.record batch.1 batch.2).1.recordEach rest = _
    rw [ih]
    simp only [hcontains, hpushed, List.any_cons]
    rw [fst_record]
    by_cases hrest : (rest.any fun batch => set.contains batch.1) = true
    · simp only [hrest, Bool.or_true, if_true]
      rfl
    · -- the rings are after the first batch what they are in the end
      have hnone := Bool.eq_false_iff.2 hrest
      have hstays : pushEach (set.plotted.modify batch.1 (Channel.push batch.2)) rest
          = set.plotted.modify batch.1 (Channel.push batch.2) := by
        refine pushEach_of_any_eq_false ?_
        simp only [ByName.contains_modify]
        exact hnone
      have hend : pushEach set.plotted (batch :: rest)
          = set.plotted.modify batch.1 (Channel.push batch.2) := hstays
      simp only [hnone, Bool.or_false, hend, hstays, Bool.false_eq_true, if_false]

end Channels

/-! ### News for a tab -/

/-- The points that news lists for a tab, by channel. -/
def Incoming.pointsFor (news : ByName TabNews) (tab : String) : ByName (List WirePoint) :=
  ((news.find? tab).map TabNews.points).getD ByName.empty

/-- The points that are listed for a channel. -/
def WirePoint.listed (points : ByName (List WirePoint)) (channel : String) : List WirePoint :=
  (points.find? channel).getD []

/-- The samples of the points that are listed, channel by channel. -/
def WirePoint.batches (points : ByName (List WirePoint)) : List (String × List (Sample Float)) :=
  Entries.mapValues WirePoint.samples points.entries

namespace Tab

/-- The tab after batches for several of its channels. -/
def recordedEach (batches : List (String × List (Sample Float))) (tab : Tab) : Tab :=
  batches.foldl (fun tab batch => tab.recorded batch.1 batch.2) tab

theorem recordedEach_eq (batches : List (String × List (Sample Float))) (tab : Tab) :
    tab.recordedEach batches
      = { tab with
          channels := tab.channels.recordEach batches
          dirty := tab.dirty || batches.any fun batch => tab.channels.contains batch.1 } := by
  induction batches generalizing tab with
  | nil => rw [List.any_nil, Bool.or_false]; rfl
  | cons batch rest ih =>
    show (tab.recorded batch.1 batch.2).recordedEach rest = _
    rw [ih]
    simp only [recorded, Channels.contains_record, Bool.or_assoc, List.any_cons]
    rfl

/-- Whether one of the channels that are listed is selected, be it with points or without. -/
def isListed (points : ByName (List WirePoint)) (tab : Tab) : Bool :=
  points.names.any tab.channels.contains

/-- **What a tab gains by news.** Beside the rings of the channels that are listed and selected,
nothing is different but what follows from them: the window, and the mark. -/
structure Gains (points : ByName (List WirePoint)) (before after : Tab) : Prop where
  /-- The capacity is the same. -/
  capacity_eq : after.channels.capacity = before.channels.capacity
  /-- The colors that were given to channels are the same. -/
  colors_eq : after.channels.colors = before.channels.colors
  /-- The lines have as many points. -/
  slots_eq : after.slots = before.slots
  /-- The tab is as wide. -/
  width_eq : after.width = before.width
  /-- The tab is as high. -/
  height_eq : after.height = before.height
  /-- The same channels are selected, each in its color, and the ring of each takes the samples
  of the points that are listed for it, in order. A channel for which none are listed has the
  ring that it had. -/
  plotted_eq : ∀ channel, after.channels.plotted.find? channel
    = (before.channels.plotted.find? channel).map fun was =>
        { was with
          samples := was.samples.pushAll (WirePoint.samples (WirePoint.listed points channel)) }
  /-- The window is that of the rings, if one of them is listed, and else it is the same. -/
  window_eq : after.channels.window
    = if before.isListed points then Channels.windowOf after.channels.plotted
      else before.channels.window
  /-- The tab gets marked if a selected channel is listed, even without a point that stands for
  a sample, and a mark that it has stays. -/
  dirty_eq : after.dirty = (before.dirty || before.isListed points)

/-- **Every tab gains its news**, whatever it lists. -/
theorem gains_recordedEach (points : ByName (List WirePoint)) (tab : Tab) :
    tab.Gains points (tab.recordedEach (WirePoint.batches points)) := by
  have hlisted : ((WirePoint.batches points).any fun batch => tab.channels.contains batch.1)
      = tab.isListed points := by
    rw [isListed, ByName.names, List.any_map, WirePoint.batches, Entries.mapValues, List.any_map]
    rfl
  rw [recordedEach_eq, Channels.recordEach_eq, hlisted]
  refine ⟨rfl, rfl, rfl, rfl, rfl, fun channel => ?_, rfl, rfl⟩
  refine (ByName.find?_foldl_modify Channel.push
    (Entries.sorted_mapValues WirePoint.samples points.sorted) _ channel).trans ?_
  refine congrArg (fun push => Option.map push _) (funext fun was => ?_)
  rw [Entries.find?_mapValues, WirePoint.listed, ByName.find?]
  cases Entries.find? channel points.entries <;> rfl

end Tab

/-! ### News for all tabs -/

namespace Registry

/-- Batches for channels of one tab replace the one tab. -/
theorem after_records (registry : Registry) (name : String)
    (batches : List (String × List (Sample Float))) :
    registry.after (batches.map fun batch => .record name batch.1 batch.2)
      = { registry with
          tabs := registry.tabs.modify name (Tab.recordedEach batches) } := by
  induction batches generalizing registry with
  | nil => exact congrArg (fun tabs => { registry with tabs }) (registry.tabs.modify_id name).symm
  | cons batch rest ih =>
    have hfirst : (registry.serve (.record name batch.1 batch.2)).1
        = { registry with tabs := registry.tabs.modify name (Tab.recorded batch.1 batch.2) } :=
      registry.fst_record name batch.1 batch.2
    rw [List.map_cons, after_cons, ih, hfirst, ByName.modify_modify]
    rfl

/-- News for tabs replaces those tabs that are there. -/
theorem after_newsRequests (registry : Registry) (news : ByName TabNews) :
    registry.after (Incoming.newsRequests news)
      = { registry with
          tabs := news.entries.foldl (fun tabs item =>
            tabs.modify item.1 (Tab.recordedEach (WirePoint.batches item.2.points)))
            registry.tabs } := by
  rw [Incoming.newsRequests]
  induction news.entries generalizing registry with
  | nil => rfl
  | cons item rest ih =>
    have hitem : (item.2.points.entries.map fun points =>
          Request.record item.1 points.1 (WirePoint.samples points.2))
        = (WirePoint.batches item.2.points).map fun batch => .record item.1 batch.1 batch.2 := by
      rw [WirePoint.batches, Entries.mapValues, List.map_map]
      rfl
    rw [List.flatMap_cons, after_append, hitem, after_records, ih, List.foldl_cons]

/-- **News reaches the tabs that are there, and makes none.** -/
theorem find?_after_newsRequests (registry : Registry) (news : ByName TabNews) (name : String) :
    (registry.after (Incoming.newsRequests news)).tabs.find? name
      = (registry.tabs.find? name).map
          (Tab.recordedEach (WirePoint.batches (Incoming.pointsFor news name))) := by
  rw [after_newsRequests]
  refine (ByName.find?_foldl_modify
    (fun (item : TabNews) => Tab.recordedEach (WirePoint.batches item.points))
    news.sorted registry.tabs name).trans ?_
  refine congrArg (fun change => Option.map change _) (funext fun tab => ?_)
  rw [Incoming.pointsFor, ByName.find?]
  cases Entries.find? name news.entries <;> rfl

/-- **What news brings a ring**: the samples of the points that are listed for it. -/
theorem ring?_after_newsRequests (registry : Registry) (news : ByName TabNews)
    (name channel : String) :
    (registry.after (Incoming.newsRequests news)).ring? name channel
      = (registry.ring? name channel).map (Ring.pushAll ·
          (WirePoint.samples (WirePoint.listed (Incoming.pointsFor news name) channel))) := by
  rw [ring?, ring?, find?_after_newsRequests, Option.bind_map, Option.map_bind]
  refine congrArg (Option.bind _) (funext fun tab => ?_)
  have hplotted := (tab.gains_recordedEach (Incoming.pointsFor news name)).plotted_eq channel
  simp only [Function.comp_apply, Channels.samples?, hplotted, Option.map_map]
  rfl

end Registry

namespace Engine

end Engine

end StripChart
