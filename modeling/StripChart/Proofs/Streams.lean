import StripChart.Proofs.Fates

/-!
# Streams of samples

Samples come in for many channels, and how those of one channel are placed among those of the
others is up to the wire. It makes no difference. Whoever keeps the samples of each channel of
each tab in their order, and takes liberties with the rest, leaves the same registry behind,
and every batch is answered as it would have been (`Registry.after_of_sameStreams`).

That two batches for different channels may change places is plain as far as their rings go. It
is not plain for what the channels of a tab have in common. The window is found anew after each
batch from all rings at once, so that each batch sees what the others have left. But it is found
from the rings alone: what it was before does not matter, nor which batch has made it be found
anew (`Channels.record_of_contains`). The mark of a tab only ever gets set.

From two batches to two rows the way is the usual one: the first batch of the one row is found
in the other, and is brought to the front past batches for other channels only.
-/

namespace StripChart

/-! ### Rows with the same threads -/

section Threads

variable {α κ σ : Type} [DecidableEq κ] (thread : α → κ) {step : σ → α → σ}

/-- **Two rows have the same threads**: whatever belongs to one thread stands in the same order
in both, so that each row is a way of weaving the same threads together. -/
def SameThreads (first second : List α) : Prop :=
  ∀ key, first.filter (thread · = key) = second.filter (thread · = key)

variable {thread}

/-- Only the threads that occur in the rows have to be looked at. -/
theorem SameThreads.of_mem {first second : List α}
    (h : ∀ a ∈ first ++ second,
      first.filter (thread · = thread a) = second.filter (thread · = thread a)) :
    SameThreads thread first second := by
  intro key
  by_cases hkey : ∃ a ∈ first ++ second, thread a = key
  · obtain ⟨a, ha, rfl⟩ := hkey
    exact h a ha
  · have hnone : ∀ a ∈ first ++ second, ¬decide (thread a = key) = true := fun a ha heq =>
      hkey ⟨a, ha, of_decide_eq_true heq⟩
    rw [List.filter_eq_nil_iff.2 fun a ha => hnone a (List.mem_append_left _ ha),
      List.filter_eq_nil_iff.2 fun a ha => hnone a (List.mem_append_right _ ha)]

/-- The first of the one row stands in the other behind entries of other threads only, and
without it the rows still have the same threads. -/
theorem SameThreads.exists_of_cons {a : α} {rest second : List α}
    (h : SameThreads thread (a :: rest) second) :
    ∃ before behind, second = before ++ a :: behind ∧ (∀ b ∈ before, thread b ≠ thread a) ∧
      SameThreads thread rest (before ++ behind) := by
  have hown := h (thread a)
  rw [List.filter_cons_of_pos (by simp)] at hown
  obtain ⟨before, behind, rfl, hbefore, -, hbehind⟩ := List.filter_eq_cons_iff.1 hown.symm
  have hother : ∀ b ∈ before, thread b ≠ thread a := fun b hb => by
    simpa using hbefore b hb
  refine ⟨before, behind, rfl, hother, fun key => ?_⟩
  by_cases hkey : thread a = key
  · subst hkey
    rw [List.filter_append, List.filter_eq_nil_iff.2 hbefore, List.nil_append, hbehind]
  · have := h key
    rwa [List.filter_cons_of_neg (by simpa using hkey), List.filter_append,
      List.filter_cons_of_neg (by simpa using hkey), ← List.filter_append] at this

/-- What may change places with each entry of a row may change places with the row. -/
theorem foldl_step_comm {a : α} {row : List α}
    (hcomm : ∀ state, ∀ b ∈ row, step (step state b) a = step (step state a) b) (state : σ) :
    step (row.foldl step state) a = row.foldl step (step state a) := by
  induction row generalizing state with
  | nil => rfl
  | cons b rest ih =>
    rw [List.foldl_cons, List.foldl_cons, ← hcomm state b List.mem_cons_self]
    exact ih (fun state c hc => hcomm state c (List.mem_cons_of_mem _ hc)) (step state b)

/-- **Rows with the same threads lead to one state**, if steps of different threads may change
places. -/
theorem foldl_eq_of_sameThreads
    (hcomm : ∀ state a b, thread a ≠ thread b → step (step state a) b = step (step state b) a)
    {first second : List α} (h : SameThreads thread first second) (state : σ) :
    first.foldl step state = second.foldl step state := by
  induction first generalizing second state with
  | nil =>
    cases second with
    | nil => rfl
    | cons b rest =>
      -- the thread of `b` is not empty in the second row
      have := h (thread b)
      rw [List.filter_nil, List.filter_cons_of_pos (by simp)] at this
      exact absurd this.symm (List.cons_ne_nil _ _)
  | cons a rest ih =>
    obtain ⟨before, behind, rfl, hbefore, hrest⟩ := h.exists_of_cons
    calc (a :: rest).foldl step state
        = behind.foldl step (before.foldl step (step state a)) := by
          rw [List.foldl_cons, ih hrest, List.foldl_append]
      _ = behind.foldl step (step (before.foldl step state) a) := by
          rw [foldl_step_comm fun state b hb => hcomm state b a (hbefore b hb)]
      _ = (before ++ a :: behind).foldl step state := by
          rw [List.foldl_append, List.foldl_cons]

end Threads

/-! ### Batches for one tab -/

variable {α : Type} [Scalar α]

/-- A channel with more samples in its ring. -/
def Channel.push (batch : List (Sample α)) (channel : Channel α) : Channel α :=
  { channel with samples := channel.samples.pushAll batch }

namespace Channels

variable (set : Channels α)

/-- **What recording makes of a selected channel.** The window is that of the rings as they
are then; what it was before does not go into it. -/
theorem record_of_contains {set : Channels α} {channel : String}
    (h : set.contains channel = true) (batch : List (Sample α)) :
    set.record channel batch
      = ({ set with
            plotted := set.plotted.modify channel (Channel.push batch)
            window := windowOf (set.plotted.modify channel (Channel.push batch)) }, true) := by
  obtain ⟨found, hfound⟩ := Option.isSome_iff_exists.1 h
  simp only [record, ByName.modify, hfound]
  rfl

/-- Samples for a channel that is not selected change nothing. -/
theorem record_of_not_contains {set : Channels α} {channel : String}
    (h : set.contains channel = false) (batch : List (Sample α)) :
    set.record channel batch = (set, false) := by
  rw [record, Option.isNone_iff_eq_none.1 (Option.isSome_eq_false_iff.1 h)]

/-- Recording selects no channel, and deselects none. -/
@[simp] theorem contains_record (set : Channels α) (channel other : String)
    (batch : List (Sample α)) :
    (set.record channel batch).1.contains other = set.contains other := by
  cases h : set.contains channel with
  | true =>
    rw [record_of_contains h]
    exact set.plotted.contains_modify channel other _
  | false => rw [record_of_not_contains h]

/-- Recording tells whether the channel is selected. -/
theorem snd_record (set : Channels α) (channel : String) (batch : List (Sample α)) :
    (set.record channel batch).2 = set.contains channel := by
  cases h : set.contains channel with
  | true => rw [record_of_contains h]
  | false => rw [record_of_not_contains h]

/-- **Batches for two channels may change places.** -/
theorem record_comm (set : Channels α) {one other : String} (h : one ≠ other)
    (batch late : List (Sample α)) :
    ((set.record one batch).1.record other late).1
      = ((set.record other late).1.record one batch).1 := by
  cases hone : set.contains one with
  | false =>
    rw [record_of_not_contains hone,
      record_of_not_contains ((set.contains_record other one late).trans hone)]
  | true =>
    cases hother : set.contains other with
    | false =>
      rw [record_of_not_contains hother,
        record_of_not_contains ((set.contains_record one other batch).trans hother)]
    | true =>
      -- both find the window anew, and the later of them finds it from the same rings
      rw [record_of_contains ((set.contains_record one other batch).trans hother),
        record_of_contains ((set.contains_record other one late).trans hone),
        record_of_contains hone, record_of_contains hother]
      simp only [ByName.modify_comm set.plotted h]

end Channels

namespace Tab

/-- A tab with more samples in the ring of a channel, if the channel is selected. -/
def recorded (channel : String) (batch : List (Sample Float)) (tab : Tab) : Tab :=
  { tab with
    channels := (tab.channels.record channel batch).1
    dirty := tab.dirty || tab.channels.contains channel }

theorem recorded_comm (tab : Tab) {one other : String} (h : one ≠ other)
    (batch late : List (Sample Float)) :
    (tab.recorded one batch).recorded other late
      = (tab.recorded other late).recorded one batch := by
  simp only [recorded, tab.channels.record_comm h batch late, Channels.contains_record,
    Bool.or_right_comm]

end Tab

/-! ### Batches for a registry -/

namespace Registry

/-- Recording replaces the one tab. -/
theorem fst_record (registry : Registry) (name channel : String) (batch : List (Sample Float)) :
    (registry.record name channel batch).1
      = { registry with tabs := registry.tabs.modify name (Tab.recorded channel batch) } := by
  rcases htab : registry.tabs.find? name with - | tab
  · rw [record_of_none htab, ByName.modify, htab]
  · rw [record_of_some htab, ByName.modify, htab, Channels.snd_record]
    rfl

/-- **Batches for two channels may change places**, be they of one tab or of two. -/
theorem record_comm (registry : Registry) {tab channel otherTab otherChannel : String}
    (h : (tab, channel) ≠ (otherTab, otherChannel)) (batch late : List (Sample Float)) :
    ((registry.record tab channel batch).1.record otherTab otherChannel late).1
      = ((registry.record otherTab otherChannel late).1.record tab channel batch).1 := by
  simp only [fst_record]
  by_cases htab : tab = otherTab
  · subst htab
    have hchannel : channel ≠ otherChannel := fun heq => h (Prod.ext rfl heq)
    rw [ByName.modify_modify, ByName.modify_modify]
    congr 2
    exact funext fun found => found.recorded_comm hchannel batch late
  · rw [ByName.modify_comm registry.tabs htab]

/-- Samples that have come in for one channel of a tab. -/
structure Batch where
  /-- The name of the tab. -/
  tab : String
  /-- The name of the channel. -/
  channel : String
  /-- The samples, in order; there may be none. -/
  samples : List (Sample Float)

namespace Batch

/-- What the samples are for. -/
def stream (batch : Batch) : String × String :=
  (batch.tab, batch.channel)

/-- The request to take them in. -/
def request (batch : Batch) : Request :=
  .record batch.tab batch.channel batch.samples

/-- The answer to it, from a registry where the channel is selected or not. -/
def answer (registry : Registry) (batch : Batch) : Answer :=
  .recorded (registry.ring? batch.tab batch.channel).isSome

end Batch

/-- The registry after one more batch. -/
def take (registry : Registry) (batch : Batch) : Registry :=
  (registry.record batch.tab batch.channel batch.samples).1

theorem after_batches (registry : Registry) (batches : List Batch) :
    registry.after (batches.map Batch.request) = batches.foldl take registry := by
  induction batches generalizing registry with
  | nil => rfl
  | cons batch rest ih => exact ih (registry.take batch)

/-- Taking in samples makes no ring, and takes none away. -/
theorem isSome_ring?_take (registry : Registry) (batch : Batch) (tab channel : String) :
    ((registry.take batch).ring? tab channel).isSome = (registry.ring? tab channel).isSome := by
  rw [take, ring?_record]
  split
  · exact Option.isSome_map
  · rfl

/-- **Whether a batch goes into a ring is settled beforehand**: it is answered by the registry
before the row just as by the one that has taken in the batches ahead of it. -/
theorem answers_batches (registry : Registry) (batches : List Batch) :
    registry.answers (batches.map Batch.request) = batches.map (Batch.answer registry) := by
  induction batches generalizing registry with
  | nil => rfl
  | cons batch rest ih =>
    have hfirst : (registry.serve batch.request).2 = [batch.answer registry] :=
      congrArg (fun was => [Answer.recorded was]) (registry.snd_record ..)
    have hrest : rest.map (Batch.answer (registry.take batch)) = rest.map (Batch.answer registry) :=
      List.map_congr_left fun other _ =>
        congrArg Answer.recorded (registry.isSome_ring?_take batch other.tab other.channel)
    calc registry.answers ((batch :: rest).map Batch.request)
        = (registry.serve batch.request).2
            ++ (registry.take batch).answers (rest.map Batch.request) := rfl
      _ = (batch :: rest).map (Batch.answer registry) := by
          rw [hfirst, ih, hrest, List.map_cons, List.singleton_append]

/-- Batches together with the answers to them. -/
def exchanges (registry : Registry) (batches : List Batch) : List (Batch × Answer) :=
  batches.zip (registry.answers (batches.map Batch.request))

theorem filter_exchanges (registry : Registry) (batches : List Batch) (stream : String × String) :
    (registry.exchanges batches).filter (·.1.stream = stream)
      = (batches.filter (·.stream = stream)).map fun batch => (batch, batch.answer registry) := by
  have hanswers : registry.exchanges batches
      = batches.map fun batch => (batch, batch.answer registry) := by
    rw [exchanges, answers_batches, List.map_prod_left_eq_zip]
  rw [hanswers, List.filter_map]
  rfl

/-- **It makes no difference how streams of samples are woven together.** Take two rows of
batches that have the batches for each channel of each tab in the same order, whether there is
such a tab and the channel is selected or not. Both leave the same registry behind, with every
ring, window, capacity and mark, and so the same pictures to be taken. In both every batch is
answered by whether there is a ring for it, so that the batches of a stream get the same answers
one by one. -/
theorem after_of_sameStreams (registry : Registry) {first second : List Batch}
    (h : SameThreads Batch.stream first second) :
    registry.after (first.map Batch.request) = registry.after (second.map Batch.request) ∧
      registry.answers (first.map Batch.request) = first.map (Batch.answer registry) ∧
      registry.answers (second.map Batch.request) = second.map (Batch.answer registry) ∧
      (∀ stream, (registry.exchanges first).filter (·.1.stream = stream)
        = (registry.exchanges second).filter (·.1.stream = stream)) ∧
      (registry.after (first.map Batch.request)).takePictures
        = (registry.after (second.map Batch.request)).takePictures := by
  have hafter : registry.after (first.map Batch.request)
      = registry.after (second.map Batch.request) := by
    rw [after_batches, after_batches]
    exact foldl_eq_of_sameThreads
      (fun now _ _ hstream => now.record_comm hstream _ _) h registry
  have hstream (stream : String × String) :
      (registry.exchanges first).filter (·.1.stream = stream)
        = (registry.exchanges second).filter (·.1.stream = stream) := by
    rw [filter_exchanges, filter_exchanges, h stream]
  exact ⟨hafter, registry.answers_batches first, registry.answers_batches second, hstream,
    congrArg takePictures hafter⟩

/-- Readings of two channels and some for a tab that is not there, in two orders. -/
theorem after_of_sameStreams_twoPlots :
    ∃ registry, ofConfig? onePlot ⟨0⟩ = .ok registry ∧
      let now := registry.after [.fulfil (.selecting "power" "amps" true)]
      let volts : Batch := ⟨"power", "volts", [⟨10.0, 1.0⟩, ⟨20.0, 4.0⟩]⟩
      let more : Batch := ⟨"power", "volts", [⟨30.0, 6.0⟩]⟩
      let amps : Batch := ⟨"power", "amps", [⟨1.0, 2.0⟩]⟩
      let nothing : Batch := ⟨"power", "amps", []⟩
      let stray : Batch := ⟨"thermal", "case", [⟨40.0, 3.0⟩]⟩
      let first := [volts, amps, stray, more, nothing]
      let second := [amps, volts, nothing, more, stray]
      now.after (first.map Batch.request) = now.after (second.map Batch.request) ∧
        now.exchanges first = [(volts, .recorded true), (amps, .recorded true),
          (stray, .recorded false), (more, .recorded true), (nothing, .recorded true)] := by
  refine ⟨_, show ofConfig? onePlot ⟨0⟩ = .ok _ from rfl, ?_⟩
  intro now volts more amps nothing stray first second
  refine ⟨(now.after_of_sameStreams (SameThreads.of_mem ?_)).1, ?_⟩
  · iterate 10 refine List.forall_mem_cons.2 ⟨rfl, ?_⟩
    exact List.forall_mem_nil _
  · rw [exchanges, answers_batches]
    rfl

end Registry

end StripChart
