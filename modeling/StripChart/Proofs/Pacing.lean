import Mathlib.Data.List.Chain
import Mathlib.Data.List.Induction
import StripChart.Machine
import StripChart.Painter
import StripChart.Summary

/-!
# How messages about frames are paced

A painter offers the server a message about a frame only if the last one that was queued is a
least time ago. What is a long time depends on the clock, which may stand still or run back, on
the least time, which may be changed between any two frames, and on the queue, which may take
the message or refuse it. This file follows a painter through all of that (`Painter.paced`).

What carries it is what the pacing remembers: not the last attempt but the last message that
was *queued* (`Painter.pacing_run`). A refusal therefore leaves no trace, and the next frame
finds the pacing as the refused one found it; and of two messages queued one after the other,
the later was offered because it was due after the earlier.

Drawing comes before all this and sees nothing of it (`Painter.DrawsLike.run`).
-/

namespace StripChart

/-- It is time for a message if none was queued, or if the last was a least time ago. -/
theorem Pacing.isDue_iff {pacing : Pacing} {now : Nat} :
    pacing.isDue now = true ↔ ∀ last, pacing.last = some last → pacing.period ≤ now - last := by
  rw [Pacing.isDue]
  cases pacing.last with
  | none => exact iff_of_true rfl fun last h => absurd h.symm (Option.some_ne_none last)
  | some earlier =>
    rw [decide_eq_true_iff]
    exact ⟨fun h last hlast => Option.some.inj hlast ▸ h, fun h => h earlier rfl⟩

namespace Painter

/-! ### Frames and least times in a row -/

/-- What is done with a painter. -/
inductive Event
  /-- A frame is painted from a snapshot at a time, and this is the answer if a message about
  it is offered. -/
  | paint (snapshot : Snapshot) (now : Nat) (answer : Except Refusal Unit)
  /-- Another least time is set. -/
  | setPeriod (period : Nat)

namespace Event

/-- The snapshot that is painted from. -/
def snapshot? : Event → Option Snapshot
  | .paint snapshot _ _ => some snapshot
  | .setPeriod _ => none

/-- The least time that is set. -/
def period? : Event → Option Nat
  | .paint _ _ _ => none
  | .setPeriod period => some period

end Event

/-- What was seen of a frame. -/
structure Report where
  /-- When it was painted. -/
  now : Nat
  /-- The messages that were offered. -/
  offered : List Command
  /-- The answer to them. -/
  answer : Except Refusal Unit
  /-- Whether there was a tab to draw. -/
  drawn : Bool
  /-- What there was to tell. -/
  lines : List LogLine

/-- When a message about the frame was queued, if one was. -/
def Report.queuedAt? (report : Report) : Option Nat :=
  match report.offered, report.answer with
  | _ :: _, .ok () => some report.now
  | _, _ => none

variable {ρ : Type}

/-- The times at which messages were queued: the last one before, and those in a row of
reports. -/
def queued (painter : Painter ρ) (reports : List Report) : List Nat :=
  painter.pacing.last.toList ++ reports.filterMap Report.queuedAt?

/-- The least time in force after a row of events. -/
def periodAfter (painter : Painter ρ) (events : List Event) : Nat :=
  (events.filterMap Event.period?).getLast?.getD painter.pacing.period

theorem getLast?_queued (painter : Painter ρ) (reports : List Report) :
    (painter.queued reports).getLast?
      = (reports.filterMap Report.queuedAt?).getLast?.or painter.pacing.last := by
  rw [queued, List.getLast?_append]
  cases painter.pacing.last <;> rfl

/-- Without another least time, that of the beginning is in force. -/
theorem periodAfter_of_forall {painter : Painter ρ} {events : List Event}
    (h : ∀ period, .setPeriod period ∈ events → period = painter.pacing.period) :
    painter.periodAfter events = painter.pacing.period := by
  rw [periodAfter]
  cases hlast : (events.filterMap Event.period?).getLast? with
  | none => rfl
  | some period =>
    obtain ⟨event, hmem, hevent⟩ := List.mem_filterMap.1 (List.mem_of_getLast? hlast)
    cases event with
    | paint snapshot now answer => exact absurd hevent.symm (Option.some_ne_none period)
    | setPeriod other => exact Option.some.inj hevent ▸ h other hmem

variable [Renderer ρ]

/-- Does one thing with a painter. The messages that it offers are put down. -/
def step (painter : Painter ρ) : Event → Painter ρ × List Report
  | .paint snapshot now answer =>
    let (offered, painter, drawn, lines) :=
      painter.paint snapshot now (fun offered message => (offered ++ [message], answer)) []
    (painter, [⟨now, offered, answer, drawn, lines⟩])
  | .setPeriod period => (painter.setPeriod period, [])

/-! ### One frame -/

theorem pacing_draw (painter : Painter ρ) (snapshot : Snapshot) :
    (painter.draw snapshot).1.pacing = painter.pacing ∧
      (painter.draw snapshot).1.started = painter.started := by
  rw [draw]
  split <;> exact ⟨rfl, rfl⟩

/-- **What painting a frame comes to**, whatever its message goes through: the tab is drawn, a
message is offered if it is due, and if it is queued then this is remembered. -/
theorem paint_eq {σ : Type} (painter : Painter ρ) (snapshot : Snapshot) (now : Nat)
    (request : σ → Command → σ × Except Refusal Unit) (state : σ) :
    painter.paint snapshot now request state
      = if painter.pacing.isDue now then
          let answered := request state (.tellDrawn (milliseconds (now - painter.started)))
          (answered.1,
            { (painter.draw snapshot).1 with pacing := painter.pacing.attempted now answered.2 },
            (painter.draw snapshot).2)
        else (state, painter.draw snapshot) := by
  obtain ⟨hpacing, hstarted⟩ := painter.pacing_draw snapshot
  rw [paint]
  simp only [message?, hpacing, hstarted]
  cases painter.pacing.isDue now with
  | true => simp only [if_true, attempted, hpacing, hstarted]
  | false => simp only [Bool.false_eq_true, if_false]

/-- A frame of a row, when a message is due. -/
theorem step_paint_of_isDue {painter : Painter ρ} {now : Nat}
    (h : painter.pacing.isDue now = true) (snapshot : Snapshot) (answer : Except Refusal Unit) :
    painter.step (.paint snapshot now answer)
      = ({ (painter.draw snapshot).1 with pacing := painter.pacing.attempted now answer },
          [⟨now, [.tellDrawn (milliseconds (now - painter.started))], answer,
            (painter.draw snapshot).2.1, (painter.draw snapshot).2.2⟩]) := by
  rw [step, paint_eq, if_pos h]
  rfl

/-- A frame of a row, when none is due. -/
theorem step_paint_of_not_isDue {painter : Painter ρ} {now : Nat}
    (h : ¬painter.pacing.isDue now = true) (snapshot : Snapshot) (answer : Except Refusal Unit) :
    painter.step (.paint snapshot now answer)
      = ((painter.draw snapshot).1,
          [⟨now, [], answer, (painter.draw snapshot).2.1, (painter.draw snapshot).2.2⟩]) := by
  rw [step, paint_eq, if_neg h]

/-- **A row of events leaves nothing out**: a frame whose message goes through anything at all
is one of a row, with the answer that its message gets. -/
theorem paint_eq_step {σ : Type} (painter : Painter ρ) (snapshot : Snapshot) (now : Nat)
    (request : σ → Command → σ × Except Refusal Unit) (state : σ) :
    ∃ answer report, (painter.step (.paint snapshot now answer)
        = ((painter.paint snapshot now request state).2.1, [report])) ∧
      (∀ message ∈ report.offered, answer = (request state message).2) ∧
      (painter.paint snapshot now request state).1
        = report.offered.foldl (fun state message => (request state message).1) state ∧
      (painter.paint snapshot now request state).2.2 = (report.drawn, report.lines) := by
  rw [paint_eq]
  by_cases hdue : painter.pacing.isDue now = true
  · rw [if_pos hdue]
    exact ⟨_, _, step_paint_of_isDue hdue snapshot _,
      fun message hmem => by rw [List.mem_singleton.1 hmem], rfl, rfl⟩
  · rw [if_neg hdue]
    exact ⟨.ok (), _, step_paint_of_not_isDue hdue snapshot _,
      fun message hmem => absurd hmem List.not_mem_nil, rfl, rfl⟩

/-! ### What is remembered -/

section Remembered

variable (painter : Painter ρ)

/-- A frame is remembered if its message was queued, and a least time when it was set. -/
theorem pacing_step (event : Event) :
    (painter.step event).1.pacing
        = { period := event.period?.getD painter.pacing.period
            last := ((painter.step event).2.filterMap Report.queuedAt?).getLast?.or
              painter.pacing.last } ∧
      (painter.step event).1.started = painter.started := by
  cases event with
  | setPeriod period => exact ⟨rfl, rfl⟩
  | paint snapshot now answer =>
    obtain ⟨hpacing, hstarted⟩ := painter.pacing_draw snapshot
    by_cases hdue : painter.pacing.isDue now = true
    · rw [step_paint_of_isDue hdue]
      cases answer <;> exact ⟨rfl, hstarted⟩
    · rw [step_paint_of_not_isDue hdue]
      exact ⟨hpacing, hstarted⟩

/-- **What a painter remembers of a row of events** is the last time at which a message was
queued, and the last least time that was set. -/
theorem pacing_run (events : List Event) :
    (Machine.run step painter events).1.pacing
        = { period := painter.periodAfter events
            last := (painter.queued (Machine.run step painter events).2).getLast? } ∧
      (Machine.run step painter events).1.started = painter.started := by
  rw [getLast?_queued, periodAfter]
  induction events generalizing painter with
  | nil => exact ⟨rfl, rfl⟩
  | cons event rest ih =>
    obtain ⟨hpacing, hstarted⟩ := painter.pacing_step event
    obtain ⟨hpacing', hstarted'⟩ := ih (painter.step event).1
    rw [Machine.run_cons]
    refine ⟨?_, hstarted'.trans hstarted⟩
    show (Machine.run step (painter.step event).1 rest).1.pacing = _
    rw [hpacing', hpacing, List.filterMap_append, List.getLast?_append, Option.or_assoc]
    cases hperiod : event.period? with
    | none => rw [List.filterMap_cons_none hperiod, Option.getD_none]
    | some period =>
      rw [List.filterMap_cons_some hperiod, List.getLast?_cons]
      cases (rest.filterMap Event.period?).getLast? <;> rfl

end Remembered

/-! ### Messages that are queued -/

/-- A message about a frame is offered. -/
def Attempts (painter : Painter ρ) (event : Event) : Prop :=
  ∃ report ∈ (painter.step event).2, report.offered ≠ []

theorem attempts_paint_iff {painter : Painter ρ} {snapshot : Snapshot} {now : Nat}
    {answer : Except Refusal Unit} :
    painter.Attempts (.paint snapshot now answer) ↔ painter.pacing.isDue now = true := by
  rw [Attempts]
  by_cases hdue : painter.pacing.isDue now = true
  · rw [step_paint_of_isDue hdue]
    exact iff_of_true ⟨_, List.mem_singleton.2 rfl, List.cons_ne_nil _ _⟩ hdue
  · rw [step_paint_of_not_isDue hdue]
    refine iff_of_false ?_ hdue
    rintro ⟨report, hmem, hoffered⟩
    rw [List.mem_singleton.1 hmem] at hoffered
    exact hoffered rfl

/-- An event has at most one message queued, and only one that is due. -/
theorem queuedAt?_step (painter : Painter ρ) (event : Event) :
    (painter.step event).2.filterMap Report.queuedAt? = [] ∨
      ∃ now, (painter.step event).2.filterMap Report.queuedAt? = [now] ∧
        painter.pacing.isDue now = true := by
  cases event with
  | setPeriod period => exact Or.inl rfl
  | paint snapshot now answer =>
    by_cases hdue : painter.pacing.isDue now = true
    · rw [step_paint_of_isDue hdue]
      cases answer with
      | ok done => exact Or.inr ⟨now, rfl, hdue⟩
      | error refusal => exact Or.inl rfl
    · rw [step_paint_of_not_isDue hdue]
      exact Or.inl rfl

/-- **Messages that are queued one after the other are a least time apart**, as long as this is
the same. -/
theorem isChain_queued {painter : Painter ρ} {events : List Event}
    (h : ∀ period, .setPeriod period ∈ events → period = painter.pacing.period) :
    (painter.queued (Machine.run step painter events).2).IsChain
      fun earlier later => painter.pacing.period ≤ later - earlier := by
  induction events using List.reverseRecOn with
  | nil =>
    rw [Machine.run_nil, queued, List.filterMap_nil, List.append_nil]
    cases painter.pacing.last with
    | none => exact List.IsChain.nil
    | some last => exact List.IsChain.singleton last
  | append_singleton events event ih =>
    have hevents : ∀ period, .setPeriod period ∈ events → period = painter.pacing.period :=
      fun period hmem => h period (List.mem_append_left _ hmem)
    obtain ⟨hpacing, -⟩ := painter.pacing_run events
    rw [Machine.run_append]
    have hreports : (Machine.run step (Machine.run step painter events).1 [event]).2
        = ((Machine.run step painter events).1.step event).2 := List.append_nil _
    rw [hreports, queued, List.filterMap_append, ← List.append_assoc]
    refine List.isChain_append.2 ⟨ih hevents, ?_, ?_⟩
    · rcases queuedAt?_step (Machine.run step painter events).1 event with hnone | ⟨now, hnow, -⟩
      · rw [hnone]
        exact List.IsChain.nil
      · rw [hnow]
        exact List.IsChain.singleton now
    · intro earlier hearlier later hlater
      rcases queuedAt?_step (Machine.run step painter events).1 event with hnone | ⟨now, hnow, hdue⟩
      · rw [hnone] at hlater
        exact absurd hlater.symm (Option.some_ne_none later)
      · -- the message was due after the last one before it
        rw [hnow] at hlater
        rw [Pacing.isDue_iff, hpacing, periodAfter_of_forall hevents] at hdue
        exact Option.some.inj hlater ▸ hdue earlier hearlier

/-- Where nothing is painted there is nothing to report. -/
theorem run_of_quiet {events : List Event} (h : ∀ event ∈ events, event.snapshot? = none)
    (painter : Painter ρ) : (Machine.run step painter events).2 = [] := by
  induction events generalizing painter with
  | nil => rfl
  | cons event rest ih =>
    cases event with
    | paint snapshot now answer =>
      exact absurd (h _ List.mem_cons_self) (Option.some_ne_none snapshot)
    | setPeriod period => exact ih (fun other hmem => h other (List.mem_cons_of_mem _ hmem)) _

/-- **A refusal leaves no trace**: the frame behind it finds the pacing as the refused one found
it, but for the least time. -/
theorem pacing_run_of_refused (painter : Painter ρ) (snapshot : Snapshot) (now : Nat)
    (refusal : Refusal) {between : List Event} (h : ∀ event ∈ between, event.snapshot? = none) :
    (Machine.run step painter (.paint snapshot now (.error refusal) :: between)).1.pacing
      = { painter.pacing with period := painter.periodAfter between } := by
  have hrefused : (painter.step (.paint snapshot now (.error refusal))).1.pacing
      = painter.pacing := by
    by_cases hdue : painter.pacing.isDue now = true
    · rw [step_paint_of_isDue hdue]
      rfl
    · rw [step_paint_of_not_isDue hdue]
      exact (painter.pacing_draw snapshot).1
  obtain ⟨hpacing, -⟩ := (painter.step (.paint snapshot now (.error refusal))).1.pacing_run between
  rw [run_of_quiet h, getLast?_queued, periodAfter, hrefused] at hpacing
  exact hpacing

/-! ### What is drawn -/

/-- Draws from snapshots, one after the other, and does nothing else. -/
def drawAll (painter : Painter ρ) (snapshots : List Snapshot) :
    Painter ρ × List (Bool × List LogLine) :=
  Machine.run (fun painter snapshot => ((painter.draw snapshot).1, [(painter.draw snapshot).2]))
    painter snapshots

/-- Painters that draw with the same, and have drawn as much, draw alike. -/
structure DrawsLike (one other : Painter ρ) : Prop where
  /-- What draws is the same. -/
  renderer_eq : one.renderer = other.renderer
  /-- As many frames were drawn. -/
  painted_eq : one.painted = other.painted

theorem DrawsLike.draw {one other : Painter ρ} (h : one.DrawsLike other) (snapshot : Snapshot) :
    (one.draw snapshot).1.DrawsLike (other.draw snapshot).1 ∧
      (one.draw snapshot).2 = (other.draw snapshot).2 := by
  obtain ⟨hrenderer, hpainted⟩ := h
  rw [Painter.draw, Painter.draw]
  cases snapshot.shownPicture? with
  | none => exact ⟨⟨hrenderer, hpainted⟩, rfl⟩
  | some picture => exact ⟨⟨by rw [hrenderer], by rw [hpainted]⟩, by rw [hrenderer]⟩

/-- **Drawing comes before all else**: what is drawn in a row of events is what is drawn from its
snapshots alone. -/
theorem DrawsLike.run {one other : Painter ρ} (h : one.DrawsLike other) (events : List Event) :
    (Machine.run step one events).1.DrawsLike
        (other.drawAll (events.filterMap Event.snapshot?)).1 ∧
      (Machine.run step one events).2.map (fun report => (report.drawn, report.lines))
        = (other.drawAll (events.filterMap Event.snapshot?)).2 := by
  induction events generalizing one other with
  | nil => exact ⟨h, rfl⟩
  | cons event rest ih =>
    rw [Machine.run_cons]
    cases event with
    | setPeriod period =>
      exact ih (show (one.setPeriod period).DrawsLike other from ⟨h.renderer_eq, h.painted_eq⟩)
    | paint snapshot now answer =>
      obtain ⟨hlike, hsame⟩ := h.draw snapshot
      have hstep : (one.step (.paint snapshot now answer)).1.DrawsLike (other.draw snapshot).1 ∧
          (one.step (.paint snapshot now answer)).2.map
              (fun report => (report.drawn, report.lines)) = [(other.draw snapshot).2] := by
        rw [← hsame]
        by_cases hdue : one.pacing.isDue now = true
        · rw [step_paint_of_isDue hdue]
          exact ⟨⟨hlike.renderer_eq, hlike.painted_eq⟩, rfl⟩
        · rw [step_paint_of_not_isDue hdue]
          exact ⟨hlike, rfl⟩
      obtain ⟨hrest, hmore⟩ := ih hstep.1
      rw [List.filterMap_cons_some (show Event.snapshot? (.paint snapshot now answer)
        = some snapshot from rfl), drawAll, Machine.run_cons, List.map_append, hstep.2]
      exact ⟨hrest, congrArg _ hmore⟩

/-! ### The rate of messages -/

/-- **Messages about frames are paced, and a queue that is full delays none of them.** Take any
painter, and any row of frames and changes of the least time, the frames painted at any times
and with any answers to what is offered. Then, wherever the row has come to:

* painting one more frame offers a message, and but one, just if none was queued before or the
  time since the last that was queued is the least time in force now or more (where the clock
  has run back, no time has passed); it tells when the frame is painted;
* if the least time is never changed to another one, any two messages queued one after the other
  are it or more apart;
* if a message is refused, whatever the reason, then the next frame offers one as well, as long
  as the same least time is in force and the clock has not run back;
* drawing is not touched by any of this: whoever paints from the same snapshots with the same
  renderer draws the same, at whatever times, with whatever least times and whatever answers. -/
theorem paced (painter : Painter ρ) (events : List Event) :
    let reached := (Machine.run step painter events).1
    let reports := (Machine.run step painter events).2
    (∀ snapshot now answer,
      (reached.Attempts (.paint snapshot now answer) ↔
        ∀ last, (painter.queued reports).getLast? = some last →
          painter.periodAfter events ≤ now - last) ∧
      ∃ report, (reached.step (.paint snapshot now answer)).2 = [report] ∧ report.now = now ∧
        report.answer = answer ∧ ∀ message ∈ report.offered, report.offered = [message] ∧
          message = .tellDrawn (milliseconds (now - painter.started))) ∧
    ((∀ period, .setPeriod period ∈ events → period = painter.pacing.period) →
      (painter.queued reports).IsChain
        fun earlier later => painter.pacing.period ≤ later - earlier) ∧
    (∀ snapshot now refusal between next later answer,
      reached.Attempts (.paint snapshot now (.error refusal)) →
      (∀ event ∈ between, event.snapshot? = none) →
      reached.periodAfter between = reached.pacing.period → now ≤ later →
      (Machine.run step reached (.paint snapshot now (.error refusal) :: between)).1.Attempts
        (.paint next later answer)) ∧
    ∀ (other : Painter ρ) (row : List Event), painter.DrawsLike other →
      row.filterMap Event.snapshot? = events.filterMap Event.snapshot? →
      reached.DrawsLike (Machine.run step other row).1 ∧
        reports.map (fun report => (report.drawn, report.lines))
          = (Machine.run step other row).2.map fun report => (report.drawn, report.lines) := by
  intro reached reports
  obtain ⟨hpacing, hstarted⟩ := painter.pacing_run events
  refine ⟨fun snapshot now answer => ⟨?_, ?_⟩, isChain_queued, ?_, ?_⟩
  · rw [attempts_paint_iff, show reached.pacing = _ from hpacing]
    exact Pacing.isDue_iff
  · by_cases hdue : reached.pacing.isDue now = true
    · refine ⟨_, by rw [step_paint_of_isDue hdue], rfl, rfl, fun message hmem => ?_⟩
      rw [List.mem_singleton.1 hmem]
      exact ⟨rfl, by rw [show reached.started = _ from hstarted]⟩
    · exact ⟨_, by rw [step_paint_of_not_isDue hdue], rfl, rfl,
        fun message hmem => absurd hmem List.not_mem_nil⟩
  · intro snapshot now refusal between next later answer hattempts hquiet hperiod hlater
    rw [attempts_paint_iff, Pacing.isDue_iff] at hattempts ⊢
    rw [pacing_run_of_refused reached snapshot now refusal hquiet, hperiod]
    exact fun last hlast => (hattempts last hlast).trans (Nat.sub_le_sub_right hlater last)
  · intro other row hlike hrow
    obtain ⟨hthis, hlines⟩ := hlike.run events
    obtain ⟨hthat, hlines'⟩ := DrawsLike.run (⟨rfl, rfl⟩ : other.DrawsLike other) row
    rw [hrow] at hthat hlines'
    exact ⟨⟨hthis.renderer_eq.trans hthat.renderer_eq.symm,
      hthis.painted_eq.trans hthat.painted_eq.symm⟩, hlines.trans hlines'.symm⟩

/-- A painter with nothing to draw. -/
def idle : Painter Summary where
  renderer := Summary.new 1
  pacing := ⟨5, none⟩
  started := 0

/-- Six frames: the first is told of, the next two are too early, one of them on a clock that has
run back, the fourth is refused, the fifth is told of in its place, and the last is too early for
the fifth. -/
def sixFrames : List Event :=
  [.paint {} 10 (.ok ()), .paint {} 12 (.ok ()), .paint {} 3 (.ok ()), .setPeriod 5,
    .paint {} 17 (.error .noRoom), .paint {} 18 (.ok ()), .paint {} 22 (.ok ())]

theorem paced_sixFrames :
    idle.queued (Machine.run step idle sixFrames).2 = [10, 18] ∧
      [10, 18].IsChain (fun earlier later => 5 ≤ later - earlier) ∧
      ¬(Machine.run step idle sixFrames).1.Attempts (.paint {} 22 (.ok ())) ∧
      (Machine.run step idle (sixFrames.take 4)).1.Attempts (.paint {} 17 (.error .noRoom)) ∧
      (Machine.run step idle (sixFrames.take 5)).1.Attempts (.paint {} 18 (.ok ())) := by
  have hqueued : idle.queued (Machine.run step idle sixFrames).2 = [10, 18] := by decide +kernel
  obtain ⟨hnext, hchain, -, -⟩ := idle.paced sixFrames
  obtain ⟨hrefused, -, hagain, -⟩ := idle.paced (sixFrames.take 4)
  have hattempts : (Machine.run step idle (sixFrames.take 4)).1.Attempts
      (.paint {} 17 (.error .noRoom)) := by
    have hten : idle.queued (Machine.run step idle (sixFrames.take 4)).2 = [10] := by
      decide +kernel
    refine (hrefused {} 17 (.error .noRoom)).1.2 fun last hlast => ?_
    rw [hten] at hlast
    exact Option.some.inj hlast ▸ (by decide)
  refine ⟨hqueued, hqueued ▸ hchain fun period hmem => ?_, fun hearly => ?_, hattempts,
    hagain {} 17 .noRoom [] {} 18 (.ok ()) hattempts (List.forall_mem_nil _) rfl (by decide)⟩
  · simpa [sixFrames, idle] using hmem
  · have hlate := (hnext {} 22 (.ok ())).1.1 hearly 18 (by rw [hqueued]; rfl)
    exact absurd hlate (by decide)

end Painter

end StripChart
