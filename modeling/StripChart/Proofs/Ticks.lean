import StripChart.Proofs.Publishing

/-!
# It does not matter when ticks come

At a tick a session publishes what has changed. The snapshot that others read follows the
tabs from tick to tick, and where the ticks fall between delivery units and commands is a
matter of chance. What is said here is that this chance decides nothing: at every moment
of a run the snapshot is in step with the tabs, and the one that a run leaves behind at
its end is the same for every choice of ticks (`Session.snapshot_of_run`).

A tick does nothing to a session but to take pictures, and so leaves it alike up to its
snapshot (`Session.Alike`). Sessions that are alike stay so at every event
(`Session.Alike.step`); so two runs that differ in ticks only lead to the same tabs, and
at their end, where pictures are taken a last time, to the same pictures.
-/

namespace StripChart

namespace Session

variable {session one other another : Session}

/-! ### Sessions that are alike -/

/-- **Sessions that are alike**: they differ in nothing but their snapshots and which of
their tabs are dirty. -/
structure Alike (one other : Session) : Prop where
  /-- The engines are alike. -/
  engine_alike : one.engine.Alike other.engine
  /-- Both are over in the same way, or neither is over. -/
  outcome_eq : one.outcome = other.outcome

namespace Alike

theorem refl (session : Session) : session.Alike session :=
  ⟨⟨rfl, rfl⟩, rfl⟩

theorem symm (h : one.Alike other) : other.Alike one :=
  ⟨⟨h.engine_alike.endpoint_eq.symm, h.engine_alike.registry_alike.symm⟩, h.outcome_eq.symm⟩

theorem trans (h : one.Alike other) (h' : other.Alike another) : one.Alike another :=
  ⟨⟨h.engine_alike.endpoint_eq.trans h'.engine_alike.endpoint_eq,
    h.engine_alike.registry_alike.trans h'.engine_alike.registry_alike⟩,
    h.outcome_eq.trans h'.outcome_eq⟩

/-- **Publishing leaves a session alike.** -/
theorem publish (session : Session) : session.Alike session.publish.1 where
  engine_alike := by
    rw [engine_publish]
    exact ⟨rfl, session.registry.alike_clean⟩
  outcome_eq := session.outcome_publish.symm

theorem isRunning_eq (h : one.Alike other) : one.isRunning = other.isRunning := by
  rw [isRunning, isRunning, connection, connection, h.outcome_eq, h.engine_alike.endpoint_eq]

theorem withEngine (h : one.Alike other) {engine engine' : Engine}
    (hengine : engine.Alike engine') :
    Alike { one with engine } { other with engine := engine' } :=
  ⟨hengine, h.outcome_eq⟩

theorem withEndpoint (h : one.Alike other) (endpoint : Endpoint) :
    (one.withEndpoint endpoint).Alike (other.withEndpoint endpoint) :=
  ⟨⟨rfl, h.engine_alike.registry_alike⟩, h.outcome_eq⟩

theorem withRegistry (h : one.Alike other) {registry registry' : Registry}
    (hregistry : registry.Alike registry') :
    (one.withRegistry registry).Alike (other.withRegistry registry') :=
  ⟨⟨h.engine_alike.endpoint_eq, hregistry⟩, h.outcome_eq⟩

/-- Sessions that are alike come to their ends alike. -/
theorem conclude (h : one.Alike other) (outcome : Except Failure Ending) :
    (one.conclude outcome).1.Alike (other.conclude outcome).1 := by
  have hpublish := ((Alike.publish one).symm.trans h).trans (Alike.publish other)
  refine ⟨⟨?_, hpublish.engine_alike.registry_alike⟩, rfl⟩
  -- closing looks at nothing but the endpoint
  show (one.publish.1.engine.endpoint.hungUp (reasonOf outcome)).1
    = (other.publish.1.engine.endpoint.hungUp (reasonOf outcome)).1
  rw [hpublish.engine_alike.endpoint_eq]

theorem deliver (h : one.Alike other) (sendFault : Option String) (unit : Bytes) :
    (one.deliver sendFault unit).1.Alike (other.deliver sendFault unit).1 := by
  cases sendFault with
  | none => exact h
  | some reason => exact h.conclude _

/-! ### Events -/

theorem receive (h : one.Alike other) (sendFault : Option String) (unit : Bytes) :
    (one.receive sendFault unit).1.Alike (other.receive sendFault unit).1 := by
  obtain ⟨hengine, hsaid⟩ := h.engine_alike.receive unit
  have hafter := h.withEngine hengine
  rw [receive_fst, receive_fst, hsaid]
  split
  · exact hafter.conclude _
  · split
    · exact hafter
    · exact hafter.deliver sendFault _

theorem execute (h : one.Alike other) (sendFault : Option String) (command : Command) :
    (one.execute sendFault command).1.Alike (other.execute sendFault command).1 := by
  have hregistry := h.engine_alike.registry_alike
  cases command with
  | change request =>
    exact h.withRegistry (hregistry.of_blind (Registry.blind_fulfil request)).1
  | resize tab capacity =>
    exact h.withRegistry (hregistry.of_blind (Registry.blind_resize tab capacity)).1
  | zoom tab grow =>
    exact h.withRegistry (hregistry.of_blind (Registry.blind_zoom tab grow)).1
  | discard tab =>
    obtain ⟨hremoved, hwas⟩ := hregistry.of_blind (Registry.blind_remove tab)
    have hafter := h.withRegistry hremoved
    simp only [Session.execute]
    rw [show (one.registry.remove tab).2 = (other.registry.remove tab).2 from hwas]
    split
    · exact ⟨hafter.engine_alike, hafter.outcome_eq⟩
    · exact hafter
  | send message =>
    simp only [Session.execute]
    rw [h.engine_alike.endpoint_eq]
    split
    · exact (h.withEndpoint _).deliver sendFault _
    · exact h
  | stop => exact h.conclude _

theorem finish (h : one.Alike other) : one.finish.1.Alike other.finish.1 := by
  simp only [Session.finish]
  rw [h.engine_alike.endpoint_eq]
  split
  · exact (h.withEndpoint _).conclude _
  · exact (h.withEndpoint _).conclude _

/-- **At every event sessions that are alike stay alike.** -/
theorem step (h : one.Alike other) (sendFault : Option String) (event : Event) :
    (one.step sendFault event).1.Alike (other.step sendFault event).1 := by
  unfold Session.step
  rw [h.isRunning_eq]
  split
  · cases event with
    | unit bytes => exact h.receive sendFault bytes
    | failed reason => exact h.conclude _
    | ended => exact h.finish
    | command command => exact h.execute sendFault command
    | abandoned => exact h.execute sendFault .stop
    | tick => exact ((Alike.publish one).symm.trans h).trans (Alike.publish other)
  · exact h

/-- A tick leaves a session alike. -/
theorem step_tick (session : Session) (sendFault : Option String) :
    session.Alike (session.step sendFault .tick).1 := by
  rw [Session.step]
  split
  · exact Alike.publish session
  · exact Alike.refl session

end Alike

/-! ### Runs -/

/-- Whether an event is a tick. -/
def Event.isTick : Event → Bool
  | .tick => true
  | _ => false

/-- The events of a run without the ticks. -/
def withoutTicks (events : List (Event × Option String)) : List (Event × Option String) :=
  events.filter fun entry => !entry.1.isTick

/-- **A run without its ticks leads to a session that is alike.** -/
theorem Alike.run_withoutTicks (h : one.Alike other) (events : List (Event × Option String)) :
    (one.run events).1.Alike (other.run (withoutTicks events)).1 := by
  induction events generalizing one other with
  | nil => exact h
  | cons entry rest ih =>
    obtain ⟨event, sendFault⟩ := entry
    rw [withoutTicks, run_cons, List.filter_cons]
    split
    · exact ih (h.step sendFault event)
    · rename_i htick
      have hevent : event = .tick := by
        cases event with
        | tick => rfl
        | _ => exact absurd rfl htick
      rw [hevent]
      exact ih ((Alike.step_tick one sendFault).symm.trans h)

/-- **Runs that differ in ticks only** lead to sessions that are alike: both are like the
one without ticks. -/
theorem alike_run (session : Session) {events events' : List (Event × Option String)}
    (h : withoutTicks events = withoutTicks events') :
    (session.run events).1.Alike (session.run events').1 := by
  have hone := (Alike.refl session).run_withoutTicks events
  have hother := (Alike.refl session).run_withoutTicks events'
  rw [h] at hone
  exact hone.trans hother.symm

/-- Sessions that are alike, with snapshots of their tabs, have the same snapshots up to
the generation. -/
theorem Alike.snapshot_eq (h : one.Alike other) (hone : one.Published)
    (hother : other.Published) :
    one.snapshot.pictures = other.snapshot.pictures ∧
      one.snapshot.shown = other.snapshot.shown := by
  have hregistry : one.registry.clean = other.registry.clean := h.engine_alike.registry_alike
  constructor
  · refine ByName.ext_find? fun name => ?_
    rw [hone.pictures, hother.pictures, ← Registry.picture?_clean, hregistry,
      Registry.picture?_clean]
  · rw [hone.shown, hother.shown]
    show one.registry.clean.shown = other.registry.clean.shown
    rw [hregistry]

/-- **The snapshot is that of the tabs, and chance has no part in it.** Take any session of
a config that has been opened, with any handlers, and let any events happen to it. Then:

* Tabs and pictures are always in step. Publishing makes the snapshot that of the tabs: it
  is so when the session is opened, after every tick, and once it is over. A tab that is
  taken away is gone from the snapshot at once.
* To begin with the snapshot is empty. From there to what is published when the session is
  opened, and from then on at every event, the generation never decreases, and increases
  whenever the snapshot changes.
* Two runs whose events differ in ticks only end in the same way if they end, and leave
  the same pictures and the same tab on the screen. -/
theorem snapshot_of_run {config : Config} {palette : Palette} {fresh : Session}
    (hnew : new? config palette = .ok fresh) (handlers : List (String × Handler)) (url : String) :
    let opened := ((fresh.withHandlers handlers).start url (.ok ())).1
    opened.isRunning = true ∧ opened.Published ∧
      (fresh.snapshot = {} ∧ fresh.snapshot.generation ≤ opened.snapshot.generation ∧
        (fresh.snapshot.pictures ≠ opened.snapshot.pictures ∨
            fresh.snapshot.shown ≠ opened.snapshot.shown →
          fresh.snapshot.generation < opened.snapshot.generation)) ∧
      (∀ events,
        let now := (opened.run events).1
        now.IsInStep ∧ now.publish.1.Published ∧ (now.outcome.isSome = true → now.Published) ∧
          (now.isRunning = true → ∀ sendFault,
            (now.step sendFault .tick).1.Published ∧
              ∀ tab,
                let after := (now.step sendFault (.command (.discard tab))).1
                after.registry.tabs.find? tab = none ∧
                  after.snapshot.pictures.find? tab = none)) ∧
      (∀ events later,
        let one := (opened.run events).1.snapshot
        let other := (opened.run (events ++ later)).1.snapshot
        one.generation ≤ other.generation ∧
          (one.pictures ≠ other.pictures ∨ one.shown ≠ other.shown →
            one.generation < other.generation)) ∧
      (∀ events events', withoutTicks events = withoutTicks events' →
        let one := (opened.run events).1
        let other := (opened.run events').1
        one.outcome = other.outcome ∧
          (one.outcome.isSome = true →
            one.snapshot.pictures = other.snapshot.pictures ∧
              one.snapshot.shown = other.snapshot.shown)) := by
  intro opened
  have hempty : fresh.snapshot = {} := (isFresh_of_new? hnew).snapshot_eq
  have hfresh := (isFresh_of_new? hnew).withHandlers handlers
  obtain ⟨hrunning, hpublished⟩ := hfresh.start url
  have hfirst : fresh.snapshot.Before opened.snapshot := by
    rw [hempty, ← hfresh.snapshot_eq]
    exact hfresh.before_start url
  have hsettled : opened.IsSettled := ⟨hpublished.isInStep, fun _ => hpublished⟩
  refine ⟨hrunning, hpublished, ⟨hempty, hfirst.generation_le, hfirst.generation_lt⟩,
    fun events => ?_, fun events later => ?_, fun events events' hevents => ?_⟩
  · obtain ⟨hinstep, hover⟩ := hsettled.run events
    refine ⟨hinstep, hinstep.published_publish, hover, fun hnow sendFault => ⟨?_, fun tab => ?_⟩⟩
    · rw [Session.step, if_pos hnow]
      exact hinstep.published_publish
    · exact hinstep.find?_discard hnow sendFault tab
  · intro one other
    have hbefore : one.Before other := by
      show Snapshot.Before _ (opened.run (events ++ later)).1.snapshot
      rw [run_append]
      exact before_run _ later
    exact ⟨hbefore.generation_le, hbefore.generation_lt⟩
  · intro one other
    have halike : one.Alike other := opened.alike_run hevents
    refine ⟨halike.outcome_eq, fun hover => ?_⟩
    have hover' : other.outcome.isSome = true := halike.outcome_eq ▸ hover
    exact halike.snapshot_eq ((hsettled.run events).2 hover) ((hsettled.run events').2 hover')

/-- A config with two tabs, of which the first is on the screen. -/
def twoTabs : Config where
  tabs := [⟨"a", ["x"], none, true⟩, ⟨"b", [], none, false⟩]

/-- A tab is taken away and made again before the session is stopped, with ticks between
and without any. -/
theorem snapshot_of_run_twoTabs :
    ∃ fresh, new? twoTabs ⟨0⟩ = .ok fresh ∧
      let opened := ((fresh.withHandlers []).start "tcp://server" (.ok ())).1
      let ticked := (opened.run
        [(.command (.discard "a"), none), (.tick, none), (.command (.resize "a" 3), none),
          (.tick, none), (.command .stop, none)]).1
      let unticked := (opened.run
        [(.command (.discard "a"), none), (.command (.resize "a" 3), none),
          (.command .stop, none)]).1
      opened.Published ∧ fresh.snapshot.generation < opened.snapshot.generation ∧
        ticked.outcome.isSome = true ∧
        ticked.snapshot.pictures = unticked.snapshot.pictures ∧
        ticked.snapshot.pictures.names = ["a", "b"] ∧
        ticked.snapshot.generation = 3 ∧ unticked.snapshot.generation = 3 := by
  refine ⟨_, rfl, ?_⟩
  obtain ⟨-, hpublished, ⟨-, -, hfirst⟩, -, -, hticks⟩ :=
    snapshot_of_run (show new? twoTabs ⟨0⟩ = .ok _ from rfl) [] "tcp://server"
  intro opened ticked unticked
  obtain ⟨-, hpictures⟩ := hticks
    [(.command (.discard "a"), none), (.tick, none), (.command (.resize "a" 3), none),
      (.tick, none), (.command .stop, none)]
    [(.command (.discard "a"), none), (.command (.resize "a" 3), none),
      (.command .stop, none)] rfl
  have hover : ticked.outcome.isSome = true := by decide +kernel
  exact ⟨hpublished, hfirst (.inr (by decide)), hover, (hpictures hover).1, by decide +kernel,
    by decide +kernel, by decide +kernel⟩

end Session

end StripChart
