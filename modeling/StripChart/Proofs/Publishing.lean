import StripChart.Proofs.Clean
import StripChart.Session

/-!
# The snapshot is that of the tabs

A session never draws its snapshot anew, but patches it: at a tick with pictures of the
tabs that have changed, and when a tab is taken away by dropping its picture. Still,
whenever something is published, the snapshot is that of the tabs as they are then
(`Session.Published`).

All that a session does at a step is one `Session.Move`, and after it perhaps to come to
its end (`Session.comes_step`). So only three things have to be looked at: a change of the
engine that marks the tabs that it changes, publishing, and taking a tab away. Each keeps
tabs and pictures in step (`Session.IsInStep`), from where publishing makes the snapshot
that of the tabs; and none leads to another snapshot without raising the generation
(`Snapshot.Before`).
-/

namespace StripChart

/-! ### Generations -/

/-- **One snapshot is not after another**: its generation is not greater, and if the
generations are the same, then so are the snapshots. -/
structure Snapshot.Before (one other : Snapshot) : Prop where
  /-- The generation does not decrease. -/
  generation_le : one.generation ≤ other.generation
  /-- A snapshot that is not the same is of another generation. -/
  eq_of_generation_eq : one.generation = other.generation → one = other

namespace Snapshot

variable {one other another : Snapshot}

theorem Before.refl (snapshot : Snapshot) : snapshot.Before snapshot :=
  ⟨Nat.le_refl _, fun _ => rfl⟩

theorem Before.of_lt (h : one.generation < other.generation) : one.Before other :=
  ⟨Nat.le_of_lt h, fun heq => absurd heq (Nat.ne_of_lt h)⟩

theorem Before.trans (h : one.Before other) (h' : other.Before another) : one.Before another where
  generation_le := Nat.le_trans h.generation_le h'.generation_le
  eq_of_generation_eq heq := by
    have hone : one.generation = other.generation :=
      Nat.le_antisymm h.generation_le (heq ▸ h'.generation_le)
    rw [h.eq_of_generation_eq hone, h'.eq_of_generation_eq (hone ▸ heq)]

/-- Other pictures or another tab on the screen make a greater generation. -/
theorem Before.generation_lt (h : one.Before other)
    (hchange : one.pictures ≠ other.pictures ∨ one.shown ≠ other.shown) :
    one.generation < other.generation := by
  rcases Nat.lt_or_eq_of_le h.generation_le with hlt | heq
  · exact hlt
  · have hsame := h.eq_of_generation_eq heq
    rcases hchange with hpictures | hshown
    · exact absurd (congrArg Snapshot.pictures hsame) hpictures
    · exact absurd (congrArg Snapshot.shown hsame) hshown

end Snapshot

namespace Session

variable {session mid one other : Session}

/-! ### Publishing -/

/-- **The snapshot is that of the tabs**: it has a picture of every tab as it would be
drawn now, and no other, and it shows the tab that is on the screen. -/
structure Published (session : Session) : Prop where
  /-- The pictures are those of the tabs. -/
  pictures (name : String) :
    session.snapshot.pictures.find? name = session.registry.picture? name
  /-- The tab on the screen is the one of the tabs. -/
  shown : session.snapshot.shown = session.registry.shown

theorem publish_eq (session : Session) :
    session.publish
      = match session.snapshot.publish? session.registry.dirtyPictures session.registry.shown with
        | some snapshot =>
          ({ session.withRegistry session.registry.clean with snapshot }, [.snapshot snapshot])
        | none => (session.withRegistry session.registry.clean, []) :=
  rfl

/-- What publishing does: the snapshot stays if there is nothing new, and is patched else. -/
theorem publish_cases (session : Session) :
    (session.registry.dirtyPictures = [] ∧ session.snapshot.shown = session.registry.shown ∧
        session.publish = (session.withRegistry session.registry.clean, [])) ∨
      ∃ snapshot : Snapshot,
        snapshot = ⟨session.registry.shown,
          Snapshot.insertAll session.snapshot.pictures session.registry.dirtyPictures,
          session.snapshot.generation + 1⟩ ∧
        session.publish
          = ({ session.withRegistry session.registry.clean with snapshot },
              [.snapshot snapshot]) := by
  rw [publish_eq]
  rcases hpublish : session.snapshot.publish? session.registry.dirtyPictures
    session.registry.shown with - | snapshot
  · obtain ⟨hnone, hshown⟩ := Snapshot.publish?_eq_none.1 hpublish
    exact Or.inl ⟨hnone, hshown, rfl⟩
  · refine Or.inr ⟨snapshot, ?_, rfl⟩
    rw [Snapshot.publish?] at hpublish
    split at hpublish
    · exact absurd hpublish.symm (Option.some_ne_none _)
    · exact (Option.some.inj hpublish).symm

theorem engine_publish (session : Session) :
    session.publish.1.engine = (session.withRegistry session.registry.clean).engine := by
  rcases session.publish_cases with ⟨-, -, h⟩ | ⟨snapshot, -, h⟩ <;> rw [h]

theorem registry_publish (session : Session) :
    session.publish.1.registry = session.registry.clean :=
  congrArg Engine.registry session.engine_publish

theorem outcome_publish (session : Session) : session.publish.1.outcome = session.outcome := by
  rcases session.publish_cases with ⟨-, -, h⟩ | ⟨snapshot, -, h⟩ <;> rw [h] <;> rfl

theorem shown_publish (session : Session) :
    session.publish.1.snapshot.shown = session.registry.shown := by
  rcases session.publish_cases with ⟨-, hshown, h⟩ | ⟨snapshot, rfl, h⟩ <;> rw [h]
  exact hshown

theorem pictures_publish (session : Session) :
    session.publish.1.snapshot.pictures
      = Snapshot.insertAll session.snapshot.pictures session.registry.dirtyPictures := by
  rcases session.publish_cases with ⟨hnone, -, h⟩ | ⟨snapshot, rfl, h⟩ <;> rw [h]
  rw [hnone]
  rfl

theorem before_publish (session : Session) :
    session.snapshot.Before session.publish.1.snapshot := by
  rcases session.publish_cases with ⟨-, -, h⟩ | ⟨snapshot, rfl, h⟩ <;> rw [h]
  · exact .refl _
  · exact .of_lt (Nat.lt_succ_self _)

/-- The tabs and the pictures of the session are in step. -/
def IsInStep (session : Session) : Prop :=
  InStep session.registry.tabs session.snapshot.pictures

/-- **From tabs and pictures in step, publishing makes the snapshot that of the tabs.** -/
theorem IsInStep.published_publish (h : session.IsInStep) : session.publish.1.Published where
  pictures name := by
    rw [pictures_publish, registry_publish, Registry.picture?_clean]
    exact InStep.find?_insertAll h name
  shown := by rw [shown_publish, registry_publish]; rfl

theorem Published.isInStep (h : session.Published) : session.IsInStep where
  tab_of_picture {name} hpicture := by
    rw [h.pictures, Registry.picture?, Option.isSome_map] at hpicture
    exact hpicture
  picture_of_clean hfind _ := by
    rw [h.pictures, Registry.picture?, hfind, Option.map_some]

/-! ### What a step can do -/

/-- The session without a tab. -/
def discard (session : Session) (tab : String) : Session :=
  { session.withRegistry (session.registry.remove tab).1 with
    snapshot := session.snapshot.remove tab (session.registry.remove tab).1.shown }

/-- **One move of a session.** -/
inductive Move (session : Session) : Session → Prop
  /-- The engine changes, and the tabs that are changed with it are marked. -/
  | change (engine : Engine) (h : Marked session.registry.tabs engine.registry.tabs) :
    Move session { session with engine }
  /-- New pictures are published. -/
  | publish : Move session session.publish.1
  /-- A tab is taken away. -/
  | discard (tab : String) : Move session (session.discard tab)

theorem Move.rest (session : Session) : session.Move session :=
  .change session.engine .refl

theorem Move.endpoint (session : Session) (endpoint : Endpoint) :
    session.Move (session.withEndpoint endpoint) :=
  .change { session.engine with endpoint } .refl

theorem Move.tabs {registry : Registry} (h : Marked session.registry.tabs registry.tabs) :
    session.Move (session.withRegistry registry) :=
  .change { session.engine with registry } h

/-- What comes after a move: it stays at it, or the session comes to its end. -/
def Comes (session after : Session) : Prop :=
  ∃ mid, session.Move mid ∧ (after = mid ∨ ∃ outcome, after = (mid.conclude outcome).1)

theorem Move.comes_deliver (h : session.Move mid) (sendFault : Option String) (unit : Bytes) :
    session.Comes (mid.deliver sendFault unit).1 := by
  refine ⟨mid, h, ?_⟩
  cases sendFault with
  | none => exact Or.inl rfl
  | some reason => exact Or.inr ⟨_, rfl⟩

/-- The session after a delivery unit. -/
theorem receive_fst (session : Session) (sendFault : Option String) (unit : Bytes) :
    (session.receive sendFault unit).1
      = match (session.engine.receive unit).2.2 with
        | .error error =>
          ({ session with engine := (session.engine.receive unit).1 }.conclude (.error error)).1
        | .ok () =>
          if (Upshot.ofEffects (session.engine.receive unit).2.1).isSilent then
            { session with engine := (session.engine.receive unit).1 }
          else
            ({ session with engine := (session.engine.receive unit).1 }.deliver sendFault
              (Upshot.ofEffects (session.engine.receive unit).2.1).replies).1 := by
  rw [receive]
  rcases session.engine.receive unit with ⟨engine, effects, error | -⟩
  · rfl
  · dsimp only
    split <;> rfl

theorem comes_receive (session : Session) (sendFault : Option String) (unit : Bytes) :
    session.Comes (session.receive sendFault unit).1 := by
  have hmove : session.Move { session with engine := (session.engine.receive unit).1 } :=
    .change _ (session.engine.marked_receive unit)
  rw [receive_fst]
  split
  · exact ⟨_, hmove, Or.inr ⟨_, rfl⟩⟩
  · split
    · exact ⟨_, hmove, Or.inl rfl⟩
    · exact hmove.comes_deliver _ _

theorem comes_execute (session : Session) (sendFault : Option String) (command : Command) :
    session.Comes (session.execute sendFault command).1 := by
  cases command with
  | change request => exact ⟨_, .change _ (session.registry.marked_fulfil request), Or.inl rfl⟩
  | resize tab capacity =>
    exact ⟨_, .tabs (session.registry.marked_resize tab capacity), Or.inl rfl⟩
  | zoom tab grow => exact ⟨_, .tabs (session.registry.marked_zoom tab grow), Or.inl rfl⟩
  | discard tab =>
    simp only [execute]
    split
    · exact ⟨_, .discard tab, Or.inl rfl⟩
    · -- the tab is not there, so that the tabs stay
      rename_i hnone
      have htabs : (session.registry.remove tab).1.tabs = session.registry.tabs :=
        ByName.erase_of_find?_eq_none (Option.not_isSome_iff_eq_none.1 hnone)
      refine ⟨_, .tabs ?_, Or.inl rfl⟩
      rw [htabs]
      exact .refl
  | send message =>
    simp only [execute]
    split
    · exact (Move.endpoint session _).comes_deliver _ _
    · exact ⟨_, .rest session, Or.inl rfl⟩
  | stop => exact ⟨_, .rest session, Or.inr ⟨_, rfl⟩⟩

/-- **What a step can do**: one move, after which the session may come to its end. -/
theorem comes_step (session : Session) (sendFault : Option String) (event : Event) :
    session.Comes (session.step sendFault event).1 := by
  unfold step
  split
  · cases event with
    | unit bytes => exact session.comes_receive sendFault bytes
    | failed reason => exact ⟨_, .rest session, Or.inr ⟨_, rfl⟩⟩
    | ended =>
      refine ⟨_, .endpoint session session.engine.endpoint.finish.1, Or.inr ?_⟩
      simp only [finish]
      split <;> exact ⟨_, rfl⟩
    | command command => exact session.comes_execute sendFault command
    | abandoned => exact session.comes_execute sendFault .stop
    | tick => exact ⟨_, .publish, Or.inl rfl⟩
  · exact ⟨_, .rest session, Or.inl rfl⟩

/-! ### What steps keep -/

theorem outcome_of_move (h : session.Move mid) : mid.outcome = session.outcome := by
  cases h with
  | change engine hmarked => rfl
  | publish => exact session.outcome_publish
  | discard tab => rfl

theorem IsInStep.of_move (h : session.IsInStep) (hmove : session.Move mid) : mid.IsInStep := by
  cases hmove with
  | change engine hmarked => exact InStep.of_marked h hmarked
  | publish => exact h.published_publish.isInStep
  | discard tab => exact InStep.erase h tab

theorem before_of_move (h : session.Move mid) : session.snapshot.Before mid.snapshot := by
  cases h with
  | change engine hmarked => exact .refl _
  | publish => exact session.before_publish
  | discard tab => exact .of_lt (Nat.lt_succ_self _)

theorem snapshot_conclude (session : Session) (outcome : Except Failure Ending) :
    (session.conclude outcome).1.snapshot = session.publish.1.snapshot :=
  rfl

theorem IsInStep.published_conclude (h : session.IsInStep) (outcome : Except Failure Ending) :
    (session.conclude outcome).1.Published where
  pictures := h.published_publish.pictures
  shown := h.published_publish.shown

/-- **At every step tabs and pictures stay in step.** -/
theorem IsInStep.step (h : session.IsInStep) (sendFault : Option String) (event : Event) :
    (session.step sendFault event).1.IsInStep := by
  obtain ⟨mid, hmove, hafter | ⟨outcome, hafter⟩⟩ := session.comes_step sendFault event
  · rw [hafter]
    exact h.of_move hmove
  · rw [hafter]
    exact ((h.of_move hmove).published_conclude outcome).isInStep

/-- **At no step does the snapshot go back.** -/
theorem before_step (session : Session) (sendFault : Option String) (event : Event) :
    session.snapshot.Before (session.step sendFault event).1.snapshot := by
  obtain ⟨mid, hmove, hafter | ⟨outcome, hafter⟩⟩ := session.comes_step sendFault event
  · rw [hafter]
    exact before_of_move hmove
  · rw [hafter, snapshot_conclude]
    exact (before_of_move hmove).trans mid.before_publish

/-- **The step at which a session ends leaves the snapshot of the tabs.** -/
theorem IsInStep.published_step_of_over (h : session.IsInStep) (hrunning : session.outcome = none)
    {sendFault : Option String} {event : Event}
    (hover : (session.step sendFault event).1.outcome.isSome = true) :
    (session.step sendFault event).1.Published := by
  obtain ⟨mid, hmove, hafter | ⟨outcome, hafter⟩⟩ := session.comes_step sendFault event
  · -- a move alone does not end a session
    rw [hafter, outcome_of_move hmove, hrunning] at hover
    exact nomatch hover
  · rw [hafter]
    exact (h.of_move hmove).published_conclude outcome

/-- Once a session is over, its snapshot is that of the tabs. -/
def IsSettled (session : Session) : Prop :=
  session.IsInStep ∧ (session.outcome.isSome = true → session.Published)

theorem IsSettled.step (h : session.IsSettled) (sendFault : Option String) (event : Event) :
    (session.step sendFault event).1.IsSettled := by
  refine ⟨h.1.step sendFault event, fun hover => ?_⟩
  rcases hout : session.outcome with - | outcome
  · exact h.1.published_step_of_over hout hover
  · have hsome : session.outcome.isSome = true := by rw [hout]; rfl
    rw [step_of_over hsome]
    exact h.2 hsome

theorem IsSettled.run (h : session.IsSettled) (events : List (Event × Option String)) :
    (session.run events).1.IsSettled :=
  Machine.run_invariant IsSettled (fun _ entry hsettled => hsettled.step entry.2 entry.1) h events

theorem before_run (session : Session) (events : List (Event × Option String)) :
    session.snapshot.Before (session.run events).1.snapshot := by
  induction events generalizing session with
  | nil => exact .refl _
  | cons entry rest ih => exact (session.before_step entry.2 entry.1).trans (ih _)

/-- A tab that is taken away is gone, and its picture with it. -/
theorem IsInStep.find?_discard (h : session.IsInStep) (hrunning : session.isRunning = true)
    (sendFault : Option String) (tab : String) :
    let after := (session.step sendFault (.command (.discard tab))).1
    after.registry.tabs.find? tab = none ∧ after.snapshot.pictures.find? tab = none := by
  intro after
  have htab : after.registry.tabs.find? tab = none := by
    have hregistry : after.registry = (session.registry.remove tab).1 := by
      show (session.step sendFault (.command (.discard tab))).1.registry = _
      rw [Session.step, if_pos hrunning]
      simp only [execute]
      split <;> rfl
    rw [hregistry]
    exact ByName.find?_erase_self _ _
  refine ⟨htab, ?_⟩
  -- a picture without a tab would be out of step
  have hinstep : after.IsInStep := h.step sendFault _
  rcases hpicture : after.snapshot.pictures.find? tab with - | picture
  · rfl
  · have hsome := hinstep.tab_of_picture (Option.isSome_of_eq_some hpicture)
    rw [htab] at hsome
    exact absurd hsome Bool.false_ne_true

/-! ### Opening a session -/

/-- The session with handlers for some keys. -/
def withHandlers (session : Session) (handlers : List (String × Handler)) : Session :=
  handlers.foldl (fun session entry => session.withHandler entry.1 entry.2) session

/-- A session as it is before it is opened. -/
structure IsFresh (session : Session) : Prop where
  /-- The connection has not been tried. -/
  connection_eq : session.connection = .disconnected
  /-- Nothing has been published. -/
  snapshot_eq : session.snapshot = {}
  /-- The session is not over. -/
  outcome_eq : session.outcome = none
  /-- No picture has been taken. -/
  allDirty : session.registry.AllDirty

/-- The tabs of a new session are those that its config describes. -/
theorem ofConfig?_of_new? {config : Config} {palette : Palette} {fresh : Session}
    (h : new? config palette = .ok fresh) :
    Registry.ofConfig? config palette = .ok fresh.registry := by
  obtain ⟨_, -, h⟩ := exists_of_bind_eq_ok h
  obtain ⟨registry, hregistry, h⟩ := exists_of_bind_eq_ok h
  obtain rfl := Except.ok.inj h
  cases hconfig : Registry.ofConfig? config palette with
  | error fault =>
    rw [hconfig] at hregistry
    cases hregistry
  | ok tabs =>
    rw [hconfig] at hregistry
    exact congrArg _ (Except.ok.inj hregistry)

theorem isFresh_of_new? {config : Config} {palette : Palette} {fresh : Session}
    (h : new? config palette = .ok fresh) : fresh.IsFresh := by
  have hallDirty := Registry.allDirty_ofConfig? (ofConfig?_of_new? h)
  obtain ⟨_, -, h⟩ := exists_of_bind_eq_ok h
  obtain ⟨_, -, h⟩ := exists_of_bind_eq_ok h
  obtain rfl := Except.ok.inj h
  exact ⟨rfl, rfl, rfl, hallDirty⟩

theorem IsFresh.withHandlers (h : session.IsFresh) (handlers : List (String × Handler)) :
    (session.withHandlers handlers).IsFresh := by
  unfold Session.withHandlers
  induction handlers generalizing session with
  | nil => exact h
  | cons entry rest ih =>
    exact ih ⟨h.connection_eq, h.snapshot_eq, h.outcome_eq, h.allDirty⟩

/-- From a connection that has not been tried an address can be tried. -/
theorem dial_of_disconnected (h : session.connection = .disconnected) (url : String) :
    session.engine.endpoint.dial url
      = .ok { session.engine.endpoint with connection := .connecting url } := by
  unfold Endpoint.dial Endpoint.moveTo
  rw [show session.engine.endpoint.connection = .disconnected from h]
  rfl

/-- An attempt to connect that succeeds opens the session and publishes a first snapshot. -/
theorem start_fst (h : session.connection = .disconnected) (url : String) :
    (session.start url (.ok ())).1
      = (session.withEndpoint
          { session.engine.endpoint with connection := .connected url }).publish.1 := by
  unfold start
  rw [dial_of_disconnected h]
  rfl

/-- **Opening a session does not take its snapshot back**, which is empty until then. -/
theorem IsFresh.before_start (h : session.IsFresh) (url : String) :
    session.snapshot.Before (session.start url (.ok ())).1.snapshot := by
  rw [start_fst h.connection_eq]
  exact (session.withEndpoint
    { session.engine.endpoint with connection := .connected url }).before_publish

/-- **A session that is opened runs, and its snapshot is that of the tabs.** -/
theorem IsFresh.start (h : session.IsFresh) (url : String) :
    (session.start url (.ok ())).1.isRunning = true ∧ (session.start url (.ok ())).1.Published := by
  rw [start_fst h.connection_eq]
  constructor
  · unfold isRunning connection
    rw [outcome_publish, engine_publish]
    show (session.outcome.isNone && true) = true
    rw [h.outcome_eq]
    rfl
  · refine IsInStep.published_publish ?_
    show InStep session.registry.tabs session.snapshot.pictures
    rw [h.snapshot_eq]
    exact h.allDirty.inStep

end Session

end StripChart
