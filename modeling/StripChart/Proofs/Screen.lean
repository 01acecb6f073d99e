import StripChart.Proofs.Requests

/-!
# The tab on the screen and its picture

A snapshot says which tab is on the screen, and whoever draws it looks for the picture of this
tab in it. A snapshot *covers its screen* if the picture is there whenever there is a tab on
the screen (`Snapshot.CoversScreen`).

All snapshots do that are published with new pictures: when a session is opened, at every
tick, and when it ends. For the tab on the screen is one of the registry
(`Registry.HasShown`), and with the new pictures there is one of every tab. But a snapshot is
also published when a tab is taken away, without new pictures and with the tab that is on the
screen now; and this may be a tab that has been made since pictures were taken last
(`Session.Exposes`). Such snapshots, and no other, do not cover their screens
(`Session.coversScreen_iff_of_run`), and the next tick mends it.
-/

namespace StripChart

/-- **A snapshot covers its screen**: it has the picture of the tab on the screen, and gives
none only if there is no tab on it. -/
def Snapshot.CoversScreen (snapshot : Snapshot) : Prop :=
  snapshot.shownPicture? = none → snapshot.shown = none

theorem Snapshot.coversScreen_iff {snapshot : Snapshot} :
    snapshot.CoversScreen ↔
      ∀ name, snapshot.shown = some name → snapshot.pictures.find? name ≠ none := by
  rw [CoversScreen, shownPicture?]
  cases snapshot.shown with
  | none =>
    constructor
    · intro _ name hname
      exact absurd hname.symm (Option.some_ne_none _)
    · intro _ _
      rfl
  | some shown =>
    rw [Option.bind_some]
    constructor
    · rintro h name ⟨⟩ hnone
      exact Option.some_ne_none _ (h hnone)
    · intro h hnone
      exact absurd hnone (h shown rfl)

/-! ### The tab on the screen is there -/

namespace Registry

variable {registry : Registry} {name : String}

/-- **The tab on the screen is one of the tabs.** -/
def HasShown (registry : Registry) : Prop :=
  ∀ name, registry.shown = some name → registry.tabs.find? name ≠ none

/-- A tab that is put in takes none away. -/
theorem find?_insert_ne_none {tabs : ByName Tab} (h : tabs.find? name ≠ none) (other : String)
    (tab : Tab) : (tabs.insert other tab).find? name ≠ none := by
  rw [ByName.find?_insert]
  split
  · exact Option.some_ne_none _
  · exact h

theorem HasShown.putTab (h : registry.HasShown) (other : String) (tab : Tab) :
    (registry.putTab other tab).HasShown :=
  fun name hname => find?_insert_ne_none (h name hname) other tab

/-- Whoever is put on the screen is there, and so is whoever stays on it. -/
theorem HasShown.insert_shownAfter (h : registry.HasShown) (palette : Palette) (other : String)
    (tab : Tab) (shown : Option Bool) :
    HasShown { registry with
      shown := shownAfter registry.shown other shown
      palette
      tabs := registry.tabs.insert other tab } := by
  intro name hname
  have hcases : name = other ∨ registry.shown = some name := by
    rcases shown with - | (_ | _)
    · exact Or.inr hname
    · simp only [shownAfter] at hname
      split at hname
      · exact absurd hname.symm (Option.some_ne_none _)
      · exact Or.inr hname
    · exact Or.inl (Option.some.inj hname).symm
  rcases hcases with rfl | hname
  · show (registry.tabs.insert name tab).find? name ≠ none
    rw [ByName.find?_insert_self]
    exact Option.some_ne_none _
  · exact find?_insert_ne_none (h name hname) other tab

theorem HasShown.serve (h : registry.HasShown) (request : Request) :
    (registry.serve request).1.HasShown := by
  cases request with
  | fulfil request => exact h.insert_shownAfter _ request.name _ request.shown
  | record tab channel batch =>
    rcases hfind : registry.tabs.find? tab with - | found
    · simp only [Registry.serve, record_of_none hfind]
      exact h
    · simp only [Registry.serve, record_of_some hfind]
      exact h.putTab tab _
  | resize tab capacity =>
    simp only [Registry.serve, Registry.resize]
    split <;> exact h.putTab tab _
  | zoom tab grow => exact h.putTab tab _
  | touch tab => exact h.putTab tab _
  | remove tab =>
    intro name hname
    have hshown : (if registry.shown = some tab then none else registry.shown) = some name := hname
    split at hshown
    · exact absurd hshown.symm (Option.some_ne_none _)
    · rename_i hnot
      -- the tab on the screen is another than the one that goes
      have hne : name ≠ tab := fun heq => hnot (heq ▸ hshown)
      show (registry.tabs.erase tab).find? name ≠ none
      rw [ByName.find?_erase_of_ne _ hne]
      exact h name hshown
  | takePictures =>
    intro name hname
    show registry.clean.tabs.find? name ≠ none
    rw [find?_clean, ne_eq, Option.map_eq_none_iff]
    exact h name hname

theorem IsInitial.hasShown {config : Config} {palette : Palette}
    (h : IsInitial config palette registry) : registry.HasShown := by
  refine h.keeps HasShown ?_ ?_
  · intro bare hbare name hname
    rw [new?, Channels.new?] at hbare
    split at hbare
    · obtain rfl := Except.ok.inj hbare
      exact absurd hname.symm (Option.some_ne_none _)
    · cases hbare
  · intro before after entry hbefore hafter
    obtain ⟨resized, -, rfl⟩ := exists_of_applyTabSettings hafter
    have hshown : (if entry.shown then some entry.name else before.shown)
        = shownAfter before.shown entry.name (if entry.shown then some true else none) := by
      cases entry.shown <;> rfl
    rw [hshown]
    exact hbefore.insert_shownAfter _ entry.name _ _

end Registry

/-! ### What is published -/

namespace Session

/-- The snapshot that is published, if the output is one. -/
def Output.published? : Output → Option Snapshot
  | .snapshot published => some published
  | _ => none

variable {session : Session} {snapshot : Snapshot}

/-- The snapshots among the outputs of a session, in order. -/
def published (outputs : List Output) : List Snapshot :=
  outputs.filterMap Output.published?

theorem published_append (first second : List Output) :
    published (first ++ second) = published first ++ published second :=
  List.filterMap_append

/-- Nothing is published by telling lines. -/
theorem published_map_log (lines : List LogLine) : published (lines.map .log) = [] := by
  rw [published, List.filterMap_map]
  exact List.filterMap_eq_nil_iff.2 fun _ _ => rfl

theorem published_map_notice {β : Type} (notice : β → Notice) (items : List β) :
    published (items.map fun item => .notice (notice item)) = [] := by
  rw [published, List.filterMap_map]
  exact List.filterMap_eq_nil_iff.2 fun _ _ => rfl

theorem published_logOutputs (effects : List Effect) : published (logOutputs effects) = [] :=
  published_map_log _

theorem published_close (session : Session) (reason : String) :
    published (session.close reason).2 = [] := by
  simp only [close, published_append, published_map_log]
  rfl

theorem published_conclude (session : Session) (outcome : Except Failure Ending) :
    published (session.conclude outcome).2 = published session.publish.2 := by
  have hfailure : ∀ after : Session, published (after.failureLines outcome) = [] := fun after => by
    cases outcome <;> rfl
  simp only [conclude, published_append, published_close, hfailure, List.append_nil]

theorem mem_published_publish (h : snapshot ∈ published session.publish.2) :
    snapshot = session.publish.1.snapshot := by
  rcases session.publish_cases with ⟨-, -, hpublish⟩ | ⟨patched, -, hpublish⟩
  · rw [hpublish] at h
    exact absurd h List.not_mem_nil
  · rw [hpublish] at h ⊢
    exact List.mem_singleton.1 h

/-! ### Snapshots with new pictures -/

/-- Tabs and pictures are in step, and the tab on the screen is there. -/
structure IsCovering (session : Session) : Prop where
  /-- The tabs and the pictures are in step. -/
  isInStep : session.IsInStep
  /-- The tab on the screen is one of the tabs. -/
  hasShown : session.registry.HasShown

theorem IsCovering.coversScreen_publish (h : session.IsCovering) :
    session.publish.1.snapshot.CoversScreen := by
  obtain ⟨hpictures, hshown⟩ := h.isInStep.published_publish
  refine Snapshot.coversScreen_iff.2 fun name hname => ?_
  rw [hpictures, registry_publish, Registry.picture?_clean, Registry.picture?, ne_eq,
    Option.map_eq_none_iff]
  refine h.hasShown name ?_
  rw [shown_publish] at hname
  exact hname

theorem IsCovering.publish (h : session.IsCovering) : session.publish.1.IsCovering where
  isInStep := h.isInStep.published_publish.isInStep
  hasShown := session.reaches_publish.keeps Registry.HasShown
    (fun _ request hshown => hshown.serve request) h.hasShown

theorem IsCovering.step (h : session.IsCovering) (sendFault : Option String) (event : Event) :
    (session.step sendFault event).1.IsCovering where
  isInStep := h.isInStep.step sendFault event
  hasShown := (session.reaches_step sendFault event).keeps Registry.HasShown
    (fun _ request hshown => hshown.serve request) h.hasShown

theorem IsCovering.run (h : session.IsCovering) (events : List (Event × Option String)) :
    (session.run events).1.IsCovering :=
  Machine.run_invariant IsCovering (fun _ entry hnow => hnow.step entry.2 entry.1) h events

/-- Another endpoint has nothing to do with tabs and pictures. -/
theorem IsCovering.withEndpoint (h : session.IsCovering) (endpoint : Endpoint) :
    (session.withEndpoint endpoint).IsCovering :=
  ⟨h.isInStep, h.hasShown⟩

/-- What is published at the end of a session covers its screen. -/
theorem IsCovering.coversScreen_conclude (h : session.IsCovering)
    {outcome : Except Failure Ending} (hmem : snapshot ∈ published (session.conclude outcome).2) :
    snapshot.CoversScreen := by
  rw [published_conclude] at hmem
  rw [mem_published_publish hmem]
  exact h.coversScreen_publish

theorem IsCovering.coversScreen_deliver (h : session.IsCovering) {sendFault : Option String}
    {unit : Bytes} (hmem : snapshot ∈ published (session.deliver sendFault unit).2) :
    snapshot.CoversScreen := by
  cases sendFault with
  | none => exact absurd hmem List.not_mem_nil
  | some reason => exact h.coversScreen_conclude hmem

/-- What a unit leaves of the engine keeps tabs and pictures as they have to be. -/
theorem IsCovering.receive (h : session.IsCovering) (unit : Bytes) :
    IsCovering { session with engine := (session.engine.receive unit).1 } where
  isInStep := InStep.of_marked h.isInStep (session.engine.marked_receive unit)
  hasShown := (session.engine.reaches_receive unit).keeps Registry.HasShown
    (fun _ request hshown => hshown.serve request) h.hasShown

theorem IsCovering.coversScreen_receive (h : session.IsCovering) {sendFault : Option String}
    {unit : Bytes} (hmem : snapshot ∈ published (session.receive sendFault unit).2) :
    snapshot.CoversScreen := by
  have hafter := h.receive unit
  rw [Session.receive] at hmem
  dsimp only at hmem
  split at hmem
  · simp only [published_append, published_logOutputs, List.nil_append] at hmem
    exact hafter.coversScreen_conclude hmem
  · split at hmem
    · rw [published_append, published_logOutputs, published_map_notice] at hmem
      exact absurd hmem List.not_mem_nil
    · simp only [published_append, published_logOutputs, published_map_notice,
        List.nil_append] at hmem
      exact hafter.coversScreen_deliver hmem

/-- Of all commands only one publishes a snapshot without new pictures: that to take a tab
away. -/
theorem IsCovering.coversScreen_execute (h : session.IsCovering) {sendFault : Option String}
    {command : Command} (hcommand : ∀ tab, command ≠ .discard tab)
    (hmem : snapshot ∈ published (session.execute sendFault command).2) :
    snapshot.CoversScreen := by
  cases command with
  | change request =>
    simp only [execute, published_logOutputs] at hmem
    exact absurd hmem List.not_mem_nil
  | resize tab capacity =>
    simp only [execute] at hmem
    split at hmem <;> exact absurd hmem List.not_mem_nil
  | zoom tab grow => exact absurd hmem List.not_mem_nil
  | discard tab => exact absurd rfl (hcommand tab)
  | send message =>
    simp only [execute] at hmem
    split at hmem
    · exact (h.withEndpoint _).coversScreen_deliver hmem
    · exact absurd hmem List.not_mem_nil
  | stop => exact h.coversScreen_conclude hmem

theorem IsCovering.coversScreen_finish (h : session.IsCovering)
    (hmem : snapshot ∈ published session.finish.2) : snapshot.CoversScreen := by
  simp only [finish] at hmem
  split at hmem <;> exact (h.withEndpoint _).coversScreen_conclude hmem

/-! ### Taking a tab away -/

/-- **A tab is taken away while another is on the screen of which there is no picture yet**,
since it has been made after pictures were taken last. -/
def Exposes (session : Session) (event : Event) : Prop :=
  ∃ tab name, event = .command (.discard tab) ∧ session.registry.shown = some name ∧
    name ≠ tab ∧ session.snapshot.pictures.find? name = none

theorem coversScreen_discard_iff (session : Session) (tab : String) :
    (session.discard tab).snapshot.CoversScreen ↔
      ¬session.Exposes (.command (.discard tab)) := by
  have hshown : (session.discard tab).snapshot.shown
      = if session.registry.shown = some tab then none else session.registry.shown := rfl
  rw [Snapshot.coversScreen_iff, hshown]
  show (∀ name, _ → (session.snapshot.pictures.erase tab).find? name ≠ none) ↔ _
  constructor
  · rintro h ⟨_, name, ⟨⟩, hname, hne, hnone⟩
    have hother : session.registry.shown ≠ some tab := fun heq =>
      hne (Option.some.inj (hname.symm.trans heq))
    refine h name ((if_neg hother).trans hname) ?_
    rw [ByName.find?_erase_of_ne _ hne]
    exact hnone
  · intro h name hname hnone
    split at hname
    · exact absurd hname.symm (Option.some_ne_none _)
    · rename_i hother
      have hne : name ≠ tab := fun heq => hother (heq ▸ hname)
      rw [ByName.find?_erase_of_ne _ hne] at hnone
      exact h ⟨tab, name, rfl, hname, hne, hnone⟩

/-- **What is published at a step covers its screen**, unless a tab is taken away that leaves
a tab on the screen without a picture. -/
theorem IsCovering.coversScreen_step_iff (h : session.IsCovering) {sendFault : Option String}
    {event : Event} (hmem : snapshot ∈ published (session.step sendFault event).2) :
    snapshot.CoversScreen ↔ ¬session.Exposes event := by
  by_cases hdiscard : ∃ tab, event = .command (.discard tab)
  · obtain ⟨tab, rfl⟩ := hdiscard
    rw [← coversScreen_discard_iff]
    unfold Session.step at hmem
    split at hmem
    · simp only [execute] at hmem
      split at hmem
      · rw [List.mem_singleton.1 hmem]
        rfl
      · exact absurd hmem List.not_mem_nil
    · exact absurd hmem List.not_mem_nil
  · have hnot : ¬session.Exposes event := by
      rintro ⟨tab, name, hevent, -⟩
      exact hdiscard ⟨tab, hevent⟩
    refine iff_of_true ?_ hnot
    unfold Session.step at hmem
    split at hmem
    · cases event with
      | unit bytes => exact h.coversScreen_receive hmem
      | failed reason => exact h.coversScreen_conclude hmem
      | ended => exact h.coversScreen_finish hmem
      | command command =>
        refine h.coversScreen_execute (fun tab heq => hdiscard ⟨tab, ?_⟩) hmem
        rw [heq]
      | abandoned => exact h.coversScreen_execute (fun tab heq => Command.noConfusion heq) hmem
      | tick =>
        rw [mem_published_publish hmem]
        exact h.coversScreen_publish
    · exact absurd hmem List.not_mem_nil

/-! ### Whole sessions -/

theorem isCovering_of_new? {config : Config} {palette : Palette} {fresh : Session}
    (h : new? config palette = .ok fresh) : fresh.IsCovering where
  isInStep := by
    show InStep fresh.registry.tabs fresh.snapshot.pictures
    rw [(isFresh_of_new? h).snapshot_eq]
    exact (isFresh_of_new? h).allDirty.inStep
  hasShown := Registry.IsInitial.hasShown (.inr (ofConfig?_of_new? h))

theorem IsCovering.withHandlers (h : session.IsCovering) (handlers : List (String × Handler)) :
    (session.withHandlers handlers).IsCovering := by
  unfold Session.withHandlers
  induction handlers generalizing session with
  | nil => exact h
  | cons entry rest ih => exact ih ⟨h.isInStep, h.hasShown⟩

/-- An attempt to connect fails, and nothing is published, or it opens the session, and a
first snapshot is published. -/
theorem published_start (session : Session) (url : String) (reached : Except String Unit) :
    ((session.start url reached).1.registry = session.registry ∧
        (session.start url reached).1.snapshot = session.snapshot ∧
        published (session.start url reached).2 = []) ∨
      ∃ endpoint, (session.start url reached).1 = (session.withEndpoint endpoint).publish.1 ∧
        published (session.start url reached).2
          = published (session.withEndpoint endpoint).publish.2 := by
  unfold Session.start
  split
  · exact Or.inl ⟨rfl, rfl, rfl⟩
  · rename_i dialled _
    dsimp only
    split
    · refine Or.inl ⟨rfl, rfl, ?_⟩
      exact published_close (session.withEndpoint dialled) _
    · split
      · exact Or.inl ⟨rfl, rfl, rfl⟩
      · rename_i endpoint lines _
        refine Or.inr ⟨endpoint, rfl, ?_⟩
        show published (lines.map .log ++ [_, _] ++ _) = _
        simp only [published_append, published_map_log]
        rfl

/-- **However the attempt to connect goes**, what is published covers its screen. -/
theorem IsCovering.start (h : session.IsCovering) (url : String) (reached : Except String Unit) :
    (session.start url reached).1.IsCovering ∧
      ∀ snapshot ∈ published (session.start url reached).2, snapshot.CoversScreen := by
  rcases session.published_start url reached with
    ⟨hregistry, hsnapshot, hnothing⟩ | ⟨endpoint, hopened, hfirst⟩
  · refine ⟨⟨?_, ?_⟩, fun _ hmem => ?_⟩
    · rw [IsInStep, hregistry, hsnapshot]
      exact h.isInStep
    · rw [hregistry]
      exact h.hasShown
    · rw [hnothing] at hmem
      exact absurd hmem List.not_mem_nil
  · rw [hopened, hfirst]
    refine ⟨(h.withEndpoint endpoint).publish, fun _ hmem => ?_⟩
    rw [mem_published_publish hmem]
    exact (h.withEndpoint endpoint).coversScreen_publish

/-- **Which snapshots cover their screens.** Of all that a session ever publishes, whatever
happens to it, there is just one kind that does not: when a tab is taken away while another is
on the screen of which there is no picture yet. In a session that runs, the next tick leaves a
snapshot that covers its screen. -/
theorem coversScreen_iff_of_run {config : Config} {palette : Palette} {fresh : Session}
    (h : new? config palette = .ok fresh) (handlers : List (String × Handler)) (url : String)
    (reached : Except String Unit) :
    let started := (fresh.withHandlers handlers).start url reached
    (∀ snapshot ∈ published started.2, snapshot.CoversScreen) ∧
      ∀ events sendFault event,
        let now := (started.1.run events).1
        (∀ snapshot ∈ published (now.step sendFault event).2,
            snapshot.CoversScreen ↔ ¬now.Exposes event) ∧
          (now.isRunning = true → (now.step sendFault .tick).1.snapshot.CoversScreen) := by
  intro started
  obtain ⟨hstarted, hfirst⟩ := ((isCovering_of_new? h).withHandlers handlers).start url reached
  refine ⟨hfirst, fun events sendFault event => ?_⟩
  intro now
  have hnow : now.IsCovering := hstarted.run events
  refine ⟨fun _ hmem => hnow.coversScreen_step_iff hmem, fun hrunning => ?_⟩
  rw [Session.step, if_pos hrunning]
  exact hnow.coversScreen_publish

/-- A tab is taken away while nothing else is on the screen, and again after another one has
been put there: the first time the snapshot covers its screen, the second time it does not. -/
theorem coversScreen_iff_of_run_onePlot :
    ∃ fresh, new? Registry.onePlot ⟨0⟩ = .ok fresh ∧
      let opened := (fresh.start "tcp://server" (.ok ())).1
      let later := (opened.run [(.command (.change (.showing "thermal" true)), none)]).1
      (∃ snapshot ∈ published (opened.step none (.command (.discard "power"))).2,
          snapshot.CoversScreen) ∧
        (∃ snapshot ∈ published (later.step none (.command (.discard "power"))).2,
          ¬snapshot.CoversScreen) ∧
        (later.step none .tick).1.snapshot.CoversScreen := by
  obtain ⟨-, hrun⟩ := coversScreen_iff_of_run
    (show new? Registry.onePlot ⟨0⟩ = .ok _ from rfl) [] "tcp://server" (.ok ())
  obtain ⟨hopened, -⟩ := hrun [] none (.command (.discard "power"))
  obtain ⟨hlater, htick⟩ := hrun [(.command (.change (.showing "thermal" true)), none)] none
    (.command (.discard "power"))
  refine ⟨_, rfl, ⟨_, List.mem_singleton.2 rfl, ?_⟩, ⟨_, List.mem_singleton.2 rfl, ?_⟩, ?_⟩
  · refine (hopened _ (List.mem_singleton.2 rfl)).2 ?_
    rintro ⟨_, name, ⟨⟩, hshown, hne, -⟩
    exact hne (Option.some.inj hshown).symm
  · intro hcovers
    exact (hlater _ (List.mem_singleton.2 rfl)).1 hcovers
      ⟨"power", "thermal", rfl, rfl, by decide, rfl⟩
  · exact htick rfl

/-- **A snapshot may have no picture of the tab it says is on the screen**: a tab is put there
that has not been there before, and another is taken away before the next tick. -/
theorem exists_published_not_coversScreen :
    ∃ fresh, new? Registry.onePlot ⟨0⟩ = .ok fresh ∧
      let opened := (fresh.start "tcp://server" (.ok ())).1
      let events := [(.command (.change (.showing "thermal" true)), none),
        (.command (.discard "power"), none)]
      ∃ snapshot ∈ published (opened.run events).2,
        snapshot.shown = some "thermal" ∧ snapshot.shownPicture? = none ∧
          ¬snapshot.CoversScreen := by
  refine ⟨_, rfl, _, List.mem_singleton.2 rfl, rfl, rfl, fun hcovers => ?_⟩
  exact Option.some_ne_none _ (hcovers rfl)

end Session

end StripChart
