import StripChart.Proofs.Requests

/-!
# Capacities that are refused

A capacity of zero is refused, and no other. But the tab is looked up before the capacity is
looked at, and to look a tab up is to make it if there is none. So what a refusal leaves
behind is the registry with the tab touched (`Registry.resize_of_error`): the registry as it
was just if the tab has been there (`Registry.touch_eq_self_iff`).

For a session this means that a refused command comes to one line and one notice, and leaves
everything as it was, if the tab has been there. If not, there is a tab now on which nothing
is plotted, and a picture of it is published at the next tick (`Session.step_of_refused`).
-/

namespace StripChart

namespace Registry

variable {registry : Registry} {name : String}

/-- **Touching a tab changes nothing just if there is the tab.** -/
theorem touch_eq_self_iff :
    registry.touch name = registry ↔ registry.tabs.contains name = true := by
  constructor
  · intro h
    have hthere : (registry.touch name).tabs.contains name = true := by
      rw [ByName.contains, touch, putTab, ByName.find?_insert_self]
      rfl
    rwa [h] at hthere
  · intro h
    obtain ⟨tab, htab⟩ := Option.isSome_iff_exists.1 h
    rw [touch, putTab, tabOrFresh, htab, Option.getD_some, ByName.insert_of_find?_eq_some htab]

/-- **A refused capacity** is that of zero, and has made sure that there is the tab. -/
theorem resize_of_error {capacity : Nat} {fault : InvalidCapacity}
    (h : (registry.resize name capacity).2 = .error fault) :
    capacity = 0 ∧ (registry.resize name capacity).1 = registry.touch name := by
  rcases Nat.eq_zero_or_pos capacity with rfl | hpos
  · exact ⟨rfl, rfl⟩
  · -- any other capacity is allowed
    have hok : (registry.tabOrFresh name).channels.resize? capacity
        = .ok ((registry.tabOrFresh name).channels.resize capacity hpos) :=
      Channels.resize?_eq_ok_iff.2 ⟨hpos, rfl⟩
    simp only [resize, hok] at h
    cases h

end Registry

namespace Session

variable {session : Session}

theorem withRegistry_eq_self_iff {registry : Registry} :
    session.withRegistry registry = session ↔ registry = session.registry := by
  constructor
  · intro h
    exact congrArg Session.registry h
  · rintro rfl
    rfl

/-- A tab that has changed is seen at the next tick. -/
theorem find?_pictures_publish {name : String} {tab : Tab}
    (hfind : session.registry.tabs.find? name = some tab) (hdirty : tab.dirty = true) :
    session.publish.1.snapshot.pictures.find? name = some (tab.picture name) := by
  rw [pictures_publish]
  refine (Entries.find?_insertAll_dirtyPictures session.registry.tabs.sorted _ name).trans ?_
  show (((session.registry.tabs.find? name).filter Tab.dirty).map _).or _ = _
  rw [hfind, Option.filter_some_pos hdirty]
  rfl

/-- **What comes of a command that asks for a capacity that is refused**: a line, a notice,
and a tab of the name if there has been none. Just if there has been one, the session is as it
was; if not, nothing else changes, and a picture of the new tab is published at the next
tick. -/
theorem step_of_refused (hrunning : session.isRunning = true) {tab : String} {capacity : Nat}
    {fault : InvalidCapacity} (h : (session.registry.resize tab capacity).2 = .error fault)
    (sendFault : Option String) :
    let after := (session.step sendFault (.command (.resize tab capacity))).1
    (session.step sendFault (.command (.resize tab capacity))).2
        = [.log ⟨.warn, s!"tab '{tab}': {fault.message}"⟩,
            .notice (.refused s!"tab '{tab}': {fault.message}")] ∧
      after = session.withRegistry (session.registry.touch tab) ∧
      (after = session ↔ session.registry.tabs.contains tab = true) ∧
      (session.registry.tabs.contains tab = false →
        after.registry.tabs = session.registry.tabs.insert tab session.registry.freshTab ∧
          (after.step sendFault .tick).1.snapshot.pictures.find? tab
            = some (session.registry.freshTab.picture tab)) := by
  obtain ⟨-, htouch⟩ := Registry.resize_of_error h
  have hstep : session.step sendFault (.command (.resize tab capacity))
      = (session.withRegistry (session.registry.touch tab),
          refuse s!"tab '{tab}': {fault.message}") := by
    rw [step, if_pos hrunning]
    simp only [execute, htouch, h]
  rw [hstep]
  refine ⟨rfl, rfl, withRegistry_eq_self_iff.trans Registry.touch_eq_self_iff, fun hnot => ?_⟩
  have hnone : session.registry.tabs.find? tab = none :=
    Option.not_isSome_iff_eq_none.1 (by rw [← ByName.contains, hnot]; exact Bool.false_ne_true)
  have htabs : (session.withRegistry (session.registry.touch tab)).registry.tabs
      = session.registry.tabs.insert tab session.registry.freshTab := by
    show session.registry.tabs.insert tab (session.registry.tabOrFresh tab) = _
    rw [Registry.tabOrFresh, hnone, Option.getD_none]
  refine ⟨htabs, ?_⟩
  have hstill : (session.withRegistry (session.registry.touch tab)).isRunning = true := hrunning
  rw [step, if_pos hstill]
  refine find?_pictures_publish ?_ rfl
  rw [htabs]
  exact ByName.find?_insert_self _ _ _

/-- A capacity is refused, first for a tab that is there and then for one that is not. -/
theorem step_of_refused_onePlot :
    ∃ fresh, new? Registry.onePlot ⟨0⟩ = .ok fresh ∧
      let opened := (fresh.start "tcp://server" (.ok ())).1
      let refused := (opened.step none (.command (.resize "thermal" 0))).1
      opened.isRunning = true ∧ (opened.registry.resize "power" 0).2 = .error .zero ∧
        (opened.step none (.command (.resize "power" 0))).1 = opened ∧ refused ≠ opened ∧
        ((refused.step none .tick).1.snapshot.pictures.find? "thermal").isSome = true := by
  refine ⟨_, rfl, ?_⟩
  intro opened refused
  have hrunning : opened.isRunning = true := by decide +kernel
  obtain ⟨-, -, hthere, -⟩ := step_of_refused hrunning
    (show (opened.registry.resize "power" 0).2 = .error .zero from rfl) none
  obtain ⟨-, -, hnot, hmade⟩ := step_of_refused hrunning
    (show (opened.registry.resize "thermal" 0).2 = .error .zero from rfl) none
  have hmissing : opened.registry.tabs.contains "thermal" = false := by decide +kernel
  refine ⟨hrunning, rfl, hthere.2 (by decide +kernel), fun hsame => ?_, ?_⟩
  · exact absurd (hmissing.symm.trans (hnot.1 hsame)) Bool.false_ne_true
  · exact Option.isSome_of_eq_some (hmade hmissing).2

/-- **A refused capacity may change the tabs, and be seen**: it is refused for a tab that is
not there, and at the next tick a picture of this tab is published. -/
theorem exists_refused_published :
    ∃ fresh, new? Registry.onePlot ⟨0⟩ = .ok fresh ∧
      let opened := (fresh.start "tcp://server" (.ok ())).1
      let refused := opened.registry.resize "thermal" 0
      refused.2 = .error .zero ∧ refused.1 ≠ opened.registry ∧
        let run := opened.run [(.command (.resize "thermal" 0), none), (.tick, none)]
        opened.snapshot.pictures.names = ["power"] ∧
          run.1.snapshot.pictures.names = ["power", "thermal"] := by
  refine ⟨_, rfl, rfl, fun hsame => ?_, by decide +kernel, by decide +kernel⟩
  have hnames := congrArg (fun registry : Registry => registry.tabs.names) hsame
  revert hnames
  decide +kernel

end Session

end StripChart
