/-!
# Step machines

Much of this library is made of machines that take one input at a time: a step gives the
state afterwards and the list of what comes out. `Machine.run` takes a row of inputs and
joins what comes out. A row may be cut anywhere (`Machine.run_append`), and what every
step keeps is kept by every run: a property of one machine (`Machine.run_invariant`) as
well as a likeness of two (`Machine.run_related`).
-/

namespace StripChart

namespace Machine

variable {σ τ α ε : Type}

/-- Takes inputs one after the other and joins what comes out. -/
def run (step : σ → α → σ × List ε) (state : σ) : List α → σ × List ε
  | [] => (state, [])
  | a :: rest =>
    let (state, outputs) := step state a
    let (state, more) := run step state rest
    (state, outputs ++ more)

@[simp] theorem run_nil (step : σ → α → σ × List ε) (state : σ) :
    run step state [] = (state, []) :=
  rfl

@[simp] theorem run_cons (step : σ → α → σ × List ε) (state : σ) (a : α) (rest : List α) :
    run step state (a :: rest)
      = ((run step (step state a).1 rest).1,
          (step state a).2 ++ (run step (step state a).1 rest).2) :=
  rfl

/-- **A row of inputs may be cut anywhere.** -/
theorem run_append (step : σ → α → σ × List ε) (state : σ) (first second : List α) :
    run step state (first ++ second)
      = ((run step (run step state first).1 second).1,
          (run step state first).2 ++ (run step (run step state first).1 second).2) := by
  induction first generalizing state with
  | nil => rfl
  | cons a rest ih => simp [ih]

/-- **What every step keeps is kept by every run.** -/
theorem run_invariant {step : σ → α → σ × List ε} (invariant : σ → Prop)
    (keeps : ∀ state a, invariant state → invariant (step state a).1) {state : σ}
    (h : invariant state) (inputs : List α) : invariant (run step state inputs).1 := by
  induction inputs generalizing state with
  | nil => exact h
  | cons a rest ih => exact ih (keeps state a h)

/-- **Machines that are alike and stay alike at every step give out the same** and are
alike at the end. -/
theorem run_related {step : σ → α → σ × List ε} {step' : τ → α → τ × List ε}
    (related : σ → τ → Prop)
    (keeps : ∀ state state' a, related state state' →
      related (step state a).1 (step' state' a).1 ∧ (step state a).2 = (step' state' a).2)
    {state : σ} {state' : τ} (h : related state state') (inputs : List α) :
    related (run step state inputs).1 (run step' state' inputs).1 ∧
      (run step state inputs).2 = (run step' state' inputs).2 := by
  induction inputs generalizing state state' with
  | nil => exact ⟨h, rfl⟩
  | cons a rest ih =>
    obtain ⟨hstate, hout⟩ := keeps state state' a h
    obtain ⟨hrest, hmore⟩ := ih hstate
    exact ⟨hrest, by rw [run_cons, run_cons, hout, hmore]⟩

/-- **Inputs may be left out that do nothing, and replaced by others that do the same.** -/
theorem run_filterMap {step : σ → α → σ × List ε} {f : α → Option α}
    (hsome : ∀ state a b, f a = some b → step state b = step state a)
    (hnone : ∀ state a, f a = none → step state a = (state, [])) (state : σ) (inputs : List α) :
    run step state (inputs.filterMap f) = run step state inputs := by
  induction inputs generalizing state with
  | nil => rfl
  | cons a rest ih =>
    cases hf : f a with
    | none => rw [List.filterMap_cons_none hf, ih, run_cons, hnone state a hf, List.nil_append]
    | some b => rw [List.filterMap_cons_some hf, run_cons, run_cons, hsome state a b hf, ih]

/-- A machine that has come to rest stays at rest. -/
theorem run_of_fixed {step : σ → α → σ × List ε} {state : σ}
    (h : ∀ a, step state a = (state, [])) (inputs : List α) :
    run step state inputs = (state, []) := by
  induction inputs with
  | nil => rfl
  | cons a rest ih => simp [h, ih]

end Machine

end StripChart
