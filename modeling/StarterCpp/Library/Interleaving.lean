import StarterCpp.Library.Run

/-!
# Interleavings of several threads

A system of threads is a step function on the actions of all of them; an action
that its thread cannot take in a state is disabled there, and a run that
succeeds is an interleaving.  The outputs of a run are its history.  The rules
below carry an invariant that relates a state to the history before it, and say
when a condition on the steps decides a property of the states that are reached.
-/

namespace StarterCpp

variable {State Action Output : Type*}

/-- The one fault of an interleaving: the action was not enabled. -/
inductive Disabled
  | disabled
  deriving DecidableEq, Repr

/-- A step that is enabled under a guard. -/
def guarded
    (enabled : Prop)
    [Decidable enabled]
    (next : State)
    (emitted : List Output) : Except Disabled (State × List Output) :=
  if enabled then .ok (next, emitted) else .error .disabled

@[simp] theorem guarded_eq_ok
    {enabled : Prop}
    [Decidable enabled]
    {next state : State}
    {emitted outputs : List Output} :
    guarded enabled next emitted = .ok (state, outputs) ↔
      enabled ∧ next = state ∧ emitted = outputs := by
  unfold guarded
  split_ifs with holds
  · simp [holds]
  · simp [holds]

namespace Run

variable {Fault : Type*}
variable {step : State → Action → Except Fault (State × List Output)}
variable {condition : State → Action → Prop}
variable {Holds : List Output → State → Prop}

/-- A relation between a state and the history before it that every step under
the condition keeps holds at the end of every run whose steps meet it. -/
theorem history_of_eachStep
    (stepKeeps : ∀ past state action next emitted, Holds past state →
      condition state action → step state action = .ok (next, emitted) →
        Holds (past ++ emitted) next)
    {past : List Output}
    {state final : State}
    (start : Holds past state)
    {actions : List Action}
    {outputs : List Output}
    (conditions : EachStep step condition state actions)
    (ran : run step state actions = .ok (final, outputs)) :
    Holds (past ++ outputs) final := by
  induction actions generalizing past state outputs with
  | nil =>
      simp only [run_nil, Except.ok.injEq, Prod.mk.injEq] at ran
      obtain ⟨rfl, rfl⟩ := ran
      simpa using start
  | cons action actions inductionHypothesis =>
      obtain ⟨next, emitted, later, stepped, rest, rfl⟩ := run_cons_inv ran
      obtain ⟨meets, remaining⟩ := conditions
      rw [← List.append_assoc]
      apply inductionHypothesis _ (remaining next emitted stepped) rest
      exact stepKeeps past state action next emitted start meets stepped

/-- The rule for a relation that every step keeps. -/
theorem history_of_run
    (stepKeeps : ∀ past state action next emitted, Holds past state →
      step state action = .ok (next, emitted) → Holds (past ++ emitted) next)
    {state final : State}
    (start : Holds [] state)
    {actions : List Action}
    {outputs : List Output}
    (ran : run step state actions = .ok (final, outputs)) :
    Holds outputs final := by
  have keepsUnder : ∀ past before action next emitted, Holds past before →
      True → step before action = .ok (next, emitted) →
        Holds (past ++ emitted) next := by
    intro past before action next emitted holds _ stepped
    exact stepKeeps past before action next emitted holds stepped
  have conditions : EachStep step (fun _ _ => True) state actions :=
    EachStep.of_forall fun _ _ => trivial
  exact history_of_eachStep keepsUnder start conditions ran

/-- When every state that is not final has an admissible step that decreases a
measure, some admissible run reaches a final state. -/
theorem completes
    {Invariant Final : State → Prop}
    {admissible : Action → Prop}
    {measure : State → ℕ}
    (progress : ∀ state, Invariant state → ¬Final state →
      ∃ action next emitted, admissible action ∧
        step state action = .ok (next, emitted) ∧ Invariant next ∧
          measure next < measure state)
    {state : State}
    (start : Invariant state) :
    ∃ actions final outputs, (∀ action ∈ actions, admissible action) ∧
      run step state actions = .ok (final, outputs) ∧ Final final := by
  induction bound : measure state using Nat.strongRecOn generalizing state with
  | ind bound inductionHypothesis =>
      by_cases isFinal : Final state
      · exact ⟨[], state, [], by simp, rfl, isFinal⟩
      · obtain ⟨action, next, emitted, allowed, stepped, kept, decreases⟩ :=
          progress state start isFinal
        rw [bound] at decreases
        obtain ⟨actions, final, later, allAllowed, ran, reached⟩ :=
          inductionHypothesis (measure next) decreases kept rfl
        exact ⟨action :: actions, final, emitted ++ later,
          List.forall_mem_cons.mpr ⟨allowed, allAllowed⟩,
          run_cons_ok stepped ran, reached⟩

/-- When every step between active states decreases a measure, a run through active
states is no longer than the measure at its start. -/
theorem length_le_of_decreasing
    {Invariant Active : State → Prop}
    {measure : State → ℕ}
    (decreases : ∀ state action next emitted, Invariant state → Active state →
      step state action = .ok (next, emitted) →
        Invariant next ∧ (Active next → measure next < measure state))
    {state final : State}
    (start : Invariant state)
    {actions : List Action}
    {outputs : List Output}
    (active : EachStep step (fun before _ => Active before) state actions)
    (ran : run step state actions = .ok (final, outputs))
    (activeFinal : Active final) :
    measure final + actions.length ≤ measure state := by
  induction actions generalizing state outputs with
  | nil =>
      simp only [run_nil, Except.ok.injEq, Prod.mk.injEq] at ran
      exact Nat.le_of_eq (congrArg measure ran.1.symm)
  | cons action actions inductionHypothesis =>
      obtain ⟨next, emitted, later, stepped, rest, rfl⟩ := run_cons_inv ran
      obtain ⟨isActive, remaining⟩ := active
      obtain ⟨kept, fewer⟩ := decreases state action next emitted start isActive stepped
      have activeNext : Active next := by
        cases actions with
        | nil =>
            simp only [run_nil, Except.ok.injEq, Prod.mk.injEq] at rest
            exact rest.1 ▸ activeFinal
        | cons _ _ => exact (remaining next emitted stepped).1
      have bound := inductionHypothesis kept (remaining next emitted stepped) rest
      have less := fewer activeNext
      rw [List.length_cons]
      omega

end Run

/-- A condition on the steps decides a property of history and state: runs whose
steps all meet it keep the property, and after the first step that does not
meet it some continuation loses the property. -/
structure Decides
    (step : State → Action → Except Disabled (State × List Output))
    (start : State)
    (condition : State → Action → Prop)
    (Good : List Output → State → Prop) : Prop where
  /-- The condition is enough. -/
  sufficient : ∀ actions final outputs,
    EachStep step condition start actions →
    run step start actions = .ok (final, outputs) →
      Good outputs final
  /-- The condition is needed. -/
  necessary : ∀ actions middle outputs action next emitted,
    EachStep step condition start actions →
    run step start actions = .ok (middle, outputs) →
    step middle action = .ok (next, emitted) →
    ¬condition middle action →
      ∃ more final later,
        run step next more = .ok (final, later) ∧
          ¬Good (outputs ++ emitted ++ later) final

/-- A condition decides a property when an invariant carries the property along
the steps that meet the condition, and shows how a step that does not meet it is
continued. -/
theorem Decides.of_invariant
    {step : State → Action → Except Disabled (State × List Output)}
    {start : State}
    {condition : State → Action → Prop}
    {Good Invariant : List Output → State → Prop}
    (initial : Invariant [] start)
    (stepKeeps : ∀ past state action next emitted, Invariant past state →
      condition state action → step state action = .ok (next, emitted) →
        Invariant (past ++ emitted) next)
    (good : ∀ past state, Invariant past state → Good past state)
    (loses : ∀ past state action next emitted, Invariant past state →
      step state action = .ok (next, emitted) → ¬condition state action →
        ∃ more final later, run step next more = .ok (final, later) ∧
          ¬Good (past ++ emitted ++ later) final) :
    Decides step start condition Good where
  sufficient := by
    intro actions final outputs conditions ran
    apply good
    exact Run.history_of_eachStep stepKeeps initial conditions ran
  necessary := by
    intro actions middle outputs action next emitted conditions ran stepped fails
    apply loses _ _ _ _ _ ?_ stepped fails
    exact Run.history_of_eachStep stepKeeps initial conditions ran

end StarterCpp
