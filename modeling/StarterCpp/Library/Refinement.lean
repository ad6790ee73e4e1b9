import StarterCpp.Library.Run

/-!
# Refinement

An abstract object is a step function on events that refuses the events it does not
allow.  A system refines it when every history of the system is one that the object
allows; a relation between the states of the two that every step keeps shows this.
-/

namespace StarterCpp

variable {Abstract State Action Event Fault : Type*}

/-- The object after some events, unless it refuses one of them. -/
def allowed (next : Abstract → Event → Option Abstract) :
    Abstract → List Event → Option Abstract
  | object, [] => some object
  | object, event :: events => (next object event).bind fun later =>
      allowed next later events

section Allowed

variable {next : Abstract → Event → Option Abstract}
variable {object : Abstract}

@[simp] theorem allowed_nil : allowed next object [] = some object :=
  rfl

theorem allowed_cons (event : Event) (events : List Event) :
    allowed next object (event :: events) =
      (next object event).bind fun later => allowed next later events :=
  rfl

@[simp] theorem allowed_singleton (event : Event) :
    allowed next object [event] = next object event := by
  simp [allowed_cons]

theorem allowed_append (first second : List Event) :
    allowed next object (first ++ second) =
      (allowed next object first).bind fun later => allowed next later second := by
  induction first generalizing object with
  | nil => rfl
  | cons event first inductionHypothesis =>
      rw [List.cons_append, allowed_cons, allowed_cons, Option.bind_assoc]
      congr 1
      funext later
      exact inductionHypothesis

/-- What an object allows it allows up to any point. -/
theorem allowed_append_inv
    {first second : List Event}
    {final : Abstract}
    (allows : allowed next object (first ++ second) = some final) :
    ∃ middle, allowed next object first = some middle ∧
      allowed next middle second = some final := by
  rw [allowed_append] at allows
  exact Option.bind_eq_some_iff.mp allows

end Allowed

/-- The rule of forward simulation: when the object allows the events of every step
and the relation is kept, it allows the history of every run. -/
theorem Run.refines
    {step : State → Action → Except Fault (State × List Event)}
    {next : Abstract → Event → Option Abstract}
    {Related : Abstract → State → Prop}
    (stepRefines : ∀ object state action later emitted, Related object state →
      step state action = .ok (later, emitted) →
        ∃ after, allowed next object emitted = some after ∧ Related after later)
    {object : Abstract}
    {state final : State}
    (related : Related object state)
    {actions : List Action}
    {history : List Event}
    (ran : run step state actions = .ok (final, history)) :
    ∃ after, allowed next object history = some after ∧ Related after final := by
  induction actions generalizing object state history with
  | nil =>
      simp only [Run.run_nil, Except.ok.injEq, Prod.mk.injEq] at ran
      obtain ⟨rfl, rfl⟩ := ran
      exact ⟨object, rfl, related⟩
  | cons action actions inductionHypothesis =>
      obtain ⟨middle, emitted, later, stepped, rest, rfl⟩ := Run.run_cons_inv ran
      obtain ⟨between, allows, relatedMiddle⟩ :=
        stepRefines object state action middle emitted related stepped
      obtain ⟨after, allowsLater, relatedFinal⟩ :=
        inductionHypothesis relatedMiddle rest
      refine ⟨after, ?_, relatedFinal⟩
      rw [allowed_append, allows]
      exact allowsLater

end StarterCpp
