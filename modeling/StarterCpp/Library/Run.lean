import Mathlib.Data.List.Basic
import Mathlib.Logic.Basic

/-!
# Runs of a step function that may fault and emits outputs

A step takes a state and an event and either faults or returns the next state
with the outputs it emits.  A run folds the step over a list of events.  The
rules below carry an invariant from one step to every state and every output of
a run, and relate "no step faults" to a condition on the individual steps.
-/

namespace StarterCpp

variable {State Event Fault Output : Type*}

/-- Fold a faulting step over a list of events, collecting the outputs. -/
def run
    (step : State → Event → Except Fault (State × List Output)) :
    State → List Event → Except Fault (State × List Output)
  | state, [] => .ok (state, [])
  | state, event :: events =>
      match step state event with
      | .error fault => .error fault
      | .ok (next, emitted) =>
          match run step next events with
          | .error fault => .error fault
          | .ok (final, later) => .ok (final, emitted ++ later)

/-- A condition on the state before a step and its event, at every step that a
run takes. -/
def EachStep
    (step : State → Event → Except Fault (State × List Output))
    (condition : State → Event → Prop) :
    State → List Event → Prop
  | _, [] => True
  | state, event :: events =>
      condition state event ∧
        ∀ next emitted, step state event = .ok (next, emitted) →
          EachStep step condition next events

/-- A step whose outputs carry the event that caused them. -/
def tagged
    (step : State → Event → Except Fault (State × List Output))
    (state : State)
    (event : Event) : Except Fault (State × List (Event × Output)) :=
  match step state event with
  | .error fault => .error fault
  | .ok (next, emitted) => .ok (next, emitted.map (Prod.mk event))

namespace Run

variable {step : State → Event → Except Fault (State × List Output)}

@[simp] theorem run_nil (state : State) : run step state [] = .ok (state, []) :=
  rfl

/-- What holds of the result of a step holds of what the step is known to give. -/
theorem of_ok
    {Gives : List Output → State → Prop}
    {next state : State}
    {emitted outputs : List Output}
    (holds : Gives emitted next)
    (stepped : (.ok (next, emitted) : Except Fault (State × List Output)) =
      .ok (state, outputs)) :
    Gives outputs state := by
  cases stepped
  exact holds

/-- One step that succeeds, followed by the rest of the run. -/
theorem run_cons_ok
    {state next final : State}
    {event : Event}
    {events : List Event}
    {emitted later : List Output}
    (first : step state event = .ok (next, emitted))
    (rest : run step next events = .ok (final, later)) :
    run step state (event :: events) = .ok (final, emitted ++ later) := by
  simp [run, first, rest]

/-- A run that succeeds splits into its first step and the rest. -/
theorem run_cons_inv
    {state final : State}
    {event : Event}
    {events : List Event}
    {outputs : List Output}
    (ran : run step state (event :: events) = .ok (final, outputs)) :
    ∃ next emitted later,
      step state event = .ok (next, emitted) ∧
        run step next events = .ok (final, later) ∧
        outputs = emitted ++ later := by
  cases first : step state event with
  | error fault => simp [run, first] at ran
  | ok result =>
      obtain ⟨next, emitted⟩ := result
      cases rest : run step next events with
      | error fault => simp [run, first, rest] at ran
      | ok result =>
          obtain ⟨reached, later⟩ := result
          simp only [run, first, rest, Except.ok.injEq, Prod.mk.injEq] at ran
          obtain ⟨rfl, rfl⟩ := ran
          exact ⟨next, emitted, later, rfl, rest, rfl⟩

/-- Two runs in sequence are one run. -/
theorem run_append
    {state middle final : State}
    {events moreEvents : List Event}
    {outputs moreOutputs : List Output}
    (first : run step state events = .ok (middle, outputs))
    (second : run step middle moreEvents = .ok (final, moreOutputs)) :
    run step state (events ++ moreEvents) =
      .ok (final, outputs ++ moreOutputs) := by
  induction events generalizing state outputs with
  | nil =>
      simp only [run_nil, Except.ok.injEq, Prod.mk.injEq] at first
      obtain ⟨rfl, rfl⟩ := first
      simpa using second
  | cons event events inductionHypothesis =>
      obtain ⟨next, emitted, later, stepped, rest, rfl⟩ := run_cons_inv first
      rw [List.cons_append, List.append_assoc]
      exact run_cons_ok stepped (inductionHypothesis rest)

/-- A step that decorates another one runs as the other one does. -/
theorem run_map
    {Decorated Annotated Labelled : Type*}
    {decorated : Decorated → Annotated →
      Except Fault (Decorated × List Labelled)}
    {stateOf : Decorated → State}
    {eventOf : Annotated → Event}
    {outputOf : Labelled → Output}
    (erases : ∀ state event,
      (decorated state event).map (fun result =>
        (stateOf result.1, result.2.map outputOf)) =
          step (stateOf state) (eventOf event))
    {state final : Decorated}
    {events : List Annotated}
    {outputs : List Labelled}
    (ran : run decorated state events = .ok (final, outputs)) :
    run step (stateOf state) (events.map eventOf) =
      .ok (stateOf final, outputs.map outputOf) := by
  induction events generalizing state outputs with
  | nil =>
      simp only [run_nil, Except.ok.injEq, Prod.mk.injEq] at ran
      obtain ⟨rfl, rfl⟩ := ran
      rfl
  | cons event events inductionHypothesis =>
      obtain ⟨next, emitted, later, stepped, rest, rfl⟩ := run_cons_inv ran
      have first := erases state event
      rw [stepped] at first
      rw [List.map_cons, List.map_append]
      exact run_cons_ok first.symm (inductionHypothesis rest)

end Run

/-! ## Conditions along a run -/

namespace EachStep

variable {step : State → Event → Except Fault (State × List Output)}
variable {condition : State → Event → Prop}

/-- A decidable condition can be checked along a run. -/
instance decidable
    (step : State → Event → Except Fault (State × List Output))
    (condition : State → Event → Prop)
    [∀ state event, Decidable (condition state event)] :
    ∀ state events, Decidable (EachStep step condition state events)
  | _, [] => .isTrue trivial
  | state, event :: events =>
      match taken : step state event with
      | .error _ =>
          decidable_of_iff (condition state event) (by simp [EachStep, taken])
      | .ok (next, _) =>
          haveI := decidable step condition next events
          decidable_of_iff
            (condition state event ∧ EachStep step condition next events)
            (by simp [EachStep, taken])

/-- A condition along a run holds along every prefix of it. -/
theorem of_append
    {state : State}
    {events moreEvents : List Event}
    (conditions : EachStep step condition state (events ++ moreEvents)) :
    EachStep step condition state events := by
  induction events generalizing state with
  | nil => trivial
  | cons event events inductionHypothesis =>
      exact ⟨conditions.1, fun next emitted stepped =>
        inductionHypothesis (conditions.2 next emitted stepped)⟩

/-- Events that meet a condition in every state meet it along every run. -/
theorem of_forall_states
    {events : List Event}
    (each : ∀ event ∈ events, ∀ state, condition state event)
    (state : State) :
    EachStep step condition state events := by
  induction events generalizing state with
  | nil => trivial
  | cons event events inductionHypothesis =>
      exact ⟨each event List.mem_cons_self state, fun next _ _ =>
        inductionHypothesis (fun later member =>
          each later (List.mem_cons_of_mem event member)) next⟩

/-- A condition along a run continues over events that meet it in every state. -/
theorem append_of_forall
    {state : State}
    {events moreEvents : List Event}
    (conditions : EachStep step condition state events)
    (each : ∀ event ∈ moreEvents, ∀ state, condition state event) :
    EachStep step condition state (events ++ moreEvents) := by
  induction events generalizing state with
  | nil => exact of_forall_states each state
  | cons event events inductionHypothesis =>
      exact ⟨conditions.1, fun next emitted stepped =>
        inductionHypothesis (conditions.2 next emitted stepped)⟩

/-- A condition along a run holds at the state that any prefix of it reaches. -/
theorem reached
    {state middle : State}
    {events late : List Event}
    {event : Event}
    {outputs : List Output}
    (conditions : EachStep step condition state (events ++ event :: late))
    (ran : run step state events = .ok (middle, outputs)) :
    condition middle event := by
  induction events generalizing state outputs with
  | nil =>
      obtain ⟨rfl, _⟩ := Prod.mk.inj (Except.ok.inj ran)
      exact conditions.1
  | cons first events inductionHypothesis =>
      obtain ⟨next, emitted, later, stepped, rest, _⟩ := Run.run_cons_inv ran
      exact inductionHypothesis (conditions.2 next emitted stepped) rest

/-- A condition on the events alone holds along every run over them. -/
theorem of_forall
    {admissible : Event → Prop}
    {events : List Event}
    (each : ∀ event ∈ events, admissible event)
    {state : State} :
    EachStep step (fun _ event => admissible event) state events := by
  induction events generalizing state with
  | nil => trivial
  | cons event events inductionHypothesis =>
      exact ⟨each event List.mem_cons_self, fun _ _ _ =>
        inductionHypothesis fun later member =>
          each later (List.mem_cons_of_mem event member)⟩

/-- A condition on the events alone joins a condition along a run. -/
theorem and_forall
    {admissible : Event → Prop}
    {state : State}
    {events : List Event}
    (conditions : EachStep step condition state events)
    (each : ∀ event ∈ events, admissible event) :
    EachStep step (fun state event => admissible event ∧ condition state event)
      state events := by
  induction events generalizing state with
  | nil => trivial
  | cons event events inductionHypothesis =>
      exact ⟨⟨each event List.mem_cons_self, conditions.1⟩,
        fun next emitted stepped =>
          inductionHypothesis (conditions.2 next emitted stepped)
            fun later member => each later (List.mem_cons_of_mem event member)⟩

end EachStep

namespace Run

variable {step : State → Event → Except Fault (State × List Output)}

section Invariant

variable {Invariant : State → Prop}
variable {condition : State → Event → Prop}
variable {allowed : Output → Prop}

/-- When every step that meets the condition succeeds, keeps the invariant and
emits only allowed outputs, so does every run whose steps meet it. -/
theorem run_ok_of_eachStep
    (stepOk : ∀ state event, Invariant state → condition state event →
      ∃ next emitted, step state event = .ok (next, emitted) ∧
        Invariant next ∧ ∀ output ∈ emitted, allowed output)
    {state : State}
    (start : Invariant state)
    {events : List Event}
    (conditions : EachStep step condition state events) :
    ∃ final outputs, run step state events = .ok (final, outputs) ∧
      Invariant final ∧ ∀ output ∈ outputs, allowed output := by
  induction events generalizing state with
  | nil => exact ⟨state, [], rfl, start, by simp⟩
  | cons event events inductionHypothesis =>
      obtain ⟨holds, remaining⟩ := conditions
      obtain ⟨next, emitted, stepped, kept, allowedNow⟩ :=
        stepOk state event start holds
      obtain ⟨final, later, ran, keptFinal, allowedLater⟩ :=
        inductionHypothesis kept (remaining next emitted stepped)
      refine ⟨final, emitted ++ later, run_cons_ok stepped ran, keptFinal, ?_⟩
      intro output member
      rcases List.mem_append.mp member with now | afterwards
      · exact allowedNow output now
      · exact allowedLater output afterwards

/-- When a step from an invariant state succeeds only under the condition, and
then keeps the invariant, every step of a run that succeeds meets it. -/
theorem eachStep_of_run_ok
    (stepNeeds : ∀ state event next emitted, Invariant state →
      step state event = .ok (next, emitted) →
        condition state event ∧ Invariant next)
    {state final : State}
    (start : Invariant state)
    {events : List Event}
    {outputs : List Output}
    (ran : run step state events = .ok (final, outputs)) :
    EachStep step condition state events := by
  induction events generalizing state outputs with
  | nil => trivial
  | cons event events inductionHypothesis =>
      obtain ⟨next, emitted, later, stepped, rest, _⟩ := run_cons_inv ran
      refine ⟨(stepNeeds state event next emitted start stepped).1, ?_⟩
      intro next' emitted' stepped'
      rw [stepped, Except.ok.injEq, Prod.mk.injEq] at stepped'
      obtain ⟨rfl, rfl⟩ := stepped'
      exact inductionHypothesis
        (stepNeeds state event next emitted start stepped).2 rest

/-- When every step on an admissible event succeeds and keeps the invariant, so
does every run over admissible events. -/
theorem run_ok_of_forall
    {admissible : Event → Prop}
    (stepOk : ∀ state event, Invariant state → admissible event →
      ∃ next emitted, step state event = .ok (next, emitted) ∧ Invariant next)
    {state : State}
    (start : Invariant state)
    {events : List Event}
    (each : ∀ event ∈ events, admissible event) :
    ∃ final outputs, run step state events = .ok (final, outputs) ∧
      Invariant final := by
  have stepOkTrivially : ∀ state event, Invariant state → admissible event →
      ∃ next emitted, step state event = .ok (next, emitted) ∧
        Invariant next ∧ ∀ output ∈ emitted, True := by
    intro state event holds meets
    obtain ⟨next, emitted, stepped, kept⟩ := stepOk state event holds meets
    exact ⟨next, emitted, stepped, kept, fun _ _ => trivial⟩
  obtain ⟨final, outputs, ran, kept, _⟩ :=
    run_ok_of_eachStep stepOkTrivially start (EachStep.of_forall each)
  exact ⟨final, outputs, ran, kept⟩

/-- What every step keeps holds of the final state of every run. -/
theorem invariant_of_run_ok
    (stepKeeps : ∀ state event next emitted, Invariant state →
      step state event = .ok (next, emitted) → Invariant next)
    {state final : State}
    (start : Invariant state)
    {events : List Event}
    {outputs : List Output}
    (ran : run step state events = .ok (final, outputs)) :
    Invariant final := by
  induction events generalizing state outputs with
  | nil =>
      simp only [run_nil, Except.ok.injEq, Prod.mk.injEq] at ran
      exact ran.1 ▸ start
  | cons event events inductionHypothesis =>
      obtain ⟨next, emitted, later, stepped, rest, _⟩ := run_cons_inv ran
      exact inductionHypothesis
        (stepKeeps state event next emitted start stepped) rest

/-- When a step from an invariant state succeeds and keeps the invariant exactly
under the condition, every prefix of a run succeeds and ends in an invariant
state exactly when every step of it meets the condition. -/
theorem prefixes_ok_iff_eachStep
    {assumed : State → Event → Prop}
    (stepIff : ∀ state event, Invariant state → assumed state event →
      ((∃ next emitted, step state event = .ok (next, emitted) ∧
        Invariant next) ↔ condition state event))
    {state : State}
    (start : Invariant state)
    {events : List Event}
    (assumptions : EachStep step assumed state events) :
    (∀ early, early <+: events →
        ∃ final outputs, run step state early = .ok (final, outputs) ∧
          Invariant final) ↔
      EachStep step condition state events := by
  constructor
  · intro prefixes
    induction events generalizing state with
    | nil => trivial
    | cons event events inductionHypothesis =>
        obtain ⟨final, outputs, ran, kept⟩ := prefixes [event] (by simp)
        obtain ⟨next, emitted, later, stepped, rest, _⟩ := run_cons_inv ran
        obtain ⟨rfl, _⟩ := Prod.mk.inj (Except.ok.inj rest)
        refine ⟨(stepIff state event start assumptions.1).mp
          ⟨next, emitted, stepped, kept⟩, ?_⟩
        intro next' emitted' stepped'
        rw [stepped, Except.ok.injEq, Prod.mk.injEq] at stepped'
        obtain ⟨rfl, rfl⟩ := stepped'
        apply inductionHypothesis kept (assumptions.2 next emitted stepped)
        intro early isPrefix
        obtain ⟨reached, all, ranAll, keptAll⟩ :=
          prefixes (event :: early) (List.cons_prefix_cons.mpr ⟨rfl, isPrefix⟩)
        obtain ⟨_, _, tail, stepped', restAll, _⟩ := run_cons_inv ranAll
        rw [stepped, Except.ok.injEq, Prod.mk.injEq] at stepped'
        obtain ⟨rfl, rfl⟩ := stepped'
        exact ⟨reached, tail, restAll, keptAll⟩
  · rintro conditions early ⟨late, rfl⟩
    induction early generalizing state with
    | nil => exact ⟨state, [], rfl, start⟩
    | cons event early inductionHypothesis =>
        obtain ⟨next, emitted, stepped, kept⟩ :=
          (stepIff state event start assumptions.1).mpr conditions.1
        obtain ⟨final, later, ran, keptFinal⟩ :=
          inductionHypothesis kept (assumptions.2 next emitted stepped)
            (conditions.2 next emitted stepped)
        exact ⟨final, emitted ++ later, run_cons_ok stepped ran, keptFinal⟩

end Invariant

/-! ## Outputs that carry their event -/

theorem tagged_ok
    {state next : State}
    {event : Event}
    {emitted : List Output}
    (stepped : step state event = .ok (next, emitted)) :
    tagged step state event = .ok (next, emitted.map (Prod.mk event)) := by
  simp [tagged, stepped]

theorem tagged_inv
    {state next : State}
    {event : Event}
    {outputs : List (Event × Output)}
    (stepped : tagged step state event = .ok (next, outputs)) :
    ∃ emitted, step state event = .ok (next, emitted) ∧
      outputs = emitted.map (Prod.mk event) := by
  cases first : step state event with
  | error fault => simp [tagged, first] at stepped
  | ok result =>
      obtain ⟨reached, emitted⟩ := result
      simp only [tagged, first, Except.ok.injEq, Prod.mk.injEq] at stepped
      obtain ⟨rfl, rfl⟩ := stepped
      exact ⟨emitted, rfl, rfl⟩

/-- Every output of a tagged run was emitted by a step on its event. -/
theorem emitted_of_mem_tagged
    {state final : State}
    {events : List Event}
    {outputs : List (Event × Output)}
    (ran : run (tagged step) state events = .ok (final, outputs))
    {output : Event × Output}
    (member : output ∈ outputs) :
    output.1 ∈ events ∧ ∃ before next emitted,
      step before output.1 = .ok (next, emitted) ∧ output.2 ∈ emitted := by
  induction events generalizing state outputs with
  | nil =>
      simp only [run_nil, Except.ok.injEq, Prod.mk.injEq] at ran
      rw [← ran.2] at member
      exact absurd member List.not_mem_nil
  | cons event events inductionHypothesis =>
      obtain ⟨next, first, later, stepped, rest, rfl⟩ := run_cons_inv ran
      obtain ⟨emitted, firstStep, rfl⟩ := tagged_inv stepped
      rcases List.mem_append.mp member with now | afterwards
      · obtain ⟨value, valueEmitted, rfl⟩ := List.mem_map.mp now
        exact ⟨List.mem_cons_self, state, next, emitted, firstStep, valueEmitted⟩
      · obtain ⟨among, source⟩ := inductionHypothesis rest afterwards
        exact ⟨List.mem_cons_of_mem event among, source⟩

end Run
end StarterCpp
