import StarterCpp.CommonUtils.SnoozableTimer

/-!
# The watch of the snoozable timer

What decides when the timer fires is its execution time, whether it is active and
whether its thread is between a decision to fire and the rewrite of the execution
time.  The steps of the threads refine the steps of this watch.
-/

namespace StarterCpp
namespace CommonUtils
namespace SnoozableTimer

/-- The time and the period in force of a call that arms the timer. -/
def Output.arming : Output → Option (Int × Int32)
  | .armed _ time periodMs => some (time, periodMs)
  | .fired _ | .called | .rearmed _ | .halted => none

/-- Whether an output is a decision to fire. -/
def Output.isFired : Output → Bool
  | .fired _ => true
  | .armed _ _ _ | .called | .rearmed _ | .halted => false

/-- A timer without the positions of its threads. -/
structure Watch where
  executionTime : Int
  /-- Armed by a start and not yet stopped. -/
  active : Bool
  /-- From a decision to fire to the rewrite of the execution time. -/
  firing : Bool

/-- Whether `start` has armed the timer and is about to set the running flag. -/
def Controller.raising : Controller → Bool
  | .startFlag => true
  | .idle | .startTest | .startArm | .startSpawn | .stopLock | .stopNotify
  | .stopJoin => false

/-- Whether the timer runs or is about to. -/
def active (timer : SnoozableTimer) : Bool :=
  timer.isRunning || timer.controller.raising

/-- The watch of a timer. -/
def watch (timer : SnoozableTimer) : Watch where
  executionTime := timer.executionTime
  active := timer.active
  firing := timer.thread.any Position.firing

namespace Watch

/-- The steps of a watch. -/
inductive Step : Watch → List Output → Watch → Prop
  | internal (watch : Watch) : Step watch [] watch
  | called (watch : Watch) : Step watch [.called] watch
  | started (watch : Watch) (now : Int) (periodMs : Int32)
      (inactive : watch.active = false)
      (notFiring : watch.firing = false) :
      Step watch [.armed .start now periodMs]
        { watch with
          executionTime := now + milliseconds periodMs
          active := true }
  | snoozed (watch : Watch) (cause : Cause) (now : Int) (periodMs : Int32)
      (later : cause ≠ .start) :
      Step watch [.armed cause now periodMs]
        { watch with executionTime := now + milliseconds periodMs }
  | halted (watch : Watch) : Step watch [.halted] { watch with active := false }
  | fired (watch : Watch) (now : Int)
      (active : watch.active = true)
      (notFiring : watch.firing = false) :
      Step watch [.fired now] { watch with firing := true }
  | rearmed (watch : Watch) (now : Int)
      (firing : watch.firing = true) :
      Step watch [.rearmed now]
        { watch with executionTime := now + rearmHours, firing := false }

end Watch

/-- The controlling thread has cleared the running flag and has not yet joined
the timer thread. -/
def Stopping (timer : SnoozableTimer) : Prop :=
  timer.controller = .stopNotify ∨ timer.controller = .stopJoin

/-- What relates the running flag, the thread and the controlling thread. -/
structure Consistent (timer : SnoozableTimer) : Prop where
  notTerminated : timer.terminated = false
  quiet : timer.isRunning = false → timer.thread = none ∨ timer.Stopping
  lowered : timer.Stopping ∨ timer.controller = .startArm ∨
    timer.controller = .startFlag → timer.isRunning = false
  unassigned : timer.controller = .startArm ∨ timer.controller = .startFlag ∨
    timer.controller = .startSpawn → timer.thread = none
  raised : timer.controller = .startSpawn → timer.isRunning = true

theorem consistent_new (periodMs : Int32) : (new periodMs).Consistent where
  notTerminated := rfl
  quiet := fun _ => .inl rfl
  lowered := fun _ => rfl
  unassigned := fun _ => rfl
  raised := by simp [new]

/-- What the refinement says of one step. -/
structure Refines
    (timer : SnoozableTimer)
    (emitted : List Output)
    (next : SnoozableTimer) : Prop where
  consistent : next.Consistent
  watch : Watch.Step timer.watch emitted next.watch

section Refinement

variable {timer next : SnoozableTimer}
variable {emitted : List Output}

@[simp] theorem any_firing_notify (thread : Option Position) :
    (thread.map Position.notify).any Position.firing =
      thread.any Position.firing := by
  cases thread <;> simp

theorem consistent_notifyAll (consistent : timer.Consistent) :
    timer.notifyAll.Consistent := by
  obtain ⟨notTerminated, quiet, lowered, unassigned, raised⟩ := consistent
  refine ⟨notTerminated, ?_, lowered, ?_, raised⟩
  · intro stopped
    rcases quiet stopped with none | stopping
    · exact .inl (by simp [notifyAll, none])
    · exact .inr stopping
  · intro starting
    simp [notifyAll, unassigned starting]

theorem snooze_refines
    (consistent : timer.Consistent)
    {cause : Cause}
    (later : cause ≠ .start)
    {now : Int}
    (stepped : timer.snooze cause now = .ok (next, emitted)) :
    Refines timer emitted next := by
  simp only [snooze, arm, guarded_eq_ok] at stepped
  obtain ⟨_, rfl, rfl⟩ := stepped
  constructor
  · apply consistent_notifyAll
    exact ⟨consistent.notTerminated, consistent.quiet, consistent.lowered,
      consistent.unassigned, consistent.raised⟩
  · have step := Watch.Step.snoozed timer.watch cause now timer.snoozePeriodMs
      later
    simpa [watch, active, notifyAll] using step

theorem call_refines
    (consistent : timer.Consistent)
    {controller : Controller}
    (first : controller = .startTest ∨ controller = .stopLock)
    (stepped : timer.call controller = .ok (next, emitted)) :
    Refines timer emitted next := by
  simp only [call, guarded_eq_ok] at stepped
  obtain ⟨idle, rfl, rfl⟩ := stepped
  have notStopping : ¬timer.Stopping := by simp [Stopping, idle]
  have same : watch { timer with controller := controller } = timer.watch := by
    rcases first with rfl | rfl <;>
      simp [watch, active, idle, Controller.raising]
  constructor
  · refine ⟨consistent.notTerminated, ?_, ?_, ?_, ?_⟩
    · intro stopped
      exact .inl ((consistent.quiet stopped).resolve_right notStopping)
    · rcases first with rfl | rfl <;> simp [Stopping]
    · rcases first with rfl | rfl <;> simp
    · rcases first with rfl | rfl <;> simp
  · rw [same]
    exact .internal timer.watch

theorem control_refines
    (consistent : timer.Consistent)
    {now : Int}
    (stepped : timer.control now = .ok (next, emitted)) :
    Refines timer emitted next := by
  obtain ⟨notTerminated, quiet, lowered, unassigned, raised⟩ := consistent
  unfold control at stepped
  cases here : timer.controller with
  | idle => simp [here] at stepped
  | startTest =>
      simp only [here, Except.ok.injEq, Prod.mk.injEq] at stepped
      obtain ⟨rfl, rfl⟩ := stepped
      cases running : timer.isRunning with
      | true =>
          refine ⟨⟨notTerminated, by simp, by simp [Stopping], by simp,
            by simp⟩, ?_⟩
          have step := Watch.Step.internal timer.watch
          simpa [watch, active, here, Controller.raising, running] using step
      | false =>
          have none := (quiet running).resolve_right (by simp [Stopping, here])
          refine ⟨⟨notTerminated, fun _ => .inl none, fun _ => rfl,
            fun _ => none, by simp⟩, ?_⟩
          have step := Watch.Step.internal timer.watch
          simpa [watch, active, here, Controller.raising, running] using step
  | startArm =>
      have none := unassigned (.inl here)
      have stopped := lowered (.inr (.inl here))
      simp only [here, arm, Except.ok.injEq, Prod.mk.injEq] at stepped
      obtain ⟨rfl, rfl⟩ := stepped
      refine ⟨⟨notTerminated, fun _ => .inl none, fun _ => stopped,
        fun _ => none, by simp⟩, ?_⟩
      have step := Watch.Step.started timer.watch now timer.snoozePeriodMs
        (by simp [watch, active, here, Controller.raising, stopped]) (by simp [watch, none])
      simpa [watch, active, here, Controller.raising, stopped] using step
  | startFlag =>
      have none := unassigned (.inr (.inl here))
      simp only [here, Except.ok.injEq, Prod.mk.injEq] at stepped
      obtain ⟨rfl, rfl⟩ := stepped
      refine ⟨⟨notTerminated, by simp, by simp [Stopping], fun _ => none,
        fun _ => rfl⟩, ?_⟩
      have step := Watch.Step.internal timer.watch
      simpa [watch, active, here, Controller.raising] using step
  | startSpawn =>
      have none := unassigned (.inr (.inr here))
      have running := raised here
      simp only [here, none, Except.ok.injEq, Prod.mk.injEq] at stepped
      obtain ⟨rfl, rfl⟩ := stepped
      refine ⟨⟨notTerminated, by simp [running], by simp [Stopping], by simp,
        by simp⟩, ?_⟩
      have step := Watch.Step.internal timer.watch
      simpa [watch, active, here, Controller.raising, running, none, Position.firing] using step
  | stopLock =>
      simp only [here, guarded_eq_ok] at stepped
      obtain ⟨_, rfl, rfl⟩ := stepped
      refine ⟨⟨notTerminated, fun _ => .inr (.inl rfl), fun _ => rfl, by simp,
        by simp⟩, ?_⟩
      have step := Watch.Step.halted timer.watch
      simpa [watch, active, here, Controller.raising] using step
  | stopNotify =>
      have stopped := lowered (.inl (.inl here))
      simp only [here, Except.ok.injEq, Prod.mk.injEq] at stepped
      obtain ⟨rfl, rfl⟩ := stepped
      refine ⟨⟨notTerminated, fun _ => .inr (.inr rfl), fun _ => stopped,
        by simp, by simp⟩, ?_⟩
      have step := Watch.Step.internal timer.watch
      simpa [watch, active, here, Controller.raising, notifyAll] using step
  | stopJoin =>
      have stopped := lowered (.inl (.inr here))
      simp only [here] at stepped
      split at stepped
      · next none =>
          obtain ⟨rfl, rfl⟩ := Prod.mk.inj (Except.ok.inj stepped)
          refine ⟨⟨notTerminated, fun _ => .inl none, by simp [Stopping],
            by simp, by simp⟩, ?_⟩
          have step := Watch.Step.internal timer.watch
          simpa [watch, active, here, Controller.raising] using step
      · next position held =>
          simp only [guarded_eq_ok] at stepped
          obtain ⟨rfl, rfl, rfl⟩ := stepped
          refine ⟨⟨notTerminated, fun _ => .inl rfl, by simp [Stopping],
            by simp, by simp⟩, ?_⟩
          have step := Watch.Step.internal timer.watch
          simpa [watch, active, here, Controller.raising, held, Position.firing] using step

theorem thread_consistent
    (consistent : timer.Consistent)
    {position : Position}
    (held : timer.thread = some position)
    (moved : Position)
    (executionTime : Int) :
    Consistent { timer with
      thread := some moved
      executionTime := executionTime } := by
  obtain ⟨notTerminated, quiet, lowered, unassigned, raised⟩ := consistent
  refine ⟨notTerminated, ?_, lowered, ?_, raised⟩
  · intro stopped
    exact .inr ((quiet stopped).resolve_left (by simp [held]))
  · intro starting
    have none := unassigned starting
    rw [held] at none
    simp at none

theorem threadStep_refines
    (consistent : timer.Consistent)
    {position : Position}
    (held : timer.thread = some position)
    {now : Int}
    {timedOut : Bool}
    (stepped : timer.threadStep position now timedOut = .ok (next, emitted)) :
    Refines timer emitted next := by
  have moves : ∀ moved, moved.firing = position.firing →
      Refines timer [] { timer with thread := some moved } := by
    intro moved same
    refine ⟨thread_consistent consistent held moved timer.executionTime, ?_⟩
    have step := Watch.Step.internal timer.watch
    simpa [watch, active, held, same] using step
  cases position with
  | acquiring | entering | unlocking | relocking =>
      simp only [threadStep, Except.ok.injEq, Prod.mk.injEq] at stepped
      obtain ⟨rfl, rfl⟩ := stepped
      exact moves _ rfl
  | loopTest =>
      simp only [threadStep, Except.ok.injEq, Prod.mk.injEq] at stepped
      obtain ⟨rfl, rfl⟩ := stepped
      apply moves
      split_ifs <;> rfl
  | blocked | finished => simp [threadStep] at stepped
  | woken =>
      simp only [threadStep] at stepped
      split_ifs at stepped with fires
      · obtain ⟨rfl, rfl⟩ := Prod.mk.inj (Except.ok.inj stepped)
        refine ⟨thread_consistent consistent held _ timer.executionTime, ?_⟩
        have step := Watch.Step.fired timer.watch now
          (by simp [watch, active, fires.2]) (by simp [watch, held, Position.firing])
        simpa [watch, active, held, Position.firing] using step
      · obtain ⟨rfl, rfl⟩ := Prod.mk.inj (Except.ok.inj stepped)
        exact moves _ rfl
  | calling =>
      simp only [threadStep, Except.ok.injEq, Prod.mk.injEq] at stepped
      obtain ⟨rfl, rfl⟩ := stepped
      refine ⟨thread_consistent consistent held _ timer.executionTime, ?_⟩
      have step := Watch.Step.called timer.watch
      simpa [watch, active, held, Position.firing] using step
  | rearming =>
      simp only [threadStep, Except.ok.injEq, Prod.mk.injEq] at stepped
      obtain ⟨rfl, rfl⟩ := stepped
      refine ⟨thread_consistent consistent held _ _, ?_⟩
      have step := Watch.Step.rearmed timer.watch now
        (by simp [watch, held, Position.firing])
      simpa [watch, active, held, Position.firing] using step

/-- Every step of the threads is a step of the watch. -/
theorem step_refines
    (consistent : timer.Consistent)
    {action : Action}
    (stepped : timer.step action = .ok (next, emitted)) :
    Refines timer emitted next := by
  rw [step, if_neg (by simp [consistent.notTerminated])] at stepped
  cases action with
  | start => exact call_refines consistent (.inl rfl) stepped
  | stop => exact call_refines consistent (.inr rfl) stepped
  | control now => exact control_refines consistent stepped
  | snooze now => exact snooze_refines consistent (by simp) stepped
  | updatePeriod periodMs =>
      simp only [move, guarded_eq_ok] at stepped
      obtain ⟨_, rfl, rfl⟩ := stepped
      exact ⟨⟨consistent.notTerminated, consistent.quiet, consistent.lowered,
        consistent.unassigned, consistent.raised⟩, .internal timer.watch⟩
  | updateSnooze now =>
      simp only [move] at stepped
      split at stepped
      · simp at stepped
      · next remaining pending =>
          have consistentPending : Consistent
              { timer with pendingUpdates := remaining } :=
            ⟨consistent.notTerminated, consistent.quiet, consistent.lowered,
              consistent.unassigned, consistent.raised⟩
          obtain ⟨consistentNext, watchStep⟩ :=
            snooze_refines consistentPending (by simp) stepped
          exact ⟨consistentNext, watchStep⟩
  | thread now timedOut =>
      simp only [move] at stepped
      split at stepped
      · simp at stepped
      · next position held => exact threadStep_refines consistent held stepped
  | wake =>
      simp only [move, guarded_eq_ok] at stepped
      obtain ⟨blocked, rfl, rfl⟩ := stepped
      refine ⟨thread_consistent consistent blocked _ timer.executionTime, ?_⟩
      have step := Watch.Step.internal timer.watch
      simpa [watch, active, blocked, Position.firing] using step

end Refinement

/-- Which step an output can come from. -/
def Origin (timer : SnoozableTimer) (action : Action) : Output → Prop
  | .armed _ now _ =>
      timer.controller = .startArm ∨
        timer.MutexFree ∧ (action = .snooze now ∨ action = .updateSnooze now)
  | .fired now => action = .thread now true ∧ timer.thread = some .woken
  | .rearmed now => ∃ timedOut, action = .thread now timedOut
  | .called | .halted => True

theorem origin_of_control
    {timer next : SnoozableTimer}
    {now : Int}
    {emitted : List Output}
    (stepped : timer.control now = .ok (next, emitted))
    (action : Action) :
    ∀ output ∈ emitted, timer.Origin action output := by
  unfold control at stepped
  cases here : timer.controller with
  | idle => simp [here] at stepped
  | startArm =>
      simp only [here, arm, Except.ok.injEq, Prod.mk.injEq] at stepped
      obtain ⟨_, rfl⟩ := stepped
      simp [Origin, here]
  | startTest | startFlag | stopNotify =>
      simp only [here, Except.ok.injEq, Prod.mk.injEq] at stepped
      obtain ⟨_, rfl⟩ := stepped
      simp
  | startSpawn =>
      simp only [here] at stepped
      split at stepped
      all_goals
        obtain ⟨_, rfl⟩ := Prod.mk.inj (Except.ok.inj stepped)
        simp
  | stopLock =>
      simp only [here, guarded_eq_ok] at stepped
      obtain ⟨_, _, rfl⟩ := stepped
      simp [Origin]
  | stopJoin =>
      simp only [here] at stepped
      split at stepped
      · obtain ⟨_, rfl⟩ := Prod.mk.inj (Except.ok.inj stepped)
        simp
      · simp only [guarded_eq_ok] at stepped
        obtain ⟨_, _, rfl⟩ := stepped
        simp

theorem origin_of_threadStep
    {timer next : SnoozableTimer}
    {position : Position}
    (held : timer.thread = some position)
    {now : Int}
    {timedOut : Bool}
    {emitted : List Output}
    (stepped : timer.threadStep position now timedOut = .ok (next, emitted)) :
    ∀ output ∈ emitted, timer.Origin (.thread now timedOut) output := by
  cases position with
  | acquiring | loopTest | entering | unlocking | relocking =>
      simp only [threadStep, Except.ok.injEq, Prod.mk.injEq] at stepped
      obtain ⟨_, rfl⟩ := stepped
      simp
  | blocked | finished => simp [threadStep] at stepped
  | woken =>
      simp only [threadStep] at stepped
      split_ifs at stepped with fires
      · obtain ⟨_, rfl⟩ := Prod.mk.inj (Except.ok.inj stepped)
        simp [Origin, held, fires.1]
      · obtain ⟨_, rfl⟩ := Prod.mk.inj (Except.ok.inj stepped)
        simp
  | calling | rearming =>
      simp only [threadStep, Except.ok.injEq, Prod.mk.injEq] at stepped
      obtain ⟨_, rfl⟩ := stepped
      simp [Origin]

/-- Only a snooze and a start arm the timer, and only its thread fires and moves
the execution time away. -/
theorem origin_of_step
    {timer next : SnoozableTimer}
    {action : Action}
    {emitted : List Output}
    (stepped : timer.step action = .ok (next, emitted)) :
    ∀ output ∈ emitted, timer.Origin action output := by
  rw [step] at stepped
  split_ifs at stepped
  cases action with
  | start | stop | wake | updatePeriod _ =>
      simp only [move, call, guarded_eq_ok] at stepped
      obtain ⟨_, _, rfl⟩ := stepped
      simp
  | control now => exact origin_of_control stepped _
  | snooze now =>
      simp only [move, snooze, arm, guarded_eq_ok] at stepped
      obtain ⟨free, _, rfl⟩ := stepped
      simp [Origin, free]
  | updateSnooze now =>
      simp only [move] at stepped
      split at stepped
      · simp at stepped
      · simp only [snooze, arm, guarded_eq_ok] at stepped
        obtain ⟨free, _, rfl⟩ := stepped
        have freeBefore : timer.MutexFree := free
        simp [Origin, freeBefore]
  | thread now timedOut =>
      simp only [move] at stepped
      split at stepped
      · simp at stepped
      · next position held => exact origin_of_threadStep held stepped

end SnoozableTimer
end CommonUtils
end StarterCpp
