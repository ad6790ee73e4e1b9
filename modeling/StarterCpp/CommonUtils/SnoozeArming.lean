import StarterCpp.CommonUtils.SnoozableWatch

/-!
# Snoozes and the execution time

The timer thread calls the function without the mutex and then moves the execution
time away.  A snooze that lands in between is overwritten: the timer runs on and
does not fire again.
-/

namespace StarterCpp
namespace CommonUtils
namespace SnoozableTimer

/-- The time at which the execution time was moved away. -/
def Output.rearming : Output → Option Int
  | .rearmed time => some time
  | .armed _ _ _ | .fired _ | .called | .halted => none

/-- The latest arming call after the most recent decision to fire. -/
def lastArming (history : List Output) : Option (Int × Int32) :=
  History.latest Output.arming (History.since Output.isFired history)

section LastArming

variable {past : List Output}

@[simp] theorem lastArming_armed
    (cause : Cause)
    (time : Int)
    (periodMs : Int32) :
    lastArming (past ++ [.armed cause time periodMs]) =
      some (time, periodMs) := by
  rw [lastArming, History.since_concat_false rfl]
  exact History.latest_concat_some rfl

@[simp] theorem lastArming_fired (time : Int) :
    lastArming (past ++ [.fired time]) = none := by
  rw [lastArming, History.since_concat_true rfl]
  rfl

theorem lastArming_of_other
    {output : Output}
    (notFired : output.isFired = false)
    (notArming : output.arming = none) :
    lastArming (past ++ [output]) = lastArming past := by
  rw [lastArming, History.since_concat_false notFired]
  exact History.latest_concat_none notArming

end LastArming

/-- The execution time is the one that the latest arming call has set, if one came
after the most recent decision to fire, and the far one if none did. -/
def Keeps (history : List Output) (executionTime : Int) : Prop :=
  match lastArming history with
  | some (time, periodMs) => executionTime = time + milliseconds periodMs
  | none => ∃ time, History.latest Output.rearming history = some time ∧
      executionTime = time + rearmHours

/-- No snooze is lost: a running timer that is back in its wait keeps the
execution time of the latest arming call. -/
def NothingLost (history : List Output) (timer : SnoozableTimer) : Prop :=
  timer.isRunning = true → timer.thread = some .blocked →
    Keeps history timer.executionTime

/-- The running timer is not snoozed between the release of the mutex for the
call of the function and the relock after it. -/
def SnoozesOutside (timer : SnoozableTimer) (action : Action) : Prop :=
  ∀ now, action = .snooze now ∨ action = .updateSnooze now →
    timer.isRunning = true →
      timer.thread ≠ some .calling ∧ timer.thread ≠ some .relocking

namespace Watch

/-- While it fires an active watch has not been armed again; otherwise it keeps
what the history says. -/
def Armed (past : List Output) (watch : Watch) : Prop :=
  watch.active = true →
    if watch.firing then lastArming past = none
    else Keeps past watch.executionTime

variable {past emitted : List Output}
variable {watch next : Watch}

/-- What says nothing about arming or firing keeps the account. -/
theorem Armed.append
    (armed : Armed past watch)
    {output : Output}
    (notFired : output.isFired = false)
    (notArming : output.arming = none)
    (notRearming : output.rearming = none) :
    Armed (past ++ [output]) watch := by
  unfold Armed Keeps at *
  rw [lastArming_of_other notFired notArming,
    History.latest_concat_none notRearming]
  exact armed

theorem Armed.step
    (armed : Armed past watch)
    (step : Watch.Step watch emitted next)
    (outside : ∀ cause now periodMs, emitted = [.armed cause now periodMs] →
      watch.active = true → watch.firing = false) :
    Armed (past ++ emitted) next := by
  cases step with
  | internal => rwa [List.append_nil]
  | called => exact armed.append rfl rfl rfl
  | started now periodMs inactive notFiring =>
      intro _
      simp [notFiring, Keeps]
  | snoozed cause now periodMs later =>
      intro active
      have notFiring := outside cause now periodMs rfl active
      simp [notFiring, Keeps]
  | halted =>
      intro active
      simp at active
  | fired now active notFiring =>
      intro _
      simp
  | rearmed now firing =>
      intro active
      have none := armed active
      rw [if_pos firing] at none
      have noneNow : lastArming (past ++ [.rearmed now]) = .none := by
        rw [lastArming_of_other rfl rfl, none]
      simp only [Bool.false_eq_true, if_false, Keeps, noneNow]
      exact ⟨now, History.latest_concat_some rfl, rfl⟩

end Watch

/-- A consistent timer whose watch keeps what the history says. -/
structure Punctual (past : List Output) (timer : SnoozableTimer) : Prop where
  consistent : timer.Consistent
  armed : timer.watch.Armed past

namespace Punctual

variable {past emitted : List Output}
variable {timer next : SnoozableTimer}

theorem nothingLost (punctual : Punctual past timer) :
    NothingLost past timer := by
  intro running blocked
  have keeps := punctual.armed (by simp [watch, active, running])
  simpa [watch, blocked, Position.firing] using keeps

/-- A thread that is firing without the mutex is in its call or about to
relock. -/
theorem not_firing
    (free : timer.MutexFree)
    (outside : timer.thread ≠ some .calling ∧ timer.thread ≠ some .relocking) :
    timer.watch.firing = false := by
  cases held : timer.thread with
  | none => simp [watch, held]
  | some position =>
      have notHolding := free position held
      rw [held] at outside
      cases position <;> simp_all [watch, Position.firing, Position.holdsMutex]

/-- Under the condition the timer is armed only while its thread is not firing. -/
theorem outside_of_step
    (consistent : timer.Consistent)
    {action : Action}
    (outside : timer.SnoozesOutside action)
    (stepped : timer.step action = .ok (next, emitted))
    {cause : Cause}
    {now : Int}
    {periodMs : Int32}
    (arms : emitted = [.armed cause now periodMs])
    (running : timer.watch.active = true) :
    timer.watch.firing = false := by
  have withoutThread : timer.thread = none → timer.watch.firing = false := by
    intro none
    simp [watch, none]
  subst arms
  have origin := origin_of_step stepped _ (List.mem_singleton_self _)
  rcases origin with starting | ⟨free, snoozes⟩
  · exact withoutThread (consistent.unassigned (.inl starting))
  · cases isRunning : timer.isRunning with
    | true => exact not_firing free (outside now snoozes isRunning)
    | false =>
        have raising : timer.controller.raising = true := by
          simpa [watch, active, isRunning] using running
        apply withoutThread
        apply consistent.unassigned
        cases here : timer.controller <;> simp_all [Controller.raising]

theorem step
    (punctual : Punctual past timer)
    {action : Action}
    (outside : timer.SnoozesOutside action)
    (stepped : timer.step action = .ok (next, emitted)) :
    Punctual (past ++ emitted) next := by
  obtain ⟨consistent, watchStep⟩ := step_refines punctual.consistent stepped
  refine ⟨consistent, punctual.armed.step watchStep ?_⟩
  intro cause now periodMs arms running
  exact outside_of_step punctual.consistent outside stepped arms running

end Punctual

/-- From its relock a running timer goes back to its wait with the far execution
time. -/
theorem run_from_relocking
    (timer : SnoozableTimer)
    (alive : timer.terminated = false)
    (running : timer.isRunning = true)
    (relocking : timer.thread = some .relocking)
    (now : Int) :
    run step timer [.thread 0 false, .thread now false, .thread 0 false,
      .thread 0 false] =
        .ok ({ timer with
          executionTime := now + rearmHours
          thread := some .blocked }, [.rearmed now]) := by
  simp [run, step, move, threadStep, alive, running, relocking]

/-- The critical section of a snooze, where the thread does not wait. -/
theorem snooze_inv
    {timer next : SnoozableTimer}
    {emitted : List Output}
    {cause : Cause}
    {now : Int}
    (stepped : timer.snooze cause now = .ok (next, emitted)) :
    next.terminated = timer.terminated ∧ next.isRunning = timer.isRunning ∧
      next.thread = timer.thread.map Position.notify ∧
      emitted = [.armed cause now timer.snoozePeriodMs] := by
  simp only [snooze, arm, guarded_eq_ok] at stepped
  obtain ⟨_, rfl, rfl⟩ := stepped
  exact ⟨rfl, rfl, rfl, rfl⟩

/-- An arming call that the timer thread overwrites is lost. -/
theorem not_nothingLost
    {past : List Output}
    {timer : SnoozableTimer}
    {now : Int}
    {periodMs : Int32}
    (armed : lastArming past = some (now, periodMs))
    (running : timer.isRunning = true)
    (blocked : timer.thread = some .blocked)
    (overwritten : timer.executionTime = now + rearmHours) :
    ¬NothingLost past timer := by
  intro nothingLost
  have keeps := nothingLost running blocked
  simp only [Keeps, armed, overwritten] at keeps
  have short := periodMs.toInt_lt
  unfold rearmHours milliseconds at keeps
  omega

/-- A snooze of the running timer while its thread is in its call is overwritten:
the thread goes back to its wait with the far execution time. -/
theorem lost_of_snooze_in_call
    (past : List Output)
    {emitted : List Output}
    {timer next : SnoozableTimer}
    {action : Action}
    (stepped : timer.step action = .ok (next, emitted))
    (inside : ¬timer.SnoozesOutside action) :
    ∃ more final later, run step next more = .ok (final, later) ∧
      ¬NothingLost (past ++ emitted ++ later) final := by
  simp only [SnoozesOutside, not_forall, not_and_or, not_not] at inside
  obtain ⟨now, snoozes, running, held⟩ := inside
  rw [step] at stepped
  split_ifs at stepped with terminated
  have snoozed : next.terminated = false ∧ next.isRunning = true ∧
      next.thread = timer.thread ∧
      ∃ cause periodMs, emitted = [.armed cause now periodMs] := by
    have unnotified : timer.thread.map Position.notify = timer.thread := by
      rcases held with calling | relocking
      · rw [calling]
        rfl
      · rw [relocking]
        rfl
    rcases snoozes with rfl | rfl
    · obtain ⟨alive, runs, thread, emits⟩ := snooze_inv stepped
      exact ⟨alive.trans (by simpa using terminated), runs.trans running,
        thread.trans unnotified, _, _, emits⟩
    · simp only [move] at stepped
      split at stepped
      · simp at stepped
      · obtain ⟨alive, runs, thread, emits⟩ := snooze_inv stepped
        exact ⟨alive.trans (by simpa using terminated), runs.trans running,
          thread.trans unnotified, _, _, emits⟩
  obtain ⟨alive, runningNext, heldNext, cause, periodMs, rfl⟩ := snoozed
  rcases held with calling | relocking
  · have called : step next (.thread 0 false) =
        .ok ({ next with thread := some .relocking }, [.called]) := by
      simp [step, move, threadStep, alive, heldNext, calling]
    have ran := Run.run_cons_ok called
      (run_from_relocking { next with thread := some .relocking } alive
        runningNext rfl now)
    have armed : lastArming (past ++ [.armed cause now periodMs] ++
        ([.called] ++ [.rearmed now])) = some (now, periodMs) := by
      rw [← List.append_assoc, lastArming_of_other rfl rfl,
        lastArming_of_other rfl rfl, lastArming_armed]
    refine ⟨_, _, _, ran, not_nothingLost armed ?_ rfl rfl⟩
    exact runningNext
  · have ran := run_from_relocking next alive runningNext
      (heldNext.trans relocking) now
    have armed : lastArming (past ++ [.armed cause now periodMs] ++
        [.rearmed now]) = some (now, periodMs) := by
      rw [lastArming_of_other rfl rfl, lastArming_armed]
    refine ⟨_, _, _, ran, not_nothingLost armed ?_ rfl rfl⟩
    exact runningNext

/-- In a run of the timer no snooze is lost exactly as long as the running timer
is not snoozed between the release of the mutex for the call of the function and
the relock after it. -/
theorem snoozing_outside_decides_arming (periodMs : Int32) :
    Decides step (new periodMs) SnoozesOutside NothingLost := by
  have initial : Punctual [] (new periodMs) := by
    refine ⟨consistent_new periodMs, ?_⟩
    intro active
    simp [new, watch, SnoozableTimer.active, Controller.raising] at active
  apply Decides.of_invariant initial
  · intro past timer action next emitted punctual outside stepped
    exact punctual.step outside stepped
  · intro past timer punctual
    exact punctual.nothingLost
  · intro past timer action next emitted punctual stepped inside
    exact lost_of_snooze_in_call past stepped inside

/-- The function snoozes the timer it is called by; the timer runs on, back in its
wait, with an execution time ten years away. -/
theorem snooze_in_call_lost :
    ∃ (actions : List Action) (final : SnoozableTimer) (history : List Output),
      run step (new 10) actions = .ok (final, history) ∧
        ¬NothingLost history final := by
  let final : SnoozableTimer :=
    { new 10 with
      executionTime := 10000001 + rearmHours
      isRunning := true
      thread := some .blocked }
  let history : List Output := [.armed .start 0 10, .fired 10000000,
    .armed .snooze 10000000 10, .called, .rearmed 10000001]
  have lost : lastArming history = some (10000000, 10) := rfl
  refine ⟨[.start, .control 0, .control 0, .control 0, .control 0,
    .thread 0 false, .thread 0 false, .thread 0 false, .wake,
    .thread 10000000 true, .thread 10000000 false, .snooze 10000000,
    .thread 10000000 false, .thread 10000000 false, .thread 10000001 false,
    .thread 10000001 false, .thread 10000001 false], final, history, rfl, ?_⟩
  intro nothingLost
  have keeps := nothingLost rfl rfl
  rw [Keeps, lost] at keeps
  exact absurd keeps (by decide)

end SnoozableTimer
end CommonUtils
end StarterCpp
