import StarterCpp.CommonUtils.Timer

/-!
# Restarting the timer

A start joins the previous thread only when it finds the running flag set.  A
one-shot timer that has expired has cleared the flag, and its thread is still
joinable: the next start assigns over it.
-/

namespace StarterCpp
namespace CommonUtils
namespace Timer

variable {Func : Type*}

/-- A thread is never assigned over a joinable one, and at most one timer thread
is alive. -/
structure Safe (timer : Timer Func) : Prop where
  notTerminated : timer.terminated = false
  oneAlive : ∀ (first second : ℕ) (thread other : TimerThread Func),
    timer.thread.threads[first]? = some thread → ¬thread.Ended →
    timer.thread.threads[second]? = some other → ¬other.Ended →
      first = second

/-- No start tests the running flag while a one-shot timer that has expired by
itself is still to be joined. -/
def JoinsExpired (timer : Timer Func) (action : Action Func) : Prop :=
  action = .control → ∀ task, timer.controller = .checkRunning task →
    ∀ thread, timer.thread.current = some thread →
      thread.position ≠ .expired

/-- The controlling thread has cleared the running flag and has not yet joined
the timer thread. -/
def Stopping (timer : Timer Func) : Prop :=
  ∃ restart, timer.controller = .stopNotify restart ∨
    timer.controller = .stopJoin restart

/-- What relates the running flag to the thread variable. -/
structure Restartable (timer : Timer Func) : Prop where
  notTerminated : timer.terminated = false
  sole : timer.thread.Sole TimerThread.Ended
  flag : ∀ thread, timer.thread.current = some thread →
    timer.isRunning = true ∨ thread.position = .expired ∨ timer.Stopping
  cleared : ∀ thread, timer.thread.current = some thread →
    thread.position = .expired → timer.isRunning = false
  released : ∀ task,
    timer.controller = .setRunning task ∨ timer.controller = .assign task →
      timer.thread.handle = none
  raised : ∀ task, timer.controller = .assign task → timer.isRunning = true

/-- A thread that moves has not ended, and clears the running flag exactly when
it expires. -/
theorem threadStep_inv
    {timer : Timer Func}
    {thread : TimerThread Func}
    {running : Bool}
    {position : Position}
    {emitted : List (Output Func)}
    (stepped : timer.threadStep thread = .ok (running, position, emitted)) :
    ¬thread.Ended ∧
      ((running = timer.isRunning ∧ position ≠ .expired) ∨
        (running = false ∧ position = .expired)) := by
  have after : thread.afterCall ≠ .expired := by
    unfold TimerThread.afterCall
    split <;> simp
  unfold threadStep at stepped
  unfold TimerThread.Ended
  cases here : thread.position with
  | loopTest =>
      simp only [here, Except.ok.injEq, Prod.mk.injEq] at stepped
      obtain ⟨rfl, rfl, _⟩ := stepped
      refine ⟨by simp, .inl ⟨rfl, ?_⟩⟩
      split_ifs <;> simp
  | acquiring =>
      simp only [here] at stepped
      split_ifs at stepped
      simp only [Except.ok.injEq, Prod.mk.injEq] at stepped
      obtain ⟨rfl, rfl, _⟩ := stepped
      exact ⟨by simp, .inl ⟨rfl, by simp⟩⟩
  | waiting wait =>
      simp only [here] at stepped
      split_ifs at stepped
      split at stepped
      · simp at stepped
      all_goals
        simp only [Except.ok.injEq, Prod.mk.injEq] at stepped
        obtain ⟨rfl, rfl, _⟩ := stepped
        exact ⟨by simp, .inl ⟨rfl, by simp⟩⟩
  | deciding =>
      simp only [here, Except.ok.injEq, Prod.mk.injEq] at stepped
      obtain ⟨rfl, rfl, _⟩ := stepped
      refine ⟨by simp, .inl ⟨rfl, ?_⟩⟩
      split_ifs
      · simp
      · exact after
  | calling =>
      simp only [here, Except.ok.injEq, Prod.mk.injEq] at stepped
      obtain ⟨rfl, rfl, _⟩ := stepped
      exact ⟨by simp, .inl ⟨rfl, after⟩⟩
  | clearing =>
      simp only [here, Except.ok.injEq, Prod.mk.injEq] at stepped
      obtain ⟨rfl, rfl, _⟩ := stepped
      exact ⟨by simp, .inr ⟨rfl, rfl⟩⟩
  | returned | expired => simp [here] at stepped

namespace Restartable

variable {timer next : Timer Func}
variable {emitted : List (Output Func)}

theorem start : Restartable (start : Timer Func) where
  notTerminated := rfl
  sole := .empty
  flag := by simp [Timer.start]
  cleared := by simp [Timer.start]
  released := by simp [Timer.start]
  raised := by simp [Timer.start]

theorem safe (restartable : timer.Restartable) : timer.Safe where
  notTerminated := restartable.notTerminated
  oneAlive := by
    intro first second thread other foundFirst firstAlive foundSecond secondAlive
    exact restartable.sole.unique foundFirst firstAlive foundSecond secondAlive

/-- A controlling thread outside `stop` finds the flag set or the thread
expired. -/
theorem moves
    (restartable : timer.Restartable)
    {controller : Controller Func}
    (notStopping : ¬timer.Stopping)
    (notReleased : ∀ task,
      controller ≠ .setRunning task ∧ controller ≠ .assign task) :
    Restartable { timer with controller := controller } where
  notTerminated := restartable.notTerminated
  sole := restartable.sole
  flag := by
    intro thread held
    rcases restartable.flag thread held with running | expired | stopping
    · exact .inl running
    · exact .inr (.inl expired)
    · exact absurd stopping notStopping
  cleared := restartable.cleared
  released := by
    rintro task (setting | assigning)
    · exact absurd setting (notReleased task).1
    · exact absurd assigning (notReleased task).2
  raised := fun task assigning => absurd assigning (notReleased task).2

/-- Where a call begins, the controlling thread is in none. -/
theorem call
    (restartable : timer.Restartable)
    {controller : Controller Func}
    (notReleased : ∀ task,
      controller ≠ .setRunning task ∧ controller ≠ .assign task)
    (stepped : timer.call controller = .ok (next, emitted)) :
    next.Restartable := by
  unfold Timer.call at stepped
  split at stepped
  · next idle =>
      obtain ⟨rfl, _⟩ := Prod.mk.inj (Except.ok.inj stepped)
      apply restartable.moves _ notReleased
      rintro ⟨restart, stopping | stopping⟩ <;> simp [idle] at stopping
  all_goals simp at stepped

/-- After a join the variable is released, whatever the call goes on with. -/
theorem afterJoin
    (restartable : timer.Restartable)
    (joined : ∀ thread, timer.thread.current = some thread → thread.Ended)
    (restart : Option (Task Func)) :
    Restartable { timer with
      thread := timer.thread.release
      controller := Controller.afterStop restart } where
  notTerminated := restartable.notTerminated
  sole := restartable.sole.release joined
  flag := by simp
  cleared := by simp
  released := fun _ _ => rfl
  raised := by
    intro task assigning
    cases restart <;> simp [Controller.afterStop] at assigning

theorem control
    (restartable : timer.Restartable)
    (joins : timer.JoinsExpired .control)
    (stepped : timer.control = .ok (next, emitted)) :
    next.Restartable := by
  unfold Timer.control at stepped
  cases here : timer.controller with
  | idle => simp [here] at stepped
  | checkRunning task =>
      simp only [here, Except.ok.injEq, Prod.mk.injEq] at stepped
      obtain ⟨rfl, _⟩ := stepped
      have notStopping : ¬timer.Stopping := by
        rintro ⟨restart, stopping | stopping⟩ <;> simp [here] at stopping
      split_ifs with running
      · exact restartable.moves notStopping (by simp)
      · have none : timer.thread.current = none := by
          cases held : timer.thread.current with
          | none => rfl
          | some thread =>
              rcases restartable.flag thread held with
                flag | expired | stopping
              · exact absurd flag running
              · exact absurd expired (joins rfl task here thread held)
              · exact absurd stopping notStopping
        have released := restartable.sole.current_eq_none.mp none
        exact ⟨restartable.notTerminated, restartable.sole, by simp [none],
          by simp [none], fun _ _ => released, by simp⟩
  | stopLock restart =>
      simp only [here, guarded_eq_ok] at stepped
      obtain ⟨_, rfl, _⟩ := stepped
      exact ⟨restartable.notTerminated, restartable.sole,
        fun _ _ => .inr (.inr ⟨restart, .inl rfl⟩), fun _ _ _ => rfl, by simp,
        by simp⟩
  | stopNotify restart =>
      simp only [here, Except.ok.injEq, Prod.mk.injEq] at stepped
      obtain ⟨rfl, _⟩ := stepped
      refine ⟨restartable.notTerminated,
        restartable.sole.map fun _ => TimerThread.Ended.notify,
        fun _ _ => .inr (.inr ⟨restart, .inr rfl⟩), ?_, by simp, by simp⟩
      intro thread held expired
      rw [ThreadSlot.current_map, Option.map_eq_some_iff] at held
      obtain ⟨before, heldBefore, rfl⟩ := held
      apply restartable.cleared before heldBefore
      exact TimerThread.notify_position_eq_expired.mp expired
  | stopJoin restart =>
      simp only [here] at stepped
      split at stepped
      · next none =>
          obtain ⟨rfl, _⟩ := Prod.mk.inj (Except.ok.inj stepped)
          have released := restartable.sole.current_eq_none.mp none
          have same : timer.thread.release = timer.thread := by
            rw [ThreadSlot.release, ← released]
          have after := restartable.afterJoin (by simp [none]) restart
          rwa [same] at after
      · next thread held =>
          simp only [guarded_eq_ok] at stepped
          obtain ⟨ended, rfl, _⟩ := stepped
          apply restartable.afterJoin
          intro other heldOther
          rw [held, Option.some.injEq] at heldOther
          exact heldOther ▸ ended
  | setRunning task =>
      simp only [here, Except.ok.injEq, Prod.mk.injEq] at stepped
      obtain ⟨rfl, _⟩ := stepped
      have released := restartable.released task (.inl here)
      have none := restartable.sole.current_eq_none.mpr released
      exact ⟨restartable.notTerminated, restartable.sole, by simp [none],
        by simp [none], fun _ _ => released, fun _ _ => rfl⟩
  | assign task =>
      have released := restartable.released task (.inr here)
      have running := restartable.raised task here
      simp only [here, released, Except.ok.injEq, Prod.mk.injEq] at stepped
      obtain ⟨rfl, _⟩ := stepped
      refine ⟨restartable.notTerminated,
        restartable.sole.spawn released (TimerThread.start task),
        fun _ _ => .inl running, ?_, by simp, by simp⟩
      intro thread held expired
      rw [ThreadSlot.current_spawn, Option.some.injEq] at held
      subst held
      unfold TimerThread.start at expired
      cases kind : task.kind <;> simp [kind] at expired

/-- A timer thread that moves is the one the variable refers to. -/
theorem thread
    (restartable : timer.Restartable)
    {index : ℕ}
    {thread : TimerThread Func}
    (found : timer.thread.threads[index]? = some thread)
    (alive : ¬thread.Ended)
    {running : Bool}
    {position : Position}
    (moved : (running = timer.isRunning ∧ position ≠ .expired) ∨
      (running = false ∧ position = .expired)) :
    Restartable { timer with
      isRunning := running
      thread := timer.thread.set index { thread with position := position } } := by
  have current := restartable.sole.current_of_alive found alive
  have currentNext := restartable.sole.current_set found alive
    { thread with position := position }
  have held := restartable.sole.others index thread found alive
  refine ⟨restartable.notTerminated, restartable.sole.set found alive _,
    ?_, ?_, ?_, ?_⟩
  · intro reached heldReached
    simp only [currentNext, Option.some.injEq] at heldReached
    subst heldReached
    rcases moved with ⟨rfl, _⟩ | ⟨_, expired⟩
    · rcases restartable.flag thread current with flag | expired | stopping
      · exact .inl flag
      · exact absurd (.inr expired) alive
      · exact .inr (.inr stopping)
    · exact .inr (.inl expired)
  · intro reached heldReached expired
    simp only [currentNext, Option.some.injEq] at heldReached
    subst heldReached
    rcases moved with ⟨_, notExpired⟩ | ⟨cleared, _⟩
    · exact absurd expired notExpired
    · exact cleared
  · intro task assigning
    have released := restartable.released task assigning
    rw [released] at held
    simp at held
  · intro task assigning
    have released := restartable.released task (.inr assigning)
    rw [released] at held
    simp at held

/-- Every step keeps the relation, if expired threads are joined before a
restart. -/
theorem step
    (restartable : timer.Restartable)
    {action : Action Func}
    (joins : timer.JoinsExpired action)
    (stepped : timer.step action = .ok (next, emitted)) :
    next.Restartable := by
  rw [Timer.step, if_neg (by simp [restartable.notTerminated])] at stepped
  cases action with
  | startOneShot func | startPeriodic func | stop =>
      exact restartable.call (by simp) stepped
  | control => exact restartable.control joins stepped
  | thread index =>
      simp only [move] at stepped
      split at stepped
      · simp at stepped
      · next thread found =>
          split at stepped
          · simp at stepped
          · next running position outputs moved =>
              obtain ⟨rfl, _⟩ := Prod.mk.inj (Except.ok.inj stepped)
              obtain ⟨alive, effect⟩ := threadStep_inv moved
              exact restartable.thread found alive effect
  | wake index timedOut =>
      simp only [move] at stepped
      split at stepped
      · simp at stepped
      · next thread found =>
          simp only [guarded_eq_ok] at stepped
          obtain ⟨waits, rfl, _⟩ := stepped
          have alive : ¬thread.Ended := by
            rintro (ended | ended) <;> simp [blocked, ended] at waits
          have notExpired : Position.waiting (.woken timedOut) ≠ .expired := by
            simp
          exact restartable.thread found alive (.inl ⟨rfl, notExpired⟩)

end Restartable

/-- A start that finds the flag cleared by an expired thread assigns over it. -/
theorem terminates_of_expired
    {timer next : Timer Func}
    {emitted : List (Output Func)}
    (restartable : timer.Restartable)
    {action : Action Func}
    (stepped : timer.step action = .ok (next, emitted))
    (unjoined : ¬timer.JoinsExpired action) :
    ∃ final, run step next [.control, .control] = .ok (final, []) ∧
      final.terminated = true := by
  simp only [JoinsExpired, Classical.not_imp, not_forall, not_not] at unjoined
  obtain ⟨rfl, task, checking, thread, held, expired⟩ := unjoined
  have cleared := restartable.cleared thread held expired
  have joinable : timer.thread.handle ≠ none := by
    intro released
    rw [restartable.sole.current_eq_none.mpr released] at held
    simp at held
  obtain ⟨index, handle⟩ := Option.ne_none_iff_exists'.mp joinable
  have alive := restartable.notTerminated
  simp only [step, alive, move, control, checking, cleared, Bool.false_eq_true,
    if_false, Except.ok.injEq, Prod.mk.injEq] at stepped
  obtain ⟨rfl, _⟩ := stepped
  refine ⟨{ timer with
    isRunning := true
    controller := .assign task
    terminated := true }, ?_, rfl⟩
  simp [run, step, move, control, handle]

/-- The timer can be restarted in a run exactly as long as no start tests the
running flag while an expired one-shot thread is still to be joined. -/
theorem joining_decides_restart :
    Decides step (start : Timer Func) JoinsExpired fun _ timer => timer.Safe := by
  let Holds : List (Output Func) → Timer Func → Prop :=
    fun _ timer => timer.Restartable
  have initial : Holds [] start := Restartable.start
  apply Decides.of_invariant initial
  · intro _ _ _ _ _ restartable joins stepped
    exact Restartable.step restartable joins stepped
  · intro _ _ restartable
    exact Restartable.safe restartable
  · intro _ timer action next emitted restartable stepped unjoined
    obtain ⟨final, ran, terminated⟩ :=
      terminates_of_expired restartable stepped unjoined
    refine ⟨_, final, [], ran, ?_⟩
    intro safe
    rw [safe.notTerminated] at terminated
    simp at terminated

/-- A one-shot timer fires and expires; the next start terminates the program. -/
theorem restart_terminates :
    ∃ (actions : List (Action Unit)) (final : Timer Unit)
        (history : List (Output Unit)),
      run step start actions = .ok (final, history) ∧ final.terminated = true :=
  ⟨[.startOneShot (), .control, .control, .control,
    .thread 0, .thread 0, .thread 0, .wake 0 true, .thread 0, .thread 0,
    .thread 0, .thread 0, .thread 0,
    .startOneShot (), .control, .control, .control], _, _, rfl, rfl⟩

end Timer
end CommonUtils
end StarterCpp
