import StarterCpp.CommonUtils.TimerCalls

/-!
# Stopping the timer

A stop clears the running flag under the mutex, so no timer thread is about to block
when it notifies, and none is blocked when it joins.  After the critical section every
step of any thread brings the join nearer, and one of them can be taken without the
help of a timeout.
-/

namespace StarterCpp
namespace CommonUtils

variable {Func : Type*}

/-! ## The steps that are left -/

/-- The steps that a thread takes at most once the running flag is cleared; a thread
that is about to block, to decide, to call or to clear the flag is none of these. -/
def Position.left : Position → ℕ
  | .returned | .expired => 0
  | .loopTest | .waiting .testing | .waiting .lastTesting => 1
  | .acquiring | .waiting (.woken _) => 2
  | .waiting .blocked => 3
  | .waiting .blocking | .deciding | .calling | .clearing => 4

namespace Position

theorem left_le_of_not_holdsMutex
    {position : Position}
    (free : position.holdsMutex = false) :
    position.left ≤ 3 := by
  cases position with
  | waiting wait =>
      cases wait with
      | blocked | woken _ => simp [left]
      | testing | blocking | lastTesting => cases free
  | loopTest | acquiring | returned | expired => decide
  | deciding | calling | clearing => cases free

/-- A notification leaves no thread blocked. -/
theorem left_notify
    {position : Position}
    (settled : position.left ≤ 3) :
    position.notify.left ≤ 2 ∧ position.notify.left ≤ position.left := by
  cases position with
  | waiting wait =>
      cases wait with
      | blocked | woken _ | testing | lastTesting =>
          simp [notify, Wait.notify, left]
      | blocking => simp [left] at settled
  | loopTest | acquiring | returned | expired => simp [notify, left]
  | deciding | calling | clearing => simp [left] at settled

end Position

namespace Timer

variable {timer next : Timer Func}
variable {emitted : List (Output Func)}

/-- With the running flag cleared, every step of a thread leaves fewer. -/
theorem left_threadStep
    {thread : TimerThread Func}
    {running : Bool}
    {position : Position}
    (cleared : timer.isRunning = false)
    (settled : thread.position.left ≤ 3)
    (stepped : timer.threadStep thread = .ok (running, position, emitted)) :
    running = false ∧ position.left < thread.position.left := by
  unfold threadStep at stepped
  cases here : thread.position with
  | loopTest =>
      simp only [here, cleared, Except.ok.injEq, Prod.mk.injEq] at stepped
      obtain ⟨rfl, rfl, _⟩ := stepped
      exact ⟨rfl, by decide⟩
  | acquiring =>
      simp only [here, cleared] at stepped
      split_ifs at stepped
      simp only [Except.ok.injEq, Prod.mk.injEq] at stepped
      obtain ⟨rfl, rfl, _⟩ := stepped
      exact ⟨rfl, by decide⟩
  | waiting wait =>
      simp only [here, cleared] at stepped
      split_ifs at stepped
      rw [here] at settled
      cases wait with
      | testing | lastTesting =>
          cases stepped
          exact ⟨rfl, by decide⟩
      | woken timedOut =>
          cases timedOut with
          | false | true =>
              cases stepped
              exact ⟨rfl, by decide⟩
      | blocked => cases stepped
      | blocking => exact absurd settled (by decide)
  | deciding | calling | clearing =>
      rw [here] at settled
      exact absurd settled (by decide)
  | returned | expired => simp [here] at stepped

/-- After the critical section of a stop no thread is about to block, and after the
notification none is blocked. -/
structure Settled (timer : Timer Func) : Prop where
  halted : timer.terminated = true → timer.Starting
  settles : timer.Stopping → ∀ thread, timer.thread.current = some thread →
    thread.position.left ≤ 3
  awake : (∃ restart, timer.controller = .stopJoin restart) →
    ∀ thread, timer.thread.current = some thread → thread.position.left ≤ 2

namespace Settled

/-- A timer whose controlling thread is not in a stop after its critical section. -/
theorem of_not_stopping
    (notStopping : ¬timer.Stopping)
    (halted : timer.terminated = true → timer.Starting) :
    timer.Settled where
  halted := halted
  settles := fun stopping => absurd stopping notStopping
  awake := by
    rintro ⟨restart, joining⟩
    exact absurd ⟨restart, .inr joining⟩ notStopping

theorem start : Settled (start : Timer Func) :=
  of_not_stopping (not_stopping (by simp [Timer.start])) (by simp [Timer.start])

theorem control
    (settled : timer.Settled)
    (running : timer.terminated = false)
    (controls : timer.control = .ok (next, emitted)) :
    next.Settled := by
  have alive : ∀ {later : Timer Func}, timer.terminated = true → later.Starting := by
    intro later halted
    rw [running] at halted
    cases halted
  unfold Timer.control at controls
  cases here : timer.controller with
  | idle => simp [here] at controls
  | checkRunning task =>
      simp only [here, Except.ok.injEq, Prod.mk.injEq] at controls
      obtain ⟨rfl, _⟩ := controls
      refine of_not_stopping ?_ alive
      split_ifs
      · exact not_stopping (by simp)
      · exact not_stopping (by simp)
  | stopLock restart =>
      simp only [here, guarded_eq_ok] at controls
      obtain ⟨mutexFree, rfl, _⟩ := controls
      refine ⟨alive, ?_, nofun⟩
      -- A thread about to block would hold the mutex.
      intro _ thread current
      obtain ⟨index, _, found⟩ := Option.bind_eq_some_iff.mp current
      exact Position.left_le_of_not_holdsMutex
        (mutexFree thread (List.mem_of_getElem? found))
  | stopNotify restart =>
      simp only [here, Except.ok.injEq, Prod.mk.injEq] at controls
      obtain ⟨rfl, _⟩ := controls
      have awake : ∀ thread,
          (timer.thread.map TimerThread.notify).current = some thread →
            thread.position.left ≤ 2 := by
        intro thread current
        rw [ThreadSlot.current_map, Option.map_eq_some_iff] at current
        obtain ⟨before, currentBefore, rfl⟩ := current
        have settles := settled.settles ⟨restart, .inl here⟩ before currentBefore
        exact (Position.left_notify settles).1
      refine ⟨alive, ?_, fun _ => awake⟩
      intro _ thread current
      exact Nat.le_trans (awake thread current) (by decide)
  | stopJoin restart =>
      have joined : ∀ thread : ThreadSlot (TimerThread Func),
          Settled { timer with
            thread := thread
            controller := Controller.afterStop restart } := by
        intro thread
        refine of_not_stopping (not_stopping ?_) alive
        cases restart <;> simp [Controller.afterStop]
      simp only [here] at controls
      split at controls
      · obtain ⟨rfl, _⟩ := Prod.mk.inj (Except.ok.inj controls)
        exact joined timer.thread
      · simp only [guarded_eq_ok] at controls
        obtain ⟨_, rfl, _⟩ := controls
        exact joined timer.thread.release
  | setRunning task =>
      simp only [here, Except.ok.injEq, Prod.mk.injEq] at controls
      obtain ⟨rfl, _⟩ := controls
      exact of_not_stopping (not_stopping (by simp)) alive
  | assign task =>
      simp only [here] at controls
      split at controls
      · simp only [Except.ok.injEq, Prod.mk.injEq] at controls
        obtain ⟨rfl, _⟩ := controls
        exact of_not_stopping (not_stopping (by simp)) fun _ => ⟨task, .inr rfl⟩
      · simp only [Except.ok.injEq, Prod.mk.injEq] at controls
        obtain ⟨rfl, _⟩ := controls
        exact of_not_stopping (not_stopping (by simp)) alive

/-- A thread moves to a position with fewer steps left. -/
theorem set
    (settled : timer.Settled)
    {schedule : Schedule Func}
    (governed : Governed schedule timer)
    {index : ℕ}
    {thread : TimerThread Func}
    (found : timer.thread.threads[index]? = some thread)
    (alive : ¬thread.Ended)
    {position : Position}
    (fewer : timer.Stopping → position.left < thread.position.left)
    (running : Bool) :
    Settled { timer with
      isRunning := running
      thread := timer.thread.set index { thread with position := position } } := by
  have current := governed.sole.current_of_alive found alive
  have moved := governed.sole.current_set found alive { thread with position := position }
  refine ⟨settled.halted, ?_, ?_⟩
  · intro stopping other isCurrent
    rw [moved, Option.some.injEq] at isCurrent
    subst isCurrent
    exact Nat.le_trans (Nat.le_of_lt (fewer stopping))
      (settled.settles stopping thread current)
  · rintro ⟨restart, joining⟩ other isCurrent
    rw [moved, Option.some.injEq] at isCurrent
    subst isCurrent
    exact Nat.le_trans (Nat.le_of_lt (fewer ⟨restart, .inr joining⟩))
      (settled.awake ⟨restart, joining⟩ thread current)

end Settled

/-- What holds of every timer that is reached. -/
structure Reached (timer : Timer Func) : Prop where
  governed : ∃ schedule, Governed schedule timer
  settled : timer.Settled

/-- The running flag is cleared while a stop waits for a thread that has not ended. -/
theorem Governed.cleared
    {schedule : Schedule Func}
    (governed : Governed schedule timer)
    (stopping : timer.Stopping)
    {thread : TimerThread Func}
    (current : timer.thread.current = some thread)
    (alive : ¬thread.Ended) :
    timer.isRunning = false := by
  rcases governed.inForce thread current alive with ⟨_, cleared, _⟩ | ⟨notStopping, _⟩
  · exact cleared
  · exact absurd stopping notStopping

namespace Reached

theorem start : Reached (start : Timer Func) where
  governed := ⟨none, .start⟩
  settled := .start

/-- A thread that moves during a stop takes one of the steps that are left. -/
theorem left_thread
    (reached : timer.Reached)
    (stopping : timer.Stopping)
    {index : ℕ}
    {thread : TimerThread Func}
    (found : timer.thread.threads[index]? = some thread)
    {running : Bool}
    {position : Position}
    (stepped : timer.threadStep thread = .ok (running, position, emitted)) :
    position.left < thread.position.left := by
  obtain ⟨schedule, governed⟩ := reached.governed
  have alive := (threadStep_inv stepped).1
  have current := governed.sole.current_of_alive found alive
  exact (left_threadStep (governed.cleared stopping current alive)
    (reached.settled.settles stopping thread current) stepped).2

/-- A blocked thread that wakes up takes one of the steps that are left. -/
theorem left_blocked
    {thread : TimerThread Func}
    (waits : blocked thread = true)
    (timedOut : Bool) :
    (Position.waiting (.woken timedOut)).left < thread.position.left := by
  unfold blocked at waits
  split at waits
  · next here =>
    rw [here]
    simp [Position.left]
  all_goals cases waits

theorem not_ended_of_blocked
    {thread : TimerThread Func}
    (waits : blocked thread = true) :
    ¬thread.Ended := by
  rintro (ended | ended)
  · simp [blocked, ended] at waits
  · simp [blocked, ended] at waits

/-- Every step keeps what holds of the timers that are reached. -/
theorem step
    (reached : timer.Reached)
    {action : Action Func}
    (stepped : timer.step action = .ok (next, emitted)) :
    next.Reached := by
  classical
  obtain ⟨schedule, governed⟩ := reached.governed
  obtain ⟨after, _, governedNext⟩ := governed.step stepped
  refine ⟨⟨after, governedNext⟩, ?_⟩
  unfold Timer.step at stepped
  split_ifs at stepped with halted
  have running : timer.terminated = false := by simpa using halted
  cases action with
  | startOneShot func | startPeriodic func | stop =>
      simp only [move, call] at stepped
      split at stepped
      · obtain ⟨rfl, _⟩ := Prod.mk.inj (Except.ok.inj stepped)
        exact .of_not_stopping (not_stopping (by simp)) (by simp [running])
      all_goals cases stepped
  | control => exact reached.settled.control running stepped
  | thread index =>
      simp only [move] at stepped
      split at stepped
      · cases stepped
      · next thread found =>
        split at stepped
        · cases stepped
        · next moved =>
          obtain ⟨rfl, _⟩ := Prod.mk.inj (Except.ok.inj stepped)
          exact reached.settled.set governed found (threadStep_inv moved).1
            (fun stopping => reached.left_thread stopping found moved) _
  | wake index timedOut =>
      simp only [move] at stepped
      split at stepped
      · cases stepped
      · next thread found =>
        simp only [guarded_eq_ok] at stepped
        obtain ⟨waits, rfl, _⟩ := stepped
        exact reached.settled.set governed found (not_ended_of_blocked waits)
          (fun _ => left_blocked waits timedOut) _

end Reached

/-! ## The end of a stop -/

/-- The steps that are left until the join. -/
def left (timer : Timer Func) : ℕ :=
  (timer.thread.current.elim 0 fun thread => thread.position.left) +
    match timer.controller with
    | .stopNotify _ => 2
    | .stopJoin _ => 1
    | .idle | .checkRunning _ | .stopLock _ | .setRunning _ | .assign _ => 0

theorem Reached.left_le
    (reached : timer.Reached)
    (stopping : timer.Stopping) :
    timer.left ≤ 5 := by
  unfold left
  have settles := reached.settled.settles stopping
  have thread : (timer.thread.current.elim 0 fun thread => thread.position.left) ≤ 3 := by
    cases current : timer.thread.current with
    | none => simp
    | some thread => exact settles thread current
  split <;> omega

/-- The current thread moves to a position with fewer steps left. -/
theorem left_set
    {schedule : Schedule Func}
    (governed : Governed schedule timer)
    {index : ℕ}
    {thread : TimerThread Func}
    (found : timer.thread.threads[index]? = some thread)
    (alive : ¬thread.Ended)
    {position : Position}
    (fewer : position.left < thread.position.left)
    (running : Bool) :
    left { timer with
      isRunning := running
      thread := timer.thread.set index { thread with position := position } } <
      timer.left := by
  simp only [left, governed.sole.current_of_alive found alive,
    governed.sole.current_set found alive, Option.elim_some]
  exact Nat.add_lt_add_right fewer _

/-- Every step of a stop after its critical section ends it or leaves fewer. -/
theorem Reached.left_lt
    (reached : timer.Reached)
    (stopping : timer.Stopping)
    {action : Action Func}
    (stepped : timer.step action = .ok (next, emitted))
    (stillStopping : next.Stopping) :
    next.left < timer.left := by
  obtain ⟨schedule, governed⟩ := reached.governed
  unfold Timer.step at stepped
  split_ifs at stepped
  have inStop : ∀ controller, timer.call controller ≠ .ok (next, emitted) := by
    intro controller called
    unfold call at called
    split at called
    · next idle => exact absurd stopping (not_stopping (by simp [idle]))
    all_goals cases called
  cases action with
  | startOneShot func | startPeriodic func | stop => exact absurd stepped (inStop _)
  | control =>
      obtain ⟨restart, notifying | joining⟩ := stopping
      · simp only [move, Timer.control, notifying, Except.ok.injEq, Prod.mk.injEq]
          at stepped
        obtain ⟨rfl, _⟩ := stepped
        have settles := reached.settled.settles ⟨restart, .inl notifying⟩
        simp only [left, notifying, ThreadSlot.current_map]
        cases current : timer.thread.current with
        | none => simp
        | some thread =>
            have notified := (Position.left_notify (settles thread current)).2
            simp only [Option.map_some, Option.elim_some, TimerThread.notify]
            omega
      · exfalso
        have joined : next.controller = Controller.afterStop restart := by
          simp only [move, Timer.control, joining] at stepped
          split at stepped
          · obtain ⟨rfl, _⟩ := Prod.mk.inj (Except.ok.inj stepped)
            rfl
          · rw [guarded_eq_ok] at stepped
            obtain ⟨_, rfl, _⟩ := stepped
            rfl
        refine not_stopping ?_ stillStopping
        rw [joined]
        cases restart <;> simp [Controller.afterStop]
  | thread index =>
      simp only [move] at stepped
      split at stepped
      · cases stepped
      · next thread found =>
        split at stepped
        · cases stepped
        · next moved =>
          obtain ⟨rfl, _⟩ := Prod.mk.inj (Except.ok.inj stepped)
          exact left_set governed found (threadStep_inv moved).1
            (reached.left_thread stopping found moved) _
  | wake index timedOut =>
      simp only [move] at stepped
      split at stepped
      · cases stepped
      · next thread found =>
        simp only [guarded_eq_ok] at stepped
        obtain ⟨waits, rfl, _⟩ := stepped
        exact left_set governed found (not_ended_of_blocked waits)
          (left_blocked waits timedOut) _

/-- No thread but one that has not ended holds the mutex. -/
theorem mutexFree_of_current
    {schedule : Schedule Func}
    (governed : Governed schedule timer)
    {thread : TimerThread Func}
    (current : timer.thread.current = some thread)
    (free : thread.position.holdsMutex = false) :
    timer.MutexFree := by
  intro other member
  by_cases ended : other.Ended
  · rcases ended with returned | expired
    · rw [returned]
      rfl
    · rw [expired]
      rfl
  · obtain ⟨index, found⟩ := List.mem_iff_getElem?.mp member
    have isCurrent := governed.sole.current_of_alive found ended
    rw [current, Option.some.injEq] at isCurrent
    exact isCurrent ▸ free

/-- A thread that has not ended and is not blocked can go on. -/
theorem exists_threadStep
    {schedule : Schedule Func}
    (governed : Governed schedule timer)
    {thread : TimerThread Func}
    (current : timer.thread.current = some thread)
    (alive : ¬thread.Ended)
    (awake : thread.position.left ≤ 2) :
    ∃ result, timer.threadStep thread = .ok result := by
  unfold threadStep
  have mutexFree := mutexFree_of_current governed current
  cases here : thread.position with
  | loopTest => exact ⟨_, rfl⟩
  | acquiring => exact ⟨_, if_pos (mutexFree (by simp [here, Position.holdsMutex]))⟩
  | waiting wait =>
      rw [here] at awake
      cases wait with
      | testing | lastTesting =>
          cases timer.isRunning with
          | false | true => exact ⟨_, rfl⟩
      | woken timedOut =>
          have enabled := mutexFree (by simp [here, Position.holdsMutex, Wait.holdsMutex])
          simp only [enabled, or_true, if_true]
          cases timedOut with
          | false | true => exact ⟨_, rfl⟩
      | blocked | blocking => exact absurd awake (by decide)
  | deciding | calling | clearing =>
      rw [here] at awake
      exact absurd awake (by decide)
  | returned => exact absurd (.inl here) alive
  | expired => exact absurd (.inr here) alive

/-- During a stop after its critical section the controlling thread can go on, or the
thread that it waits for can. -/
theorem Reached.exists_step
    (reached : timer.Reached)
    (stopping : timer.Stopping) :
    ∃ action next emitted, (action = .control ∨ ∃ index, action = .thread index) ∧
      timer.step action = .ok (next, emitted) := by
  obtain ⟨schedule, governed⟩ := reached.governed
  have running : timer.terminated = false := by
    cases halted : timer.terminated with
    | false => rfl
    | true =>
        obtain ⟨restart, stopped⟩ := stopping
        obtain ⟨task, starting⟩ := reached.settled.halted halted
        rcases stopped with stopped | stopped
        · simp [stopped] at starting
        · simp [stopped] at starting
  have enabled : ∀ action next emitted,
      (action = .control ∨ ∃ index, action = .thread index) →
      timer.move action = .ok (next, emitted) →
      ∃ action next emitted, (action = .control ∨ ∃ index, action = .thread index) ∧
        timer.step action = .ok (next, emitted) := by
    intro action next emitted own moves
    refine ⟨action, next, emitted, own, ?_⟩
    rw [Timer.step, running, if_neg Bool.false_ne_true]
    exact moves
  obtain ⟨restart, notifying | joining⟩ := stopping
  · apply enabled .control _ _ (.inl rfl)
    rw [move, Timer.control, notifying]
  · cases current : timer.thread.current with
    | none =>
        apply enabled .control _ _ (.inl rfl)
        simp only [move, Timer.control, joining, current]
        rfl
    | some thread =>
        by_cases ended : thread.Ended
        · apply enabled .control _ _ (.inl rfl)
          simp only [move, Timer.control, joining, current, guarded, if_pos ended]
          rfl
        · have awake := reached.settled.awake ⟨restart, joining⟩ thread current
          obtain ⟨⟨isRunning, position, outputs⟩, moves⟩ :=
            exists_threadStep governed current ended awake
          obtain ⟨index, _, found⟩ := Option.bind_eq_some_iff.mp current
          apply enabled (.thread index) _ _ (.inr ⟨index, rfl⟩)
          simp only [move, found, moves]
          rfl

/-- After its critical section a stop returns: a step of the controlling thread or of
the timer thread can always be taken, none of them needs a timeout, and any five steps
end it. -/
theorem stop_returns
    {actions : List (Action Func)}
    {history : List (Output Func)}
    (ran : run step start actions = .ok (timer, history))
    (stopping : timer.Stopping) :
    (∃ action next emitted, (action = .control ∨ ∃ index, action = .thread index) ∧
        timer.step action = .ok (next, emitted)) ∧
      ∀ more final outputs, run step timer more = .ok (final, outputs) →
        EachStep step (fun before _ => before.Stopping) timer more → final.Stopping →
          more.length ≤ 4 := by
  have reached : timer.Reached :=
    Run.invariant_of_run_ok (fun _ _ _ _ reached stepped => Reached.step reached stepped)
      Reached.start ran
  refine ⟨reached.exists_step stopping, ?_⟩
  intro more final outputs ranMore active activeFinal
  have bound := Run.length_le_of_decreasing
    (fun _ _ _ _ reached stopping stepped =>
      ⟨Reached.step reached stepped, reached.left_lt stopping stepped⟩)
    reached active ranMore activeFinal
  have few := reached.left_le stopping
  have last : 1 ≤ final.left := by
    obtain ⟨restart, notifying | joining⟩ := activeFinal
    · simp [left, notifying]
    · simp [left, joining]
  omega

/-- A periodic timer is stopped while its thread is blocked. -/
theorem stop_returns_blocked :
    let actions : List (Action ℕ) := [.startPeriodic 1, .control, .control, .control,
      .thread 0, .thread 0, .thread 0, .thread 0, .stop, .control]
    ∃ timer history, run step start actions = .ok (timer, history) ∧ timer.Stopping ∧
      (∃ action next emitted, (action = .control ∨ ∃ index, action = .thread index) ∧
        timer.step action = .ok (next, emitted)) := by
  intro actions
  obtain ⟨timer, history, ran, stopping⟩ : ∃ timer history,
      run step start actions = .ok (timer, history) ∧ timer.Stopping :=
    ⟨_, _, rfl, none, .inl rfl⟩
  exact ⟨timer, history, ran, stopping, (stop_returns ran stopping).1⟩

end Timer
end CommonUtils
end StarterCpp
