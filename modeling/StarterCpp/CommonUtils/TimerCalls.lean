import Mathlib.Data.List.Induction
import StarterCpp.CommonUtils.TimerRestart
import StarterCpp.Library.Refinement

/-!
# The calls of a timer

Seen from outside, a timer has no task or one, and a one-shot task is called at most
once.  The threads of the timer refine this: whatever the interleaving, only the task
of the latest start is called, and after the critical section of a stop nothing is
called until the next start.
-/

namespace StarterCpp
namespace CommonUtils

variable {Func : Type*}

/-! ## The abstract object -/

/-- What is seen of a timer: a thread is started, a stop has cleared the running flag,
and the function is called. -/
inductive TimerEvent (Func : Type*)
  | started (task : Task Func)
  | stopped
  | called (func : Func)
  deriving DecidableEq, Repr

/-- The task in force, and whether it was a one-shot task that has been called. -/
abbrev Schedule (Func : Type*) :=
  Option (Task Func × Bool)

/-- What may happen, and the task that is in force then. -/
def Schedule.next
    [DecidableEq Func]
    (schedule : Schedule Func) : TimerEvent Func → Option (Schedule Func)
  | .started task => if schedule.isNone then some (some (task, false)) else none
  | .stopped => some none
  | .called func =>
      match schedule with
      | some (task, false) =>
          if task.func = func then some (some (task, decide (task.kind = .oneShot)))
          else none
      | some (_, true) | none => none

/-- What a schedule says of the events before it: the last start since the last stop,
and the calls since. -/
def Schedule.Explains (events : List (TimerEvent Func)) : Schedule Func → Prop
  | none => True
  | some (task, spent) =>
      ∃ early calls,
        events = early ++ .started task :: List.replicate calls (.called task.func) ∧
          (task.kind = .oneShot → calls = if spent then 1 else 0)

/-- An object that allows some events explains them. -/
theorem Schedule.explains_of_allowed
    [DecidableEq Func]
    {events : List (TimerEvent Func)}
    {schedule : Schedule Func}
    (allows : allowed Schedule.next none events = some schedule) :
    schedule.Explains events := by
  induction events using List.reverseRecOn generalizing schedule with
  | nil =>
      cases allows
      trivial
  | append_singleton events event inductionHypothesis =>
      obtain ⟨before, allowsBefore, last⟩ := allowed_append_inv allows
      rw [allowed_singleton] at last
      have explained := inductionHypothesis allowsBefore
      cases event with
      | started task =>
          simp only [Schedule.next] at last
          split_ifs at last
          cases last
          exact ⟨events, 0, by simp, fun _ => rfl⟩
      | stopped =>
          cases last
          trivial
      | called func =>
          simp only [Schedule.next] at last
          split at last
          · next task =>
            split_ifs at last with sameFunc
            subst sameFunc
            obtain ⟨early, calls, rfl, once⟩ := explained
            cases last
            refine ⟨early, calls + 1, ?_, ?_⟩
            · rw [List.replicate_succ', List.append_assoc, List.cons_append]
            · intro oneShot
              simp [once oneShot, oneShot]
          · cases last
          · cases last

/-! ## The timer as seen from outside -/

namespace Timer

/-- What is seen of a step of the controlling thread. -/
def observeControl (timer : Timer Func) : List (TimerEvent Func) :=
  match timer.controller with
  | .stopLock _ => [.stopped]
  | .assign task =>
      match timer.thread.handle with
      | some _ => []
      | none => [.started task]
  | .idle | .checkRunning _ | .stopNotify _ | .stopJoin _ | .setRunning _ => []

/-- What is seen of one step. -/
def observe
    (timer : Timer Func)
    (emitted : List (Output Func)) : Action Func → List (TimerEvent Func)
  | .control => timer.observeControl
  | .startOneShot _ | .startPeriodic _ | .stop | .thread _ | .wake _ _ =>
      emitted.map fun
        | .called func => .called func

/-- One step of the timer with what is seen of it. -/
def observedStep
    (timer : Timer Func)
    (action : Action Func) :
    Except Disabled (Timer Func × List (TimerEvent Func)) :=
  match timer.step action with
  | .error fault => .error fault
  | .ok (next, emitted) => .ok (next, timer.observe emitted action)

/-! ## The relation that every step keeps -/

/-- A position from which the function is called only if the running flag is found
set. -/
def calm : Position → Bool
  | .loopTest | .acquiring | .waiting _ | .returned | .expired => true
  | .deciding | .calling | .clearing => false

theorem calm_of_not_holdsMutex
    {position : Position}
    (free : position.holdsMutex = false) :
    calm position = true := by
  cases position with
  | loopTest | acquiring | waiting _ | returned | expired => rfl
  | deciding | calling | clearing => cases free

@[simp] theorem calm_notify (position : Position) :
    calm position.notify = calm position := by
  cases position <;> rfl

/-- The controlling thread is about to set the running flag or to assign a thread. -/
def Starting (timer : Timer Func) : Prop :=
  ∃ task, timer.controller = .setRunning task ∨ timer.controller = .assign task

theorem not_stopping
    {timer : Timer Func}
    (elsewhere : ∀ restart, timer.controller ≠ .stopNotify restart ∧
      timer.controller ≠ .stopJoin restart) :
    ¬timer.Stopping := by
  rintro ⟨restart, notifying | joining⟩
  · exact (elsewhere restart).1 notifying
  · exact (elsewhere restart).2 joining

theorem not_starting
    {timer : Timer Func}
    (elsewhere : ∀ task, timer.controller ≠ .setRunning task ∧
      timer.controller ≠ .assign task) :
    ¬timer.Starting := by
  rintro ⟨task, setting | assigning⟩
  · exact (elsewhere task).1 setting
  · exact (elsewhere task).2 assigning

/-- What is in force while a timer thread has not ended: nothing after the critical
section of a stop, and before it the task of the thread. -/
def InForce
    (schedule : Schedule Func)
    (timer : Timer Func)
    (thread : TimerThread Func) : Prop :=
  (timer.Stopping ∧ timer.isRunning = false ∧ calm thread.position = true) ∨
    (¬timer.Stopping ∧ ¬timer.Starting ∧ timer.isRunning = true ∧
      ∃ spent, schedule = some (thread.task, spent) ∧
        (spent = true → thread.position = .clearing))

/-- How the task in force fits the timer. -/
structure Governed (schedule : Schedule Func) (timer : Timer Func) : Prop where
  sole : timer.thread.Sole TimerThread.Ended
  vacant : timer.thread.handle = none → schedule = none
  stopped : timer.Stopping → schedule = none
  raised : ∀ task, timer.controller = .assign task → timer.isRunning = true
  inForce : ∀ thread, timer.thread.current = some thread → ¬thread.Ended →
    InForce schedule timer thread

namespace Governed

variable {schedule : Schedule Func}
variable {timer next : Timer Func}

theorem start : Governed none (start : Timer Func) where
  sole := .empty
  vacant := fun _ => rfl
  stopped := fun _ => rfl
  raised := by
    intro task assigning
    cases assigning
  inForce := by
    intro thread current
    cases current

/-- A controlling thread outside `stop` and a start goes on outside both. -/
theorem goOn
    (governed : Governed schedule timer)
    (notStopping : ¬timer.Stopping)
    {controller : Controller Func}
    (notStoppingAfter : ¬Stopping { timer with controller := controller })
    (notStartingAfter : ¬Starting { timer with controller := controller }) :
    Governed schedule { timer with controller := controller } where
  sole := governed.sole
  vacant := governed.vacant
  stopped := fun stopping => absurd stopping notStoppingAfter
  raised := fun task assigning => absurd ⟨task, .inr assigning⟩ notStartingAfter
  inForce := by
    intro thread current alive
    rcases governed.inForce thread current alive with
      ⟨stopping, _⟩ | ⟨_, _, running, isInForce⟩
    · exact absurd stopping notStopping
    · exact .inr ⟨notStoppingAfter, notStartingAfter, running, isInForce⟩

/-- The thread that a start assigns is the one in force. -/
theorem assign
    (governed : Governed schedule timer)
    {task : Task Func}
    (assigning : timer.controller = .assign task)
    (released : timer.thread.handle = none) :
    Governed (some (task, false))
      { timer with
        thread := timer.thread.spawn (TimerThread.start task)
        controller := .idle } where
  sole := governed.sole.spawn released _
  vacant := by
    intro vacant
    cases vacant
  stopped := fun stopping => absurd stopping (not_stopping (by simp))
  raised := by
    intro other assigning
    cases assigning
  inForce := by
    intro thread current _
    rw [ThreadSlot.current_spawn, Option.some.injEq] at current
    subst current
    exact .inr ⟨not_stopping (by simp), not_starting (by simp),
      governed.raised task assigning, false, rfl, nofun⟩

/-- The critical section of a stop ends what is in force. -/
theorem stopLock
    (governed : Governed schedule timer)
    {restart : Option (Task Func)}
    (mutexFree : timer.MutexFree) :
    Governed none
      { timer with isRunning := false, controller := .stopNotify restart } where
  sole := governed.sole
  vacant := fun _ => rfl
  stopped := fun _ => rfl
  raised := by
    intro task assigning
    cases assigning
  inForce := by
    intro thread current _
    obtain ⟨index, _, found⟩ := Option.bind_eq_some_iff.mp current
    have free := mutexFree thread (List.mem_of_getElem? found)
    exact .inl ⟨⟨restart, .inl rfl⟩, rfl, calm_of_not_holdsMutex free⟩

/-- The notification moves a blocked thread. -/
theorem stopNotify
    (governed : Governed schedule timer)
    {restart : Option (Task Func)}
    (notifying : timer.controller = .stopNotify restart) :
    Governed schedule
      { timer with
        thread := timer.thread.map TimerThread.notify
        controller := .stopJoin restart } where
  sole := governed.sole.map fun _ => TimerThread.Ended.notify
  vacant := governed.vacant
  stopped := fun _ => governed.stopped ⟨restart, .inl notifying⟩
  raised := by
    intro task assigning
    cases assigning
  inForce := by
    intro thread current alive
    rw [ThreadSlot.current_map, Option.map_eq_some_iff] at current
    obtain ⟨before, currentBefore, rfl⟩ := current
    have aliveBefore : ¬before.Ended := fun ended => alive ended.notify
    rcases governed.inForce before currentBefore aliveBefore with
      ⟨_, cleared, isCalm⟩ | ⟨notStopping, _⟩
    · exact .inl ⟨⟨restart, .inr rfl⟩, cleared, (calm_notify _).trans isCalm⟩
    · exact absurd ⟨restart, .inl notifying⟩ notStopping

/-- A join leaves no thread that has not ended. -/
theorem stopJoin
    (governed : Governed schedule timer)
    {restart : Option (Task Func)}
    (joining : timer.controller = .stopJoin restart)
    (joined : ∀ thread, timer.thread.current = some thread → thread.Ended) :
    Governed schedule
      { timer with
        thread := timer.thread.release
        controller := Controller.afterStop restart } where
  sole := governed.sole.release joined
  vacant := fun _ => governed.stopped ⟨restart, .inr joining⟩
  stopped := fun _ => governed.stopped ⟨restart, .inr joining⟩
  raised := by
    intro task assigning
    cases restart with
    | none => cases assigning
    | some task => cases assigning
  inForce := by
    intro thread current
    cases current

/-- A start that finds the flag cleared finds no thread that has not ended. -/
theorem ended_of_cleared
    (governed : Governed schedule timer)
    {task : Task Func}
    (checking : timer.controller = .checkRunning task)
    (cleared : timer.isRunning = false)
    {thread : TimerThread Func}
    (current : timer.thread.current = some thread) :
    thread.Ended := by
  by_contra alive
  rcases governed.inForce thread current alive with
    ⟨stopping, _⟩ | ⟨_, _, running, _⟩
  · exact absurd stopping (not_stopping (by simp [checking]))
  · rw [cleared] at running
    cases running

/-- While a thread is to be started, no thread is alive. -/
theorem ended_of_starting
    (governed : Governed schedule timer)
    (starting : timer.Starting)
    {thread : TimerThread Func}
    (current : timer.thread.current = some thread) :
    thread.Ended := by
  by_contra alive
  rcases governed.inForce thread current alive with
    ⟨stopping, _⟩ | ⟨_, notStarting, _⟩
  · obtain ⟨task, setting | assigning⟩ := starting
    · exact absurd stopping (not_stopping (by simp [setting]))
    · exact absurd stopping (not_stopping (by simp [assigning]))
  · exact notStarting starting

/-- A thread that has not ended moves, and what is in force fits it afterwards. -/
theorem set
    (governed : Governed schedule timer)
    {index : ℕ}
    {thread : TimerThread Func}
    (found : timer.thread.threads[index]? = some thread)
    (alive : ¬thread.Ended)
    {after : Schedule Func}
    (stopped : timer.Stopping → after = none)
    {running : Bool}
    (raised : ∀ task, timer.controller = .assign task → running = true)
    {position : Position}
    (inForce : ¬TimerThread.Ended { thread with position := position } →
      InForce after
        { timer with
          isRunning := running
          thread := timer.thread.set index { thread with position := position } }
        { thread with position := position }) :
    Governed after
      { timer with
        isRunning := running
        thread := timer.thread.set index { thread with position := position } } where
  sole := governed.sole.set found alive _
  vacant := by
    intro vacant
    rw [ThreadSlot.handle_set, governed.sole.others index thread found alive] at vacant
    cases vacant
  stopped := stopped
  raised := raised
  inForce := by
    intro other current otherAlive
    rw [governed.sole.current_set found alive, Option.some.injEq] at current
    subst current
    exact inForce otherAlive

/-- While a thread is to be started, whatever the running flag is set to. -/
theorem starts
    (governed : Governed schedule timer)
    (noneAlive : ∀ thread, timer.thread.current = some thread → thread.Ended)
    {task : Task Func}
    {running : Bool}
    {controller : Controller Func}
    (starting : controller = .setRunning task ∨
      controller = .assign task ∧ running = true) :
    Governed schedule { timer with isRunning := running, controller := controller } where
  sole := governed.sole
  vacant := governed.vacant
  stopped := by
    intro stopping
    rcases starting with rfl | ⟨rfl, _⟩
    · exact absurd stopping (not_stopping (by simp))
    · exact absurd stopping (not_stopping (by simp))
  raised := by
    intro other assigning
    change controller = _ at assigning
    rcases starting with rfl | ⟨_, isRunning⟩
    · cases assigning
    · exact isRunning
  inForce := fun thread current alive => absurd (noneAlive thread current) alive

/-- A blocked thread wakes up. -/
theorem wake
    (governed : Governed schedule timer)
    {index : ℕ}
    {thread : TimerThread Func}
    (found : timer.thread.threads[index]? = some thread)
    (waits : blocked thread = true)
    (timedOut : Bool) :
    Governed schedule
      { timer with
        thread := timer.thread.set index
          { thread with position := .waiting (.woken timedOut) } } := by
  have alive : ¬thread.Ended := by
    rintro (ended | ended)
    · simp [blocked, ended] at waits
    · simp [blocked, ended] at waits
  have notClearing : thread.position ≠ .clearing := by
    intro clearing
    simp [blocked, clearing] at waits
  have current := governed.sole.current_of_alive found alive
  apply governed.set found alive governed.stopped governed.raised
  intro _
  rcases governed.inForce thread current alive with
    ⟨stopping, cleared, _⟩ | ⟨notStopping, notStarting, isRunning, spent, isInForce,
      onlyClearing⟩
  · exact .inl ⟨stopping, cleared, rfl⟩
  · exact .inr ⟨notStopping, notStarting, isRunning, spent, isInForce,
      fun isSpent => absurd (onlyClearing isSpent) notClearing⟩

/-- A call begins. -/
theorem call
    (governed : Governed schedule timer)
    {controller : Controller Func}
    (elsewhere : (∀ restart, controller ≠ .stopNotify restart ∧
        controller ≠ .stopJoin restart) ∧
      ∀ task, controller ≠ .setRunning task ∧ controller ≠ .assign task)
    (called : timer.call controller = .ok (next, emitted)) :
    emitted = [] ∧ Governed schedule next := by
  unfold Timer.call at called
  split at called
  · next idle =>
    obtain ⟨rfl, rfl⟩ := Prod.mk.inj (Except.ok.inj called)
    exact ⟨rfl, governed.goOn (not_stopping (by simp [idle]))
      (not_stopping elsewhere.1) (not_starting elsewhere.2)⟩
  all_goals cases called

end Governed

/-- What a step of a timer thread does: it moves in silence, calls its function, or
clears the running flag and expires. -/
inductive ThreadMove
    (timer : Timer Func)
    (thread : TimerThread Func) : Bool → Position → List (Output Func) → Prop
  | silent
      {position : Position}
      (notClearing : thread.position ≠ .clearing)
      (staysCalm : timer.isRunning = false → calm thread.position = true →
        calm position = true) :
      ThreadMove timer thread timer.isRunning position []
  | calls
      (calling : thread.position = .calling) :
      ThreadMove timer thread timer.isRunning thread.afterCall [.called thread.task.func]
  | expires
      (clearing : thread.position = .clearing) :
      ThreadMove timer thread false .expired []

theorem threadMove_of_threadStep
    {timer : Timer Func}
    {thread : TimerThread Func}
    {running : Bool}
    {position : Position}
    {emitted : List (Output Func)}
    (stepped : timer.threadStep thread = .ok (running, position, emitted)) :
    ThreadMove timer thread running position emitted := by
  unfold threadStep at stepped
  cases here : thread.position with
  | loopTest =>
      simp only [here, Except.ok.injEq, Prod.mk.injEq] at stepped
      obtain ⟨rfl, rfl, rfl⟩ := stepped
      exact .silent (by simp [here]) fun cleared _ => by simp [cleared, calm]
  | acquiring =>
      simp only [here] at stepped
      split_ifs at stepped
      simp only [Except.ok.injEq, Prod.mk.injEq] at stepped
      obtain ⟨rfl, rfl, rfl⟩ := stepped
      exact .silent (by simp [here]) fun _ _ => rfl
  | waiting wait =>
      simp only [here] at stepped
      split_ifs at stepped
      split at stepped
      · cases stepped
      · simp only [Except.ok.injEq, Prod.mk.injEq] at stepped
        obtain ⟨rfl, rfl, rfl⟩ := stepped
        exact .silent (by simp [here]) fun _ _ => rfl
      · simp only [Except.ok.injEq, Prod.mk.injEq] at stepped
        obtain ⟨rfl, rfl, rfl⟩ := stepped
        exact .silent (by simp [here]) fun _ _ => rfl
      · next advanced =>
        simp only [Except.ok.injEq, Prod.mk.injEq] at stepped
        obtain ⟨rfl, rfl, rfl⟩ := stepped
        -- A wait does not return without the predicate once the flag is cleared.
        refine .silent (by simp [here]) fun cleared _ => ?_
        rw [cleared] at advanced
        cases wait with
        | woken timedOut => cases timedOut <;> cases advanced
        | testing | blocking | blocked | lastTesting => cases advanced
  | deciding =>
      simp only [here, Except.ok.injEq, Prod.mk.injEq] at stepped
      obtain ⟨rfl, rfl, rfl⟩ := stepped
      exact .silent (by simp [here]) fun _ isCalm => by simp [here, calm] at isCalm
  | calling =>
      simp only [here, Except.ok.injEq, Prod.mk.injEq] at stepped
      obtain ⟨rfl, rfl, rfl⟩ := stepped
      exact .calls here
  | clearing =>
      simp only [here, Except.ok.injEq, Prod.mk.injEq] at stepped
      obtain ⟨rfl, rfl, rfl⟩ := stepped
      exact .expires here
  | returned | expired => simp [here] at stepped

/-- What the object allows of what is seen of one step. -/
def Allows
    [DecidableEq Func]
    (schedule : Schedule Func)
    (events : List (TimerEvent Func))
    (next : Timer Func) : Prop :=
  ∃ after, allowed Schedule.next schedule events = some after ∧ Governed after next

namespace Governed

variable {schedule : Schedule Func}
variable {timer next : Timer Func}
variable [DecidableEq Func]
variable {emitted : List (Output Func)}

theorem silently (governed : Governed schedule next) : Allows schedule [] next :=
  ⟨schedule, rfl, governed⟩

/-- Every step of the controlling thread inside a call. -/
theorem control
    (governed : Governed schedule timer)
    (controls : timer.control = .ok (next, emitted)) :
    Allows schedule timer.observeControl next := by
  unfold Timer.control at controls
  cases here : timer.controller with
  | idle => simp [here] at controls
  | checkRunning task =>
      simp only [here, Except.ok.injEq, Prod.mk.injEq] at controls
      obtain ⟨rfl, rfl⟩ := controls
      simp only [observeControl, here]
      apply silently
      split_ifs with running
      · exact governed.goOn (not_stopping (by simp [here])) (not_stopping (by simp))
          (not_starting (by simp))
      · have cleared : timer.isRunning = false := by simpa using running
        exact governed.starts (fun thread => governed.ended_of_cleared here cleared)
          (.inl rfl)
  | stopLock restart =>
      simp only [here, guarded_eq_ok] at controls
      obtain ⟨mutexFree, rfl, rfl⟩ := controls
      simp only [observeControl, here]
      exact ⟨none, rfl, governed.stopLock mutexFree⟩
  | stopNotify restart =>
      simp only [here, Except.ok.injEq, Prod.mk.injEq] at controls
      obtain ⟨rfl, rfl⟩ := controls
      simp only [observeControl, here]
      exact silently (governed.stopNotify here)
  | stopJoin restart =>
      simp only [here] at controls
      simp only [observeControl, here]
      split at controls
      · next none =>
        obtain ⟨rfl, rfl⟩ := Prod.mk.inj (Except.ok.inj controls)
        have released := governed.sole.current_eq_none.mp none
        have same : timer.thread.release = timer.thread := by
          rw [ThreadSlot.release, ← released]
        have joined := governed.stopJoin here (by simp [none])
        rw [same] at joined
        exact silently joined
      · next thread current =>
        simp only [guarded_eq_ok] at controls
        obtain ⟨ended, rfl, rfl⟩ := controls
        apply silently
        apply governed.stopJoin here
        intro other isCurrent
        rw [current, Option.some.injEq] at isCurrent
        exact isCurrent ▸ ended
  | setRunning task =>
      simp only [here, Except.ok.injEq, Prod.mk.injEq] at controls
      obtain ⟨rfl, rfl⟩ := controls
      simp only [observeControl, here]
      apply silently
      apply governed.starts _ (.inr ⟨rfl, rfl⟩)
      exact fun thread => governed.ended_of_starting ⟨task, .inl here⟩
  | assign task =>
      simp only [here] at controls
      simp only [observeControl, here]
      cases held : timer.thread.handle with
      | none =>
          simp only [held, Except.ok.injEq, Prod.mk.injEq] at controls
          obtain ⟨rfl, rfl⟩ := controls
          refine ⟨some (task, false), ?_, governed.assign here held⟩
          simp [governed.vacant held, Schedule.next]
      | some index =>
          simp only [held, Except.ok.injEq, Prod.mk.injEq] at controls
          obtain ⟨rfl, rfl⟩ := controls
          apply silently
          exact ⟨governed.sole, governed.vacant,
            fun stopping => absurd stopping (not_stopping (by simp)),
            fun _ _ => governed.raised task here,
            fun thread current alive =>
              absurd (governed.ended_of_starting ⟨task, .inr here⟩ current) alive⟩

/-- A timer thread moves. -/
theorem thread
    (governed : Governed schedule timer)
    {index : ℕ}
    {thread : TimerThread Func}
    (found : timer.thread.threads[index]? = some thread)
    (alive : ¬thread.Ended)
    {running : Bool}
    {position : Position}
    (moves : ThreadMove timer thread running position emitted) :
    Allows schedule
      (emitted.map fun
        | .called func => .called func)
      { timer with
        isRunning := running
        thread := timer.thread.set index { thread with position := position } } := by
  have current := governed.sole.current_of_alive found alive
  rcases governed.inForce thread current alive with
    ⟨stopping, cleared, isCalm⟩ | ⟨notStopping, notStarting, isRunning, spent, isInForce,
      onlyClearing⟩
  · cases moves with
    | silent _ staysCalm =>
        apply silently
        apply governed.set found alive governed.stopped governed.raised
        exact fun _ => .inl ⟨stopping, cleared, staysCalm cleared isCalm⟩
    | calls calling =>
        rw [calling] at isCalm
        cases isCalm
    | expires clearing =>
        rw [clearing] at isCalm
        cases isCalm
  · have raised : ∀ running task, timer.controller = .assign task → running = true :=
      fun _ task assigning => absurd ⟨task, .inr assigning⟩ notStarting
    cases moves with
    | silent notClearing _ =>
        apply silently
        apply governed.set found alive governed.stopped governed.raised
        intro _
        refine .inr ⟨notStopping, notStarting, isRunning, spent, isInForce, ?_⟩
        intro isSpent
        exact absurd (onlyClearing isSpent) notClearing
    | calls calling =>
        have unspent : spent = false := by
          cases spent with
          | false => rfl
          | true =>
              have clearing := onlyClearing rfl
              rw [calling] at clearing
              cases clearing
        subst unspent
        refine ⟨some (thread.task, decide (thread.task.kind = .oneShot)), ?_, ?_⟩
        · simp [isInForce, Schedule.next]
        · apply governed.set found alive (fun stopping => absurd stopping notStopping)
            governed.raised
          intro _
          refine .inr ⟨notStopping, notStarting, isRunning, _, rfl, ?_⟩
          intro isOneShot
          rw [decide_eq_true_iff] at isOneShot
          simp [TimerThread.afterCall, isOneShot]
    | expires clearing =>
        apply silently
        apply governed.set found alive governed.stopped (raised false)
        exact fun notEnded => absurd (.inr rfl) notEnded

/-- Every step does what the object allows. -/
theorem step
    (governed : Governed schedule timer)
    {action : Action Func}
    (stepped : timer.step action = .ok (next, emitted)) :
    Allows schedule (timer.observe emitted action) next := by
  unfold Timer.step at stepped
  split_ifs at stepped
  cases action with
  | startOneShot func | startPeriodic func | stop =>
      obtain ⟨rfl, kept⟩ := governed.call (by simp) stepped
      exact silently kept
  | control => exact governed.control stepped
  | thread index =>
      simp only [move] at stepped
      split at stepped
      · cases stepped
      · next thread found =>
        split at stepped
        · cases stepped
        · next running position outputs moved =>
          obtain ⟨rfl, rfl⟩ := Prod.mk.inj (Except.ok.inj stepped)
          have alive := (threadStep_inv moved).1
          exact governed.thread found alive (threadMove_of_threadStep moved)
  | wake index timedOut =>
      simp only [move] at stepped
      split at stepped
      · cases stepped
      · next thread found =>
        simp only [guarded_eq_ok] at stepped
        obtain ⟨waits, rfl, rfl⟩ := stepped
        exact silently (governed.wake found waits timedOut)

end Governed

variable [DecidableEq Func]
variable {actions : List (Action Func)}
variable {timer : Timer Func}
variable {history : List (TimerEvent Func)}

/-- The threads of the timer refine the object. -/
theorem refines_schedule
    (ran : run observedStep start actions = .ok (timer, history)) :
    ∃ schedule, allowed Schedule.next none history = some schedule ∧
      Governed schedule timer := by
  apply Run.refines _ Governed.start ran
  intro schedule before action later emitted governed observed
  unfold observedStep at observed
  split at observed
  · cases observed
  · next stepped =>
    obtain ⟨rfl, rfl⟩ := Prod.mk.inj (Except.ok.inj observed)
    exact governed.step stepped

/-- Whatever the interleaving of starts, stops and timer threads, only the function of
the latest start is called, with no stop in between, and a one-shot function once. -/
theorem calls_latestStart
    (ran : run observedStep start actions = .ok (timer, history))
    {before after : List (TimerEvent Func)}
    {func : Func}
    (split : history = before ++ .called func :: after) :
    ∃ task early calls,
      before = early ++ .started task :: List.replicate calls (.called func) ∧
        task.func = func ∧ (task.kind = .oneShot → calls = 0) := by
  obtain ⟨schedule, allows, _⟩ := refines_schedule ran
  rw [split] at allows
  obtain ⟨middle, allowsBefore, allowsAfter⟩ := allowed_append_inv allows
  have explained := Schedule.explains_of_allowed allowsBefore
  obtain ⟨later, isNext, _⟩ := Option.bind_eq_some_iff.mp allowsAfter
  simp only [Schedule.next] at isNext
  split at isNext
  · next task =>
    split_ifs at isNext with sameFunc
    obtain ⟨early, calls, isBefore, once⟩ := explained
    exact ⟨task, early, calls, sameFunc ▸ isBefore, sameFunc, once⟩
  · cases isNext
  · cases isNext

/-- A periodic timer is stopped and started again with another function. -/
theorem calls_latestStart_restart :
    let actions : List (Action ℕ) := [.startPeriodic 1, .control, .control, .control,
      .thread 0, .thread 0, .thread 0, .thread 0, .wake 0 true, .thread 0, .thread 0,
      .thread 0, .thread 0, .stop, .control, .control, .thread 0, .control,
      .startOneShot 2, .control, .control, .control, .thread 1, .thread 1, .thread 1,
      .wake 1 true, .thread 1, .thread 1, .thread 1, .thread 1]
    ∃ timer, run observedStep start actions = .ok (timer,
        [.started ⟨.periodic, 1⟩, .called 1, .stopped, .started ⟨.oneShot, 2⟩,
          .called 2]) ∧
      ∃ task early calls,
        [.started ⟨.periodic, 1⟩, .called 1, .stopped, .started ⟨.oneShot, 2⟩] =
            early ++ .started task :: List.replicate calls (TimerEvent.called 2) ∧
          task.func = 2 ∧ (task.kind = .oneShot → calls = 0) := by
  intro actions
  obtain ⟨timer, ran⟩ : ∃ timer, run observedStep start actions = .ok (timer,
      [.started ⟨.periodic, 1⟩, .called 1, .stopped, .started ⟨.oneShot, 2⟩,
        .called 2]) := ⟨_, rfl⟩
  exact ⟨timer, ran, calls_latestStart ran rfl⟩

end Timer
end CommonUtils
end StarterCpp
