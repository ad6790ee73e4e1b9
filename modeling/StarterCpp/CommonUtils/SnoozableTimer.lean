import StarterCpp.Library.History
import StarterCpp.Library.Interleaving

/-!
# The snoozable timer

A watchdog: its thread waits until the execution time, which every snooze moves
on, and calls the function when the wait times out.  `start` and `stop` are
called one after another; `snooze` and `updateSnoozePeriod` by anyone at any time,
also from inside the function, which is called without the mutex.  Clock readings
are nanoseconds and part of the actions.
-/

namespace StarterCpp
namespace CommonUtils
namespace SnoozableTimer

/-- Where the timer thread stands. -/
inductive Position
  /-- About to take the mutex for the first time. -/
  | acquiring
  /-- About to test the running flag, holding the mutex. -/
  | loopTest
  /-- About to block in `wait_until`, holding the mutex. -/
  | entering
  | blocked
  /-- About to take the mutex again inside `wait_until`. -/
  | woken
  /-- Decided to fire, still holding the mutex. -/
  | unlocking
  /-- In the function, without the mutex. -/
  | calling
  | relocking
  /-- About to move the execution time away, holding the mutex. -/
  | rearming
  | finished
  deriving DecidableEq, Repr

namespace Position

def holdsMutex : Position → Bool
  | .loopTest | .entering | .unlocking | .rearming => true
  | .acquiring | .blocked | .woken | .calling | .relocking | .finished => false

/-- The effect of a notification. -/
def notify : Position → Position
  | .blocked => .woken
  | position => position

/-- From the decision to fire to the rewrite of the execution time. -/
def firing : Position → Bool
  | .unlocking | .calling | .relocking | .rearming => true
  | .acquiring | .loopTest | .entering | .blocked | .woken | .finished => false

@[simp] theorem firing_notify (position : Position) :
    position.notify.firing = position.firing := by
  cases position <;> rfl

end Position

/-- Where the thread that starts and stops the timer stands. -/
inductive Controller
  | idle
  /-- About to test the running flag in `start`. -/
  | startTest
  /-- About to set the execution time. -/
  | startArm
  | startFlag
  | startSpawn
  /-- About to clear the running flag in `stop`, under the mutex. -/
  | stopLock
  | stopNotify
  | stopJoin
  deriving DecidableEq, Repr

end SnoozableTimer

structure SnoozableTimer where
  executionTime : Int
  snoozePeriodMs : Int32
  isRunning : Bool
  /-- The thread while it is joinable; it is joined after it has finished. -/
  thread : Option SnoozableTimer.Position
  controller : SnoozableTimer.Controller
  /-- Calls of `updateSnoozePeriod` between their two critical sections. -/
  pendingUpdates : ℕ
  /-- A thread was assigned to a joinable variable: `std::terminate`. -/
  terminated : Bool

namespace SnoozableTimer

/-- Which call has set the execution time. -/
inductive Cause
  | start
  | snooze
  | updateSnoozePeriod
  deriving DecidableEq, Repr

/-- The calls, the steps of the controlling thread inside a call, and the steps
of the timer thread. -/
inductive Action
  | start
  | stop
  | control (now : Int)
  | snooze (now : Int)
  /-- The first critical section of `updateSnoozePeriod`. -/
  | updatePeriod (periodMs : Int32)
  /-- The call of `snooze` in `updateSnoozePeriod`. -/
  | updateSnooze (now : Int)
  /-- The timer thread's next step; where it leaves its wait, the clock reading
  and whether the wait reports a timeout. -/
  | thread (now : Int) (timedOut : Bool)
  /-- The thread is unblocked, by the timeout or spuriously. -/
  | wake
  deriving DecidableEq, Repr

inductive Output
  /-- The execution time was set a period after the given time. -/
  | armed (cause : Cause) (time : Int) (periodMs : Int32)
  /-- The timer thread decided to fire. -/
  | fired (time : Int)
  | called
  /-- The execution time was moved away after a call. -/
  | rearmed (time : Int)
  /-- The critical section of `stop`. -/
  | halted
  deriving DecidableEq, Repr

/-- `std::chrono::milliseconds` in nanoseconds. -/
def milliseconds (count : Int32) : Int :=
  count.toInt * 1000000

/-- `std::chrono::hours(87600)` in nanoseconds. -/
def rearmHours : Int :=
  87600 * 3600 * 1000000000

/-- A new timer; the execution time is the epoch. -/
def new (periodMs : Int32) : SnoozableTimer where
  executionTime := 0
  snoozePeriodMs := periodMs
  isRunning := false
  thread := none
  controller := .idle
  pendingUpdates := 0
  terminated := false

/-- Whether the timer thread does not hold the mutex. -/
def MutexFree (timer : SnoozableTimer) : Prop :=
  ∀ position, timer.thread = some position → position.holdsMutex = false

instance (timer : SnoozableTimer) : Decidable timer.MutexFree :=
  match held : timer.thread with
  | none => .isTrue (by simp [MutexFree, held])
  | some position =>
      decidable_of_iff (position.holdsMutex = false) (by simp [MutexFree, held])

/-- `_cv.notify_all()`. -/
def notifyAll (timer : SnoozableTimer) : SnoozableTimer :=
  { timer with thread := timer.thread.map Position.notify }

/-- Set the execution time a period after now. -/
def arm
    (timer : SnoozableTimer)
    (cause : Cause)
    (now : Int) : SnoozableTimer × List Output :=
  ({ timer with executionTime := now + milliseconds timer.snoozePeriodMs },
    [.armed cause now timer.snoozePeriodMs])

/-- The critical section of `snooze`. -/
def snooze
    (timer : SnoozableTimer)
    (cause : Cause)
    (now : Int) : Except Disabled (SnoozableTimer × List Output) :=
  let (armed, emitted) := timer.arm cause now
  guarded timer.MutexFree armed.notifyAll emitted

/-- The next step of the controlling thread inside its call. -/
def control
    (timer : SnoozableTimer)
    (now : Int) : Except Disabled (SnoozableTimer × List Output) :=
  match timer.controller with
  | .idle => .error .disabled
  | .startTest =>
      .ok ({ timer with
        controller := if timer.isRunning then .idle else .startArm }, [])
  | .startArm =>
      let (armed, emitted) := timer.arm .start now
      .ok ({ armed with controller := .startFlag }, emitted)
  | .startFlag =>
      .ok ({ timer with isRunning := true, controller := .startSpawn }, [])
  | .startSpawn =>
      match timer.thread with
      | some _ => .ok ({ timer with terminated := true }, [])
      | none =>
          .ok ({ timer with
            thread := some .acquiring
            controller := .idle }, [])
  | .stopLock =>
      guarded timer.MutexFree
        { timer with isRunning := false, controller := .stopNotify } [.halted]
  | .stopNotify => .ok ({ timer.notifyAll with controller := .stopJoin }, [])
  | .stopJoin =>
      match timer.thread with
      | none => .ok ({ timer with controller := .idle }, [])
      | some position =>
          guarded (position = .finished)
            { timer with thread := none, controller := .idle } []

/-- The next step of the timer thread. -/
def threadStep
    (timer : SnoozableTimer)
    (position : Position)
    (now : Int)
    (timedOut : Bool) : Except Disabled (SnoozableTimer × List Output) :=
  let moveTo (next : Position) : SnoozableTimer :=
    { timer with thread := some next }
  match position with
  | .acquiring => .ok (moveTo .loopTest, [])
  | .loopTest =>
      .ok (moveTo (if timer.isRunning then .entering else .finished), [])
  | .entering => .ok (moveTo .blocked, [])
  | .blocked => .error .disabled
  | .woken =>
      if timedOut = true ∧ timer.isRunning = true then
        .ok (moveTo .unlocking, [.fired now])
      else
        .ok (moveTo .loopTest, [])
  | .unlocking => .ok (moveTo .calling, [])
  | .calling => .ok (moveTo .relocking, [.called])
  | .relocking => .ok (moveTo .rearming, [])
  | .rearming =>
      .ok ({ moveTo .loopTest with executionTime := now + rearmHours },
        [.rearmed now])
  | .finished => .error .disabled

/-- A call of `start` or `stop`, which begins when none is in progress. -/
def call
    (timer : SnoozableTimer)
    (controller : Controller) : Except Disabled (SnoozableTimer × List Output) :=
  guarded (timer.controller = .idle) { timer with controller := controller } []

/-- One step of the threads while the program is not terminated. -/
def move
    (timer : SnoozableTimer) :
    Action → Except Disabled (SnoozableTimer × List Output)
  | .start => timer.call .startTest
  | .stop => timer.call .stopLock
  | .control now => timer.control now
  | .snooze now => timer.snooze .snooze now
  | .updatePeriod periodMs =>
      guarded timer.MutexFree
        { timer with
          snoozePeriodMs := periodMs
          pendingUpdates := timer.pendingUpdates + 1 } []
  | .updateSnooze now =>
      match timer.pendingUpdates with
      | 0 => .error .disabled
      | remaining + 1 =>
          { timer with pendingUpdates := remaining }.snooze
            .updateSnoozePeriod now
  | .thread now timedOut =>
      match timer.thread with
      | none => .error .disabled
      | some position => timer.threadStep position now timedOut
  | .wake =>
      guarded (timer.thread = some .blocked)
        { timer with thread := some .woken } []

/-- One step of the timer's threads. -/
def step
    (timer : SnoozableTimer)
    (action : Action) : Except Disabled (SnoozableTimer × List Output) :=
  if timer.terminated then .error .disabled else timer.move action

end SnoozableTimer
end CommonUtils
end StarterCpp
