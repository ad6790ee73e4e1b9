import StarterCpp.Library.Interleaving
import StarterCpp.Library.ThreadSlot
import StarterCpp.Library.Waiting

/-!
# The timer

One controlling thread calls `startOneShot`, `startPeriodic` and `stop`; the
thread of the timer waits under the mutex, calls the function and, for a one-shot
timer, clears the running flag by itself.  Time is not modelled: a wait may time
out whenever the thread is blocked.
-/

namespace StarterCpp
namespace CommonUtils

/-- The two ways to start a timer. -/
inductive Kind
  | oneShot
  | periodic
  deriving DecidableEq, Repr

/-- What a timer thread is started with. -/
structure Task (Func : Type*) where
  kind : Kind
  func : Func
  deriving DecidableEq, Repr

/-- Where a timer thread stands. -/
inductive Position
  /-- A periodic timer, about to test the running flag. -/
  | loopTest
  /-- About to take the mutex. -/
  | acquiring
  | waiting (wait : Wait)
  /-- The wait has timed out; about to test the running flag. -/
  | deciding
  | calling
  /-- A one-shot timer, about to clear the running flag. -/
  | clearing
  /-- Returned because the timer was stopped. -/
  | returned
  /-- Returned by itself after its one shot. -/
  | expired
  deriving DecidableEq, Repr

/-- Whether a thread holds the mutex; the function is called under it. -/
def Position.holdsMutex : Position → Bool
  | .waiting wait => wait.holdsMutex
  | .deciding | .calling | .clearing => true
  | .loopTest | .acquiring | .returned | .expired => false

/-- The effect of a notification. -/
def Position.notify : Position → Position
  | .waiting wait => .waiting wait.notify
  | position => position

structure TimerThread (Func : Type*) where
  task : Task Func
  position : Position
  deriving DecidableEq, Repr

namespace TimerThread

variable {Func : Type*}

/-- The thread that a task starts. -/
def start (task : Task Func) : TimerThread Func where
  task := task
  position :=
    match task.kind with
    | .oneShot => .acquiring
    | .periodic => .loopTest

/-- A thread that has returned. -/
def Ended (thread : TimerThread Func) : Prop :=
  thread.position = .returned ∨ thread.position = .expired

instance (thread : TimerThread Func) : Decidable thread.Ended :=
  inferInstanceAs (Decidable (_ ∨ _))

def notify (thread : TimerThread Func) : TimerThread Func :=
  { thread with position := thread.position.notify }

@[simp] theorem notify_position_eq_expired {thread : TimerThread Func} :
    thread.notify.position = .expired ↔ thread.position = .expired := by
  cases position : thread.position <;> simp [notify, Position.notify, position]

theorem Ended.notify {thread : TimerThread Func} (ended : thread.Ended) :
    thread.notify.Ended := by
  rcases ended with returned | expired
  · exact .inl (by simp [TimerThread.notify, Position.notify, returned])
  · exact .inr (by simp [TimerThread.notify, Position.notify, expired])

/-- Where the thread goes on after it has called its function or not. -/
def afterCall (thread : TimerThread Func) : Position :=
  match thread.task.kind with
  | .oneShot => .clearing
  | .periodic => .loopTest

end TimerThread

/-- Where the controlling thread stands.  A start that found the timer running
goes through `stop` first. -/
inductive Controller (Func : Type*)
  | idle
  /-- About to test the running flag in a start. -/
  | checkRunning (task : Task Func)
  /-- About to clear the running flag in `stop`, under the mutex. -/
  | stopLock (restart : Option (Task Func))
  | stopNotify (restart : Option (Task Func))
  | stopJoin (restart : Option (Task Func))
  | setRunning (task : Task Func)
  /-- About to assign a new thread. -/
  | assign (task : Task Func)
  deriving DecidableEq, Repr

/-- Where the controlling thread goes on after `stop`. -/
def Controller.afterStop {Func : Type*} : Option (Task Func) → Controller Func
  | none => .idle
  | some task => .setRunning task

structure Timer (Func : Type*) where
  isRunning : Bool
  thread : ThreadSlot (TimerThread Func)
  controller : Controller Func
  /-- A thread was assigned to a joinable variable: `std::terminate`. -/
  terminated : Bool

namespace Timer

variable {Func : Type*}

/-- The calls of the controlling thread, its steps inside a call, and the steps
of the timer threads. -/
inductive Action (Func : Type*)
  | startOneShot (func : Func)
  | startPeriodic (func : Func)
  | stop
  | control
  | thread (index : ℕ)
  /-- A blocked thread times out or wakes up spuriously. -/
  | wake (index : ℕ) (timedOut : Bool)

/-- The calls of the function. -/
inductive Output (Func : Type*)
  | called (func : Func)

/-- A new timer. -/
def start : Timer Func where
  isRunning := false
  thread := .empty
  controller := .idle
  terminated := false

/-- Whether no timer thread holds the mutex. -/
def MutexFree (timer : Timer Func) : Prop :=
  ∀ thread ∈ timer.thread.threads, thread.position.holdsMutex = false

instance (timer : Timer Func) : Decidable timer.MutexFree :=
  inferInstanceAs (Decidable (∀ _ ∈ _, _))

/-- The next step of the controlling thread inside its call. -/
def control (timer : Timer Func) :
    Except Disabled (Timer Func × List (Output Func)) :=
  match timer.controller with
  | .idle => .error .disabled
  | .checkRunning task =>
      .ok ({ timer with
        controller :=
          if timer.isRunning then .stopLock (some task)
          else .setRunning task }, [])
  | .stopLock restart =>
      guarded timer.MutexFree
        { timer with isRunning := false, controller := .stopNotify restart } []
  | .stopNotify restart =>
      .ok ({ timer with
        thread := timer.thread.map TimerThread.notify
        controller := .stopJoin restart }, [])
  | .stopJoin restart =>
      match timer.thread.current with
      | none =>
          .ok ({ timer with controller := Controller.afterStop restart }, [])
      | some thread =>
          guarded thread.Ended
            { timer with
              thread := timer.thread.release
              controller := Controller.afterStop restart } []
  | .setRunning task =>
      .ok ({ timer with isRunning := true, controller := .assign task }, [])
  | .assign task =>
      match timer.thread.handle with
      | some _ => .ok ({ timer with terminated := true }, [])
      | none =>
          .ok ({ timer with
            thread := timer.thread.spawn (TimerThread.start task)
            controller := .idle }, [])

/-- The next step of a timer thread: whether it still runs, where it goes and
what it calls. -/
def threadStep
    (timer : Timer Func)
    (thread : TimerThread Func) :
    Except Disabled (Bool × Position × List (Output Func)) :=
  match thread.position with
  | .loopTest =>
      .ok (timer.isRunning,
        if timer.isRunning then .acquiring else .returned, [])
  | .acquiring =>
      if timer.MutexFree then .ok (timer.isRunning, .waiting .testing, [])
      else .error .disabled
  | .waiting wait =>
      if wait.holdsMutex = true ∨ timer.MutexFree then
        match wait.advance (!timer.isRunning) with
        | none => .error .disabled
        | some (.inside next) => .ok (timer.isRunning, .waiting next, [])
        | some (.returned true) => .ok (timer.isRunning, .returned, [])
        | some (.returned false) => .ok (timer.isRunning, .deciding, [])
      else .error .disabled
  | .deciding =>
      .ok (timer.isRunning,
        if timer.isRunning then .calling else thread.afterCall, [])
  | .calling =>
      .ok (timer.isRunning, thread.afterCall, [.called thread.task.func])
  | .clearing => .ok (false, .expired, [])
  | .returned | .expired => .error .disabled

/-- Whether a thread is blocked. -/
def blocked (thread : TimerThread Func) : Bool :=
  match thread.position with
  | .waiting .blocked => true
  | .loopTest | .acquiring | .waiting _ | .deciding | .calling | .clearing
  | .returned | .expired => false

/-- A call, which begins when no other one is in progress. -/
def call
    (timer : Timer Func)
    (controller : Controller Func) :
    Except Disabled (Timer Func × List (Output Func)) :=
  match timer.controller with
  | .idle => .ok ({ timer with controller := controller }, [])
  | .checkRunning _ | .stopLock _ | .stopNotify _ | .stopJoin _ | .setRunning _
  | .assign _ => .error .disabled

/-- One step of the threads while the program is not terminated. -/
def move
    (timer : Timer Func) :
    Action Func → Except Disabled (Timer Func × List (Output Func))
  | .startOneShot func => timer.call (.checkRunning ⟨.oneShot, func⟩)
  | .startPeriodic func => timer.call (.checkRunning ⟨.periodic, func⟩)
  | .stop => timer.call (.stopLock none)
  | .control => timer.control
  | .thread index =>
      match timer.thread.threads[index]? with
      | none => .error .disabled
      | some thread =>
          match timer.threadStep thread with
          | .error fault => .error fault
          | .ok (isRunning, position, emitted) =>
              .ok ({ timer with
                isRunning := isRunning
                thread := timer.thread.set index
                  { thread with position := position } }, emitted)
  | .wake index timedOut =>
      match timer.thread.threads[index]? with
      | none => .error .disabled
      | some thread =>
          guarded (blocked thread = true)
            { timer with
              thread := timer.thread.set index
                { thread with position := .waiting (.woken timedOut) } } []

/-- One step of the timer's threads. -/
def step
    (timer : Timer Func)
    (action : Action Func) :
    Except Disabled (Timer Func × List (Output Func)) :=
  if timer.terminated then .error .disabled else timer.move action

end Timer
end CommonUtils
end StarterCpp
