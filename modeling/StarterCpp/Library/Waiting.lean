import Mathlib.Logic.Basic

/-!
# Waiting on a condition variable

A thread inside `wait` with a predicate tests the predicate under the mutex;
when it is false the thread blocks, which releases the mutex.  A notification
reaches a blocked thread only: one that is about to block misses it.  A wait
with a timeout tests the predicate a last time after it has timed out.
-/

namespace StarterCpp

/-- Where a thread stands inside a wait on a condition variable. -/
inductive Wait
  /-- About to test the predicate, holding the mutex. -/
  | testing
  /-- The predicate was false; about to block, still holding the mutex. -/
  | blocking
  /-- Blocked, without the mutex. -/
  | blocked
  /-- Unblocked, about to take the mutex again. -/
  | woken (timedOut : Bool)
  /-- Timed out; about to test the predicate once more, holding the mutex. -/
  | lastTesting
  deriving DecidableEq, Repr

namespace Wait

/-- Whether the waiting thread holds the mutex. -/
def holdsMutex : Wait → Bool
  | .testing | .blocking | .lastTesting => true
  | .blocked | .woken _ => false

/-- The effect of a notification on the waiting thread. -/
def notify : Wait → Wait
  | .blocked => .woken false
  | wait => wait

/-- A thread either stays inside its wait or returns from it with the last value
of the predicate. -/
inductive Progress
  | inside (wait : Wait)
  | returned (value : Bool)
  deriving DecidableEq, Repr

/-- The waiting thread's own next step; a blocked thread has none. -/
def advance (predicate : Bool) : Wait → Option Progress
  | .testing =>
      some (if predicate then .returned true else .inside .blocking)
  | .blocking => some (.inside .blocked)
  | .blocked => none
  | .woken false => some (.inside .testing)
  | .woken true => some (.inside .lastTesting)
  | .lastTesting => some (.returned predicate)

/-- A notified thread is not blocked. -/
theorem notify_ne_blocked (wait : Wait) : wait.notify ≠ .blocked := by
  cases wait <;> simp [notify]

/-- A notification leaves a thread that is about to block where it was. -/
@[simp] theorem notify_eq_blocking {wait : Wait} :
    wait.notify = .blocking ↔ wait = .blocking := by
  cases wait <;> simp [notify]

/-- A thread about to block found the predicate false. -/
theorem advance_eq_blocking
    {predicate : Bool}
    {wait : Wait}
    (advanced : wait.advance predicate = some (.inside .blocking)) :
    wait = .testing ∧ predicate = false := by
  cases wait with
  | testing =>
      cases predicate with
      | false => exact ⟨rfl, rfl⟩
      | true => simp [advance] at advanced
  | blocking | blocked | lastTesting => simp [advance] at advanced
  | woken timedOut => cases timedOut <;> simp [advance] at advanced

/-- A thread blocks from the state in which it was about to. -/
theorem advance_eq_blocked
    {predicate : Bool}
    {wait : Wait}
    (advanced : wait.advance predicate = some (.inside .blocked)) :
    wait = .blocking := by
  cases wait with
  | testing => cases predicate <;> simp [advance] at advanced
  | blocking => rfl
  | blocked | lastTesting => simp [advance] at advanced
  | woken timedOut => cases timedOut <;> simp [advance] at advanced

end Wait
end StarterCpp
