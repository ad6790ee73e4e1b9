import Mathlib.Data.List.Basic

/-!
# A thread variable

A `std::thread` variable refers to at most one of the threads it was ever
assigned.  Joining the thread releases the variable; assigning a thread to a
variable that has not been released is fatal.  When every thread that has not
ended is the one the variable refers to, at most one thread is alive.
-/

namespace StarterCpp

/-- A thread variable together with all threads it has been assigned. -/
structure ThreadSlot (Thread : Type*) where
  threads : List Thread
  /-- The thread that the variable refers to, while it is joinable. -/
  handle : Option ℕ
  deriving DecidableEq, Repr

namespace ThreadSlot

variable {Thread : Type*}

/-- A variable that has held no thread. -/
def empty : ThreadSlot Thread where
  threads := []
  handle := none

/-- The thread that the variable refers to. -/
def current (slot : ThreadSlot Thread) : Option Thread :=
  slot.handle.bind fun index => slot.threads[index]?

/-- Assign a new thread. -/
def spawn (slot : ThreadSlot Thread) (thread : Thread) : ThreadSlot Thread where
  threads := slot.threads ++ [thread]
  handle := some slot.threads.length

/-- Move one of the threads. -/
def set
    (slot : ThreadSlot Thread)
    (index : ℕ)
    (thread : Thread) : ThreadSlot Thread :=
  { slot with threads := slot.threads.set index thread }

/-- Do something to all threads. -/
def map
    (slot : ThreadSlot Thread)
    (change : Thread → Thread) : ThreadSlot Thread :=
  { slot with threads := slot.threads.map change }

/-- Release the variable after a join. -/
def release (slot : ThreadSlot Thread) : ThreadSlot Thread :=
  { slot with handle := none }

@[simp] theorem current_empty : (empty : ThreadSlot Thread).current = none :=
  rfl

@[simp] theorem current_spawn (slot : ThreadSlot Thread) (thread : Thread) :
    (slot.spawn thread).current = some thread := by
  simp [current, spawn]

@[simp] theorem current_release (slot : ThreadSlot Thread) :
    slot.release.current = none :=
  rfl

@[simp] theorem current_map
    (slot : ThreadSlot Thread)
    (change : Thread → Thread) :
    (slot.map change).current = slot.current.map change := by
  cases held : slot.handle with
  | none => simp [current, map, held]
  | some index => simp [current, map, held]

@[simp] theorem handle_set
    (slot : ThreadSlot Thread)
    (index : ℕ)
    (thread : Thread) :
    (slot.set index thread).handle = slot.handle :=
  rfl

@[simp] theorem handle_map
    (slot : ThreadSlot Thread)
    (change : Thread → Thread) :
    (slot.map change).handle = slot.handle :=
  rfl

/-- Every thread that has not ended is the one the variable refers to. -/
structure Sole (ended : Thread → Prop) (slot : ThreadSlot Thread) : Prop where
  others : ∀ index thread, slot.threads[index]? = some thread →
    ¬ended thread → slot.handle = some index
  valid : ∀ index, slot.handle = some index → index < slot.threads.length

namespace Sole

variable {ended : Thread → Prop}
variable {slot : ThreadSlot Thread}

theorem empty : Sole ended (empty : ThreadSlot Thread) where
  others := by
    intro index thread found
    simp [ThreadSlot.empty] at found
  valid := by
    intro index held
    simp [ThreadSlot.empty] at held

/-- Two threads that have not ended are one. -/
theorem unique
    (sole : Sole ended slot)
    {first second : ℕ}
    {thread other : Thread}
    (foundFirst : slot.threads[first]? = some thread)
    (firstAlive : ¬ended thread)
    (foundSecond : slot.threads[second]? = some other)
    (secondAlive : ¬ended other) :
    first = second := by
  have heldFirst := sole.others first thread foundFirst firstAlive
  have heldSecond := sole.others second other foundSecond secondAlive
  rw [heldFirst] at heldSecond
  exact Option.some.inj heldSecond

/-- A variable that refers to no thread has been released. -/
theorem current_eq_none (sole : Sole ended slot) :
    slot.current = none ↔ slot.handle = none := by
  cases held : slot.handle with
  | none => simp [current, held]
  | some index =>
      have bound := sole.valid index held
      simp [current, held, bound]

/-- A thread that has not ended is the one the variable refers to. -/
theorem current_of_alive
    (sole : Sole ended slot)
    {index : ℕ}
    {thread : Thread}
    (found : slot.threads[index]? = some thread)
    (alive : ¬ended thread) :
    slot.current = some thread := by
  rw [current, sole.others index thread found alive]
  exact found

/-- Moving the thread that has not ended moves the one the variable refers
to. -/
theorem current_set
    (sole : Sole ended slot)
    {index : ℕ}
    {thread : Thread}
    (found : slot.threads[index]? = some thread)
    (alive : ¬ended thread)
    (moved : Thread) :
    (slot.set index moved).current = some moved := by
  have bound := (List.getElem?_eq_some_iff.mp found).1
  rw [current, handle_set, sole.others index thread found alive]
  simp [set, bound]

theorem set
    (sole : Sole ended slot)
    {index : ℕ}
    {thread : Thread}
    (found : slot.threads[index]? = some thread)
    (alive : ¬ended thread)
    (moved : Thread) :
    Sole ended (slot.set index moved) where
  others := by
    intro other reached foundOther otherAlive
    rw [ThreadSlot.set, List.getElem?_set] at foundOther
    split_ifs at foundOther with same bound
    · rw [handle_set, sole.others index thread found alive, same]
    · exact sole.others other reached foundOther otherAlive
  valid := by
    intro other held
    rw [ThreadSlot.set, List.length_set]
    exact sole.valid other held

/-- What brings no thread back to life keeps the rule. -/
theorem map
    (sole : Sole ended slot)
    {change : Thread → Thread}
    (keepsEnded : ∀ thread, ended thread → ended (change thread)) :
    Sole ended (slot.map change) where
  others := by
    intro index reached found alive
    rw [ThreadSlot.map, List.getElem?_map, Option.map_eq_some_iff] at found
    obtain ⟨thread, foundBefore, rfl⟩ := found
    apply sole.others index thread foundBefore
    intro dead
    exact alive (keepsEnded thread dead)
  valid := by
    intro index held
    rw [ThreadSlot.map, List.length_map]
    exact sole.valid index held

/-- A thread may be assigned to a released variable. -/
theorem spawn
    (sole : Sole ended slot)
    (released : slot.handle = none)
    (thread : Thread) :
    Sole ended (slot.spawn thread) where
  others := by
    intro index reached found alive
    rw [ThreadSlot.spawn, List.getElem?_append] at found
    split_ifs at found with bound
    · have held := sole.others index reached found alive
      rw [released] at held
      exact absurd held (by simp)
    · have last := (List.getElem?_eq_some_iff.mp found).1
      rw [List.length_singleton] at last
      have same : index = slot.threads.length := by omega
      rw [same]
      rfl
  valid := by
    intro index held
    rw [ThreadSlot.spawn, Option.some.injEq] at held
    simp [ThreadSlot.spawn, held]

/-- A variable may be released after its thread has ended. -/
theorem release
    (sole : Sole ended slot)
    (joined : ∀ thread, slot.current = some thread → ended thread) :
    Sole ended slot.release where
  others := by
    intro index reached found alive
    have held := sole.current_of_alive found alive
    exact absurd (joined reached held) alive
  valid := by
    intro index held
    simp [ThreadSlot.release] at held

end Sole
end ThreadSlot
end StarterCpp
