import Mathlib.Data.Finset.Card
import Mathlib.Data.Finset.Insert
import Mathlib.Data.List.Count

/-!
# Collecting a finite set of items

A collector waits for the items of a needed set.  It ignores an item it
already holds, and on the last missing item it reports one completion and starts
over empty.  What it holds may be discarded at any moment.

Two facts characterise it.  Under arbitrary loss, duplication, reordering and
discarding, the completions never outnumber the arrivals of any single needed
item.  Without discarding, the first moment at which every needed item has
arrived is the one completion.
-/

namespace StarterCpp

/-- What can happen to a collector. -/
inductive Collector.Event (ι : Type*)
  | arrive (item : ι)
  | discard
  deriving DecidableEq

namespace Collector

/-- The item that an event brings, if any. -/
def Event.item? {ι : Type*} : Event ι → Option ι
  | .arrive item => some item
  | .discard => none

@[simp] theorem filterMap_item_arrive
    {ι : Type*}
    (item : ι)
    (events : List (Event ι)) :
    (Event.arrive item :: events).filterMap Event.item? =
      item :: events.filterMap Event.item? := rfl

@[simp] theorem filterMap_item_discard
    {ι : Type*}
    (events : List (Event ι)) :
    (Event.discard :: events).filterMap Event.item? =
      events.filterMap Event.item? := rfl

/-- Events without a discard are the arrivals of the items they bring. -/
theorem eq_map_arrive
    {ι : Type*}
    {events : List (Event ι)}
    (undisturbed : .discard ∉ events) :
    events = (events.filterMap Event.item?).map .arrive := by
  induction events with
  | nil => rfl
  | cons event events inductionHypothesis =>
      rw [List.mem_cons, not_or] at undisturbed
      have tail := inductionHypothesis undisturbed.2
      cases event with
      | arrive arrived =>
          rw [filterMap_item_arrive, List.map_cons, ← tail]
      | discard => exact absurd rfl undisturbed.1

variable {ι : Type*} [DecidableEq ι]

/-- One event of a collector, with whether it completes the needed set. -/
def step (needed held : Finset ι) : Event ι → Finset ι × Bool
  | .arrive item =>
      if item ∈ held then (held, false)
      else if insert item held = needed then (∅, true)
      else (insert item held, false)
  | .discard => (∅, false)

/-- Run a collector, counting the completions. -/
def gather (needed : Finset ι) : Finset ι → List (Event ι) → Finset ι × ℕ
  | held, [] => (held, 0)
  | held, event :: events =>
      let next := step needed held event
      let later := gather needed next.1 events
      (later.1, (if next.2 then 1 else 0) + later.2)

@[simp] theorem gather_nil (needed held : Finset ι) :
    gather needed held [] = (held, 0) := rfl

@[simp] theorem gather_cons
    (needed held : Finset ι)
    (event : Event ι)
    (events : List (Event ι)) :
    gather needed held (event :: events) =
      ((gather needed (step needed held event).1 events).1,
        (if (step needed held event).2 then 1 else 0) +
          (gather needed (step needed held event).1 events).2) := rfl

@[simp] theorem step_discard (needed held : Finset ι) :
    step needed held .discard = (∅, false) := rfl

theorem step_arrive_of_mem
    {needed held : Finset ι}
    {item : ι}
    (present : item ∈ held) :
    step needed held (.arrive item) = (held, false) := by
  simp [step, present]

theorem step_arrive_last
    {needed held : Finset ι}
    {item : ι}
    (missing : item ∉ held)
    (complete : insert item held = needed) :
    step needed held (.arrive item) = (∅, true) := by
  simp [step, missing, complete]

theorem step_arrive_more
    {needed held : Finset ι}
    {item : ι}
    (missing : item ∉ held)
    (incomplete : insert item held ≠ needed) :
    step needed held (.arrive item) = (insert item held, false) := by
  simp [step, missing, incomplete]

/-- Running two lists of events one after the other. -/
theorem gather_append
    (needed held : Finset ι)
    (events moreEvents : List (Event ι)) :
    gather needed held (events ++ moreEvents) =
      ((gather needed (gather needed held events).1 moreEvents).1,
        (gather needed held events).2 +
          (gather needed (gather needed held events).1 moreEvents).2) := by
  induction events generalizing held with
  | nil => simp
  | cons event events inductionHypothesis =>
      simp only [List.cons_append, gather_cons, inductionHypothesis]
      rw [Nat.add_assoc]

/-- Whether an item is held, as the number it contributes to a potential. -/
def credit (item : ι) (held : Finset ι) : ℕ := if item ∈ held then 1 else 0

/-- One event spends at most the credit of an item and one arrival of it. -/
theorem step_credit
    {needed : Finset ι}
    {item : ι}
    (itemNeeded : item ∈ needed)
    (held : Finset ι)
    (event : Event ι) :
    (if (step needed held event).2 then 1 else 0) +
        credit item (step needed held event).1 ≤
      credit item held + [event].count (.arrive item) := by
  cases event with
  | discard => simp [credit]
  | arrive arrived =>
      by_cases present : arrived ∈ held
      · rw [step_arrive_of_mem present]
        simp
      · by_cases complete : insert arrived held = needed
        · rw [step_arrive_last present complete]
          rw [← complete, Finset.mem_insert] at itemNeeded
          rcases itemNeeded with rfl | alreadyHeld
          · simp [credit]
          · simp [credit, alreadyHeld]
        · rw [step_arrive_more present complete]
          by_cases same : item = arrived
          · subst same
            simp [credit]
          · simp [credit, same]

/-- Completions never outnumber the arrivals of a needed item, counting one for
a copy already held and one for a copy still held at the end. -/
theorem completions_add_credit_le
    {needed : Finset ι}
    {item : ι}
    (itemNeeded : item ∈ needed)
    (held : Finset ι)
    (events : List (Event ι)) :
    (gather needed held events).2 + credit item (gather needed held events).1 ≤
      credit item held + events.count (.arrive item) := by
  induction events generalizing held with
  | nil => simp
  | cons event events inductionHypothesis =>
      have spent := step_credit itemNeeded held event
      have later := inductionHypothesis (step needed held event).1
      have split : ([event] ++ events).count (Event.arrive item) =
          [event].count (.arrive item) + events.count (.arrive item) :=
        List.count_append
      rw [List.singleton_append] at split
      simp only [gather_cons, split]
      omega

/-- Starting empty, completions are bounded by the arrivals of each needed
item. -/
theorem completions_le_count
    {needed : Finset ι}
    {item : ι}
    (itemNeeded : item ∈ needed)
    (events : List (Event ι)) :
    (gather needed ∅ events).2 ≤ events.count (.arrive item) := by
  have bound := completions_add_credit_le itemNeeded ∅ events
  simp only [credit, Finset.notMem_empty, if_false, Nat.zero_add] at bound
  omega

/-- Arrivals that cover the needed set, of which none comes after the set is
covered, complete it exactly once and leave nothing behind. -/
theorem gather_once
    {needed held : Finset ι}
    {items : List ι}
    (open_ : held ⊂ needed)
    (relevant : ∀ item ∈ items, item ∈ needed)
    (covering : needed ⊆ held ∪ items.toFinset)
    (inTime : ∀ early item late, items = early ++ item :: late →
      ¬needed ⊆ held ∪ early.toFinset) :
    gather needed held (items.map .arrive) = (∅, 1) := by
  induction items generalizing held with
  | nil =>
      simp only [List.toFinset_nil, Finset.union_empty] at covering
      exact absurd covering open_.2
  | cons item items inductionHypothesis =>
      have coveringTail : needed ⊆ insert item held ∪ items.toFinset := by
        simpa [Finset.insert_union] using covering
      have inTimeTail : ∀ early later late, items = early ++ later :: late →
          ¬needed ⊆ insert item held ∪ early.toFinset := by
        intro early later late split
        have outside := inTime (item :: early) later late (by simp [split])
        simpa [Finset.insert_union] using outside
      have relevantTail : ∀ later ∈ items, later ∈ needed := fun later member =>
        relevant later (List.mem_cons_of_mem item member)
      by_cases present : item ∈ held
      · rw [Finset.insert_eq_of_mem present] at coveringTail inTimeTail
        rw [List.map_cons, gather_cons, step_arrive_of_mem present,
          inductionHypothesis open_ relevantTail coveringTail inTimeTail]
        simp
      · by_cases complete : insert item held = needed
        · -- The set is covered now, so no further arrival may follow.
          have finished : items = [] := by
            cases items with
            | nil => rfl
            | cons later items =>
                exact absurd (by simp [complete])
                  (inTimeTail [] later items rfl)
          subst finished
          rw [List.map_cons, gather_cons, step_arrive_last present complete]
          simp
        · have stillOpen : insert item held ⊂ needed := by
            apply Finset.ssubset_iff_subset_ne.mpr
            refine ⟨?_, complete⟩
            exact Finset.insert_subset (relevant item List.mem_cons_self) open_.1
          rw [List.map_cons, gather_cons, step_arrive_more present complete,
            inductionHypothesis stillOpen relevantTail coveringTail inTimeTail]
          simp

/-- The arrivals of an item, counted among the items that the events bring. -/
theorem count_arrive (item : ι) (events : List (Event ι)) :
    events.count (.arrive item) = (events.filterMap Event.item?).count item := by
  induction events with
  | nil => rfl
  | cons event events inductionHypothesis =>
      cases event with
      | arrive arrived => simp [List.count_cons, inductionHypothesis]
      | discard => simp [inductionHypothesis]

end Collector
end StarterCpp
