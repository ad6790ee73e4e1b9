import StarterCpp.CommonUtils.DataHandler

/-!
# Destruction of the data handler

The destructor stores the stop flag without the queue mutex and then notifies.
A worker that has found its wait predicate false and has not blocked yet misses
that notification; the destructor then waits for a worker that nothing wakes.
-/

namespace StarterCpp
namespace CommonUtils
namespace DataHandler

variable {Listener Data : Type*}

/-- The destructor waits for the worker, and the worker for a notification that
was given before it blocked. -/
def Hung (handler : DataHandler Listener Data) : Prop :=
  handler.destructor = .joining ∧ handler.worker = .waiting .blocked ∧
    handler.stopFlag = true

/-- The destructor does not notify while the worker is between its test of the
predicate and its block. -/
def NotificationReaches
    (handler : DataHandler Listener Data)
    (action : Action Listener Data) : Prop :=
  action = .destroy → handler.destructor = .notifying →
    handler.worker ≠ .waiting .blocking

/-- While destruction runs the stop flag is up, and after its notification the
worker neither is blocked nor is about to block. -/
structure Stopping (handler : DataHandler Listener Data) : Prop where
  flag : handler.destructor ≠ .notStarted → handler.stopFlag = true
  awake : handler.destructor ≠ .notStarted → handler.destructor ≠ .notifying →
    handler.worker ≠ .waiting .blocking ∧ handler.worker ≠ .waiting .blocked

namespace Stopping

variable {handler next : DataHandler Listener Data}
variable {emitted : List (Output Listener Data)}

theorem start : Stopping (start : DataHandler Listener Data) where
  flag := fun started => absurd rfl started
  awake := fun started => absurd rfl started

/-- The calls come before the destructor. -/
theorem of_notStarted (notStarted : next.destructor = .notStarted) :
    Stopping next where
  flag := fun started => absurd notStarted started
  awake := fun started => absurd notStarted started

/-- A worker that moves on its own does not start to wait on a raised flag. -/
theorem processData
    (stopping : handler.Stopping)
    {outcomeOf : Int32 → Outcome}
    (stepped : handler.processData outcomeOf = .ok (next, emitted)) :
    next.Stopping := by
  have moved : ∀ (worker : Worker Data) (queue : List Data),
      (handler.stopFlag = true → handler.worker ≠ .waiting .blocking →
        worker ≠ .waiting .blocking ∧ worker ≠ .waiting .blocked) →
      Stopping { handler with worker := worker, dataQueue := queue } := by
    intro worker queue keepsAwake
    refine ⟨stopping.flag, fun started notified => ?_⟩
    exact keepsAwake (stopping.flag started) (stopping.awake started notified).1
  unfold DataHandler.processData at stepped
  cases position : handler.worker with
  | loopTest =>
      simp only [position, Except.ok.injEq, Prod.mk.injEq] at stepped
      obtain ⟨rfl, _⟩ := stepped
      apply moved
      intro _ _
      split_ifs
      simp
  | acquiring =>
      simp only [position, Except.ok.injEq, Prod.mk.injEq] at stepped
      obtain ⟨rfl, _⟩ := stepped
      apply moved
      simp
  | waiting wait =>
      simp only [position] at stepped
      split at stepped
      · simp at stepped
      · next inside advanced =>
          obtain ⟨rfl, _⟩ := Prod.mk.inj (Except.ok.inj stepped)
          apply moved
          intro raised notBlocking
          constructor
          · intro blocking
            obtain rfl : inside = .blocking := by simpa using blocking
            have unready := (Wait.advance_eq_blocking advanced).2
            simp [ready, raised] at unready
          · intro blocked
            obtain rfl : inside = .blocked := by simpa using blocked
            rw [position, Wait.advance_eq_blocked advanced] at notBlocking
            exact notBlocking rfl
      · obtain ⟨rfl, _⟩ := Prod.mk.inj (Except.ok.inj stepped)
        apply moved
        simp
  | popping =>
      simp only [position] at stepped
      split_ifs at stepped with ended
      · obtain ⟨rfl, _⟩ := Prod.mk.inj (Except.ok.inj stepped)
        apply moved
        simp
      · split at stepped
        · simp at stepped
        · obtain ⟨rfl, _⟩ := Prod.mk.inj (Except.ok.inj stepped)
          apply moved
          simp
  | notifying data =>
      simp only [position, Except.ok.injEq, Prod.mk.injEq] at stepped
      obtain ⟨rfl, _⟩ := stepped
      apply moved
      simp
  | finished => simp [position] at stepped

/-- The destructor's notification wakes a blocked worker. -/
theorem destroy
    (stopping : handler.Stopping)
    (reaches : handler.NotificationReaches .destroy)
    (stepped : handler.destroy = .ok (next, emitted)) :
    next.Stopping := by
  unfold DataHandler.destroy at stepped
  cases position : handler.destructor with
  | notStarted =>
      simp only [position, Except.ok.injEq, Prod.mk.injEq] at stepped
      obtain ⟨rfl, _⟩ := stepped
      exact ⟨fun _ => rfl, fun _ notified => absurd rfl notified⟩
  | notifying =>
      simp only [position, Except.ok.injEq, Prod.mk.injEq] at stepped
      obtain ⟨rfl, _⟩ := stepped
      refine ⟨fun _ => stopping.flag (by simp [position]), fun _ _ => ?_⟩
      constructor
      · rw [Ne, Worker.notify_eq_blocking]
        exact reaches rfl position
      · exact handler.worker.notify_ne_blocked
  | joining =>
      simp only [position] at stepped
      split at stepped
      · obtain ⟨rfl, _⟩ := Prod.mk.inj (Except.ok.inj stepped)
        refine ⟨fun _ => stopping.flag (by simp [position]), fun _ _ => ?_⟩
        exact stopping.awake (by simp [position]) (by simp [position])
      all_goals simp at stepped
  | clearing =>
      simp only [position, Except.ok.injEq, Prod.mk.injEq] at stepped
      obtain ⟨rfl, _⟩ := stepped
      refine ⟨fun _ => stopping.flag (by simp [position]), fun _ _ => ?_⟩
      exact stopping.awake (by simp [position]) (by simp [position])
  | destroyed => simp [position] at stepped

/-- Every step keeps the worker awake, if the notification reaches it. -/
theorem step
    (stopping : handler.Stopping)
    {action : Action Listener Data}
    (reaches : handler.NotificationReaches action)
    (stepped : handler.step action = .ok (next, emitted)) :
    next.Stopping := by
  cases action with
  | signalData data =>
      simp only [DataHandler.step, signalData] at stepped
      split_ifs at stepped with notCallable stopped
      all_goals
        rw [not_or, not_not] at notCallable
        obtain ⟨rfl, _⟩ := Prod.mk.inj (Except.ok.inj stepped)
        exact of_notStarted notCallable.1
  | registerListener listener =>
      simp only [DataHandler.step, registerListener] at stepped
      split_ifs at stepped with notCallable stopped
      all_goals
        rw [not_not] at notCallable
        obtain ⟨rfl, _⟩ := Prod.mk.inj (Except.ok.inj stepped)
        exact of_notStarted notCallable
  | unregisterListener id =>
      simp only [DataHandler.step, unregisterListener] at stepped
      split_ifs at stepped with notCallable stopped
      all_goals
        rw [not_not] at notCallable
        obtain ⟨rfl, _⟩ := Prod.mk.inj (Except.ok.inj stepped)
        exact of_notStarted notCallable
  | processData outcomeOf => exact stopping.processData stepped
  | wake =>
      simp only [DataHandler.step, wake] at stepped
      split at stepped
      · obtain ⟨rfl, _⟩ := Prod.mk.inj (Except.ok.inj stepped)
        exact ⟨stopping.flag, fun _ _ => by simp⟩
      all_goals simp at stepped
  | destroy => exact stopping.destroy reaches stepped

end Stopping

/-- A notification that misses the worker hangs the destructor. -/
theorem hung_of_missed
    {handler next : DataHandler Listener Data}
    {emitted : List (Output Listener Data)}
    (stopping : handler.Stopping)
    {action : Action Listener Data}
    (stepped : handler.step action = .ok (next, emitted))
    (missed : ¬handler.NotificationReaches action) :
    ∃ final, run step next [.processData fun _ => .returned] = .ok (final, []) ∧
      final.Hung := by
  simp only [NotificationReaches, Classical.not_imp, not_not] at missed
  obtain ⟨rfl, notifying, blocking⟩ := missed
  have raised := stopping.flag (by simp [notifying])
  simp only [step, DataHandler.destroy, notifying, Except.ok.injEq,
    Prod.mk.injEq] at stepped
  obtain ⟨rfl, _⟩ := stepped
  refine ⟨{ handler with worker := .waiting .blocked, destructor := .joining },
    ?_, rfl, rfl, raised⟩
  simp [run, step, DataHandler.processData, blocking, Worker.notify,
    Wait.notify, Wait.advance]

/-- Destruction cannot hang in a run exactly as long as its notification does not
fall between the worker's test of the predicate and its block. -/
theorem notification_decides_shutdown :
    Decides step (start : DataHandler Listener Data) NotificationReaches
      fun _ handler => ¬handler.Hung := by
  let Holds : List (Output Listener Data) → DataHandler Listener Data → Prop :=
    fun _ handler => handler.Stopping
  have initial : Holds [] start := Stopping.start
  apply Decides.of_invariant initial
  · intro _ _ _ _ _ stopping reaches stepped
    exact Stopping.step stopping reaches stepped
  · rintro _ handler stopping ⟨joining, blocked, _⟩
    have awake := Stopping.awake stopping (by simp [joining]) (by simp [joining])
    exact awake.2 blocked
  · intro _ handler action next emitted stopping stepped missed
    obtain ⟨final, ran, hung⟩ := hung_of_missed stopping stepped missed
    exact ⟨_, final, [], ran, not_not.mpr hung⟩

/-- The worker tests the predicate, the destructor stores the flag and notifies,
and the worker blocks. -/
theorem shutdown_hangs :
    ∃ (actions : List (Action Unit Unit)) (final : DataHandler Unit Unit),
      run step start actions = .ok (final, []) ∧ final.Hung := by
  let worker : Action Unit Unit := .processData fun _ => .returned
  exact ⟨[worker, worker, worker, .destroy, .destroy, worker], _, rfl, rfl, rfl,
    rfl⟩

end DataHandler
end CommonUtils
end StarterCpp
