import StarterCpp.Omniscope.DdsRefinement

/-!
# Progress of the DDS transport

A call that joins a poll thread has cleared the running flag before, and the poll
thread needs no mutex.  So the calls in progress can always be brought to their end,
one after the other.
-/

namespace StarterCpp
namespace Omniscope

open PubSub

variable {Callback Message Key : Type*}

/-! ## What is left to do -/

/-- The steps that a call has left at a stage, and those of the thread it starts. -/
def Stage.left : Stage Callback → ℕ
  | .createReader _ => 8
  | .setHandler _ => 7
  | .raise => 6
  | .spawn => 5
  | .lower => 4
  | .join => 3
  | .insert | .erase => 1

namespace PollingSubscriber

/-- The steps that a poll thread has left once the running flag is cleared. -/
def left (subscriber : PollingSubscriber Callback Message) : ℕ :=
  match subscriber.pollThread.current with
  | some .testing => 1
  | some .sleeping => 2
  | some (.calling samples) => 3 + samples.length
  | some .polling => 4 + (subscriber.reader.getD []).length
  | some .ended | none => 0

end PollingSubscriber

namespace DdsThreads

/-- The steps that the call with the mutex has left. -/
def lockLeft (threads : DdsThreads Callback Message) : ℕ :=
  match threads.lock with
  | none => 0
  | some (.checking _) => 9
  | some (.inside _ stage) => stage.left

/-- The steps that are left until all calls have returned. -/
def left (threads : DdsThreads Callback Message) : ℕ :=
  10 * threads.waiting.length + threads.lockLeft +
    ((threads.subscribers .sensor).left + (threads.subscribers .track).left)

/-- All calls have returned. -/
def Quiet (threads : DdsThreads Callback Message) : Prop :=
  threads.waiting = [] ∧ threads.lock = none

/-- A step of a thread, other than a new call or a change of a reader by the
middleware. -/
def IsInternal : Action Callback Message → Prop
  | .acquire _ | .proceed | .poll _ _ => True
  | .call _ | .sample _ _ | .keep _ _ => False

variable {threads next : DdsThreads Callback Message}

/-- A change of one subscriber changes what is left by as much. -/
theorem left_update
    (threads : DdsThreads Callback Message)
    (topic : DdsTopic)
    (subscriber : PollingSubscriber Callback Message) :
    (threads.update topic subscriber).left + (threads.subscribers topic).left =
      threads.left + subscriber.left := by
  cases topic <;> simp [left, update, lockLeft] <;> omega

theorem left_goOn
    (threads : DdsThreads Callback Message)
    (topic : DdsTopic)
    (stage : Stage Callback) :
    (threads.goOn topic stage).left + threads.lockLeft = threads.left + stage.left := by
  simp only [left, goOn, lockLeft]
  omega

/-- A call that returns leaves nothing, whatever it has changed in the topics. -/
theorem left_unlock
    (threads : DdsThreads Callback Message)
    (active : DdsTopic → Bool) :
    ({ threads with active := active }.unlock).left + threads.lockLeft = threads.left := by
  simp only [left, unlock, lockLeft]
  omega

/-- A call goes on to a stage with fewer steps left. -/
theorem left_update_goOn
    {topic : DdsTopic}
    {stage later : Stage Callback}
    (locked : threads.lock = some (.inside topic stage))
    {subscriber : PollingSubscriber Callback Message}
    (fewer : subscriber.left + later.left <
      (threads.subscribers topic).left + stage.left) :
    ((threads.update topic subscriber).goOn topic later).left < threads.left := by
  have updated := threads.left_update topic subscriber
  have goes := (threads.update topic subscriber).left_goOn topic later
  have held : (threads.update topic subscriber).lockLeft = stage.left := by
    simp [lockLeft, update, locked]
  omega

/-- The check of a call leaves less to do. -/
theorem left_check
    {operation : Operation Callback}
    (locked : threads.lock = some (.checking operation)) :
    (threads.check operation).1.left < threads.left := by
  have held : threads.lockLeft = 9 := by
    simp [lockLeft, locked]
  have unlocked : threads.unlock.left < threads.left := by
    have returned : threads.unlock.left + threads.lockLeft = threads.left :=
      threads.left_unlock threads.active
    omega
  have goes : ∀ topic stage, stage.left < 9 →
      (threads.goOn topic stage).left < threads.left := by
    intro topic stage small
    have gone := threads.left_goOn topic stage
    omega
  cases operation with
  | subscribe topic callback =>
      simp only [check]
      split_ifs
      · exact unlocked
      · split
        · exact goes _ _ (by simp [Stage.left])
        · exact unlocked
  | unsubscribe topic =>
      simp only [check]
      split_ifs
      · split
        · exact goes _ _ (by simp [Stage.left])
        · exact unlocked
      · exact unlocked
  | isSubscribed topic => exact unlocked

/-! ## The step that can be taken -/

variable [DecidableEq Message] [DecidableEq Key]
variable {keyOf : Message → Key}
variable {delivery : Delivery Callback Message Key}

/-- With the running flag cleared, the poll thread of a topic has a step with less
left to do. -/
theorem exists_poll
    (delivers : Delivers keyOf delivery threads)
    {topic : DdsTopic}
    (stopped : (threads.subscribers topic).running = false)
    {position : PollPosition Message}
    (current : (threads.subscribers topic).pollThread.current = some position)
    (alive : position.isEnded = false) :
    ∃ index next emitted, threads.step keyOf (.poll topic index) = .ok (next, emitted) ∧
      next.left < threads.left := by
  obtain ⟨index, held, found⟩ := Option.bind_eq_some_iff.mp current
  obtain ⟨callback, samples, -, handled, reader, -, -⟩ :=
    (delivers topic).serves_of_alive found alive
  have sole := (delivers topic).sole
  have moves : ∀ moved left emitted,
      pollStep topic (threads.subscribers topic) position =
        .ok (some left, moved, emitted) →
      ((threads.subscribers topic).move index (some left) moved).left <
        (threads.subscribers topic).left →
      ∃ index next emitted, threads.step keyOf (.poll topic index) = .ok (next, emitted) ∧
        next.left < threads.left := by
    intro moved left emitted polled fewer
    refine ⟨index, _, emitted, by simp only [step, found, polled]; rfl, ?_⟩
    have updated := threads.left_update topic
      ((threads.subscribers topic).move index (some left) moved)
    omega
  have moved := fun moved => sole.current_set found (by simp [alive]) moved
  cases position with
  | testing =>
      refine moves .ended samples [] (by simp [pollStep, reader, stopped]) ?_
      simp [PollingSubscriber.left, PollingSubscriber.move, moved, current]
  | polling =>
      refine moves (.calling samples) [] [] (by simp [pollStep, reader, handled]) ?_
      simp [PollingSubscriber.left, PollingSubscriber.move, moved, current, reader]
  | calling taken =>
      cases taken with
      | nil =>
          refine moves .sleeping samples [] (by simp [pollStep, reader]) ?_
          simp [PollingSubscriber.left, PollingSubscriber.move, moved, current]
      | cons sample taken =>
          refine moves (.calling taken) samples _
            (by simp only [pollStep, reader, handled]; rfl) ?_
          simp [PollingSubscriber.left, PollingSubscriber.move, moved, current]
  | sleeping =>
      refine moves .testing samples [] (by simp [pollStep, reader]) ?_
      simp [PollingSubscriber.left, PollingSubscriber.move, moved, current]
  | ended => cases alive

/-- A call inside a subscriber can go on, or waits for a poll thread that can. -/
theorem exists_advance
    (delivers : Delivers keyOf delivery threads)
    {topic : DdsTopic}
    {stage : Stage Callback}
    (locked : threads.lock = some (.inside topic stage)) :
    ∃ action next emitted, IsInternal action ∧
      threads.step keyOf action = .ok (next, emitted) ∧ next.left < threads.left := by
  have here := delivers topic
  rw [stageOf_inside locked] at here
  have proceeds : ∀ next emitted, threads.advance topic stage = .ok (next, emitted) →
      next.left < threads.left → ∃ action next emitted, IsInternal action ∧
        threads.step keyOf action = .ok (next, emitted) ∧ next.left < threads.left := by
    intro next emitted advanced fewer
    exact ⟨.proceed, next, emitted, trivial, by simp [step, locked, advanced], fewer⟩
  have held : threads.lockLeft = stage.left := by
    simp [lockLeft, locked]
  -- While the thread variable is released, no thread has steps left.
  have idle : stage.joinable = false →
      (threads.subscribers topic).pollThread.current = none := by
    intro released
    refine here.sole.current_eq_none.mpr ?_
    rw [← Option.not_isSome_iff_eq_none, here.joinable, Option.elim_some, released]
    exact Bool.false_ne_true
  cases stage with
  | createReader callback =>
      refine proceeds _ _ rfl (left_update_goOn locked ?_)
      simp [PollingSubscriber.left, idle rfl, Stage.left]
  | setHandler callback =>
      refine proceeds _ _ rfl (left_update_goOn locked ?_)
      simp [PollingSubscriber.left, Stage.left]
  | raise =>
      refine proceeds _ _ rfl (left_update_goOn locked ?_)
      split_ifs <;> simp [PollingSubscriber.left, Stage.left]
  | spawn =>
      refine proceeds _ _ rfl (left_update_goOn locked ?_)
      simp [PollingSubscriber.left, idle rfl, Stage.left]
  | insert =>
      refine proceeds _ _ rfl ?_
      have returned :=
        threads.left_unlock (Function.update threads.active topic true)
      have some : (Stage.insert : Stage Callback).left = 1 := rfl
      omega
  | lower =>
      refine proceeds _ _ rfl (left_update_goOn locked ?_)
      split_ifs <;> simp [PollingSubscriber.left, Stage.left]
  | join =>
      cases current : (threads.subscribers topic).pollThread.current with
      | none =>
          refine proceeds (threads.goOn topic .erase) [.unsubscribed topic]
            (by simp [advance, current]) ?_
          have goes := threads.left_goOn topic .erase
          have joins : (Stage.join : Stage Callback).left = 3 := rfl
          have erases : (Stage.erase : Stage Callback).left = 1 := rfl
          omega
      | some position =>
          cases ended : position.isEnded with
          | true =>
              refine proceeds
                ((threads.update topic (threads.subscribers topic).joined).goOn topic
                  .erase) [.unsubscribed topic]
                (by simp only [advance, current, guarded, ended, if_true])
                (left_update_goOn locked ?_)
              simp [PollingSubscriber.left, PollingSubscriber.joined, Stage.left]
          | false =>
              obtain ⟨index, next, emitted, polled, fewer⟩ :=
                exists_poll delivers here.running current ended
              exact ⟨.poll topic index, next, emitted, trivial, polled, fewer⟩
  | erase =>
      refine proceeds _ _ rfl ?_
      have returned :=
        threads.left_unlock (Function.update threads.active topic false)
      have some : (Stage.erase : Stage Callback).left = 1 := rfl
      omega

/-- While a call is in progress, some thread can go on and leaves less to do. -/
theorem exists_step
    (delivers : Delivers keyOf delivery threads)
    (busy : ¬threads.Quiet) :
    ∃ action next emitted, IsInternal action ∧
      threads.step keyOf action = .ok (next, emitted) ∧ next.left < threads.left := by
  cases locked : threads.lock with
  | none =>
      cases waits : threads.waiting with
      | nil => exact absurd ⟨waits, locked⟩ busy
      | cons operation waiting =>
          refine ⟨.acquire 0, _, [], trivial,
            by simp only [step, locked, waits]; rfl, ?_⟩
          simp only [left, lockLeft, waits, locked, List.eraseIdx_cons_zero,
            List.length_cons]
          omega
  | some position =>
      cases position with
      | checking operation =>
          refine ⟨.proceed, _, _, trivial, by simp only [step, locked]; rfl, ?_⟩
          exact left_check locked
      | inside topic stage => exact exists_advance delivers locked

/-- From every state that is reached, the threads can bring all calls to their end
without new calls and samples: no call waits for ever. -/
theorem calls_complete
    [DecidableEq Callback]
    {actions : List (Action Callback Message)}
    {history : List (Event Callback Message)}
    {reached : DdsThreads Callback Message}
    (ran : run (step keyOf) new actions = .ok (reached, history)) :
    ∃ more final later, (∀ action ∈ more, IsInternal action) ∧
      run (step keyOf) reached more = .ok (final, later) ∧ final.Quiet := by
  obtain ⟨delivery, -, delivers⟩ := delivers_of_run ran
  have progress : ∀ threads : DdsThreads Callback Message,
      (∃ delivery, Delivers keyOf delivery threads) → ¬threads.Quiet →
        ∃ action next emitted, IsInternal action ∧
          threads.step keyOf action = .ok (next, emitted) ∧
            (∃ delivery, Delivers keyOf delivery next) ∧ next.left < threads.left := by
    rintro threads ⟨delivery, delivers⟩ busy
    obtain ⟨action, next, emitted, internal, stepped, fewer⟩ :=
      exists_step delivers busy
    obtain ⟨later, -, kept⟩ := delivers.step stepped
    exact ⟨action, next, emitted, internal, stepped, ⟨later, kept⟩, fewer⟩
  exact Run.completes progress ⟨delivery, delivers⟩

/-- The calls of a session that is stopped at its join complete. -/
theorem calls_complete_pollingSession :
    ∃ reached history,
      run (step sensorOf) new (pollingSession.take 19) = .ok (reached, history) ∧
      ∃ more final later, (∀ action ∈ more, IsInternal action) ∧
        run (step sensorOf) reached more = .ok (final, later) ∧ final.Quiet := by
  have ran : ∃ reached history,
      run (step sensorOf) new (pollingSession.take 19) = .ok (reached, history) :=
    ⟨_, _, rfl⟩
  obtain ⟨reached, history, ran⟩ := ran
  exact ⟨reached, history, ran, calls_complete ran⟩

end DdsThreads
end Omniscope
end StarterCpp
