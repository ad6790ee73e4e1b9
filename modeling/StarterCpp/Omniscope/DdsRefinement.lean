import StarterCpp.Omniscope.DdsDelivery

/-!
# The DDS transport refines its delivery

Every step of the threads is one that the abstract object allows: the poll thread of
a topic is alive only while the topic is subscribed, and what it has taken and what is
left in the reader may still be passed on.
-/

namespace StarterCpp
namespace Omniscope

open PubSub

variable {Callback Message Key : Type*}

namespace DdsThreads

/-- Where the call with the mutex stands in the subscriber of a topic. -/
def stageOf
    (threads : DdsThreads Callback Message)
    (topic : DdsTopic) : Option (Stage Callback) :=
  match threads.lock with
  | some (.inside inside stage) => if inside = topic then some stage else none
  | some (.checking _) | none => none

/-- The threads stand where the abstract object stands. -/
def Delivers
    [DecidableEq Key]
    (keyOf : Message → Key)
    (delivery : Delivery Callback Message Key)
    (threads : DdsThreads Callback Message) : Prop :=
  ∀ topic, (threads.subscribers topic).Consistent keyOf (delivery topic)
    (threads.active topic) (threads.stageOf topic)

/-- The abstract object allows what a step emits, and stands where the step leads. -/
def Follows
    [DecidableEq Callback]
    [DecidableEq Message]
    [DecidableEq Key]
    (keyOf : Message → Key)
    (delivery : Delivery Callback Message Key)
    (next : DdsThreads Callback Message)
    (emitted : List (Event Callback Message)) : Prop :=
  ∃ later, allowed (Delivery.next keyOf) delivery emitted = some later ∧
    Delivers keyOf later next

variable {keyOf : Message → Key}
variable {delivery later : Delivery Callback Message Key}
variable {threads next : DdsThreads Callback Message}
variable {topic : DdsTopic}

theorem stageOf_inside
    {stage : Stage Callback}
    (locked : threads.lock = some (.inside topic stage)) :
    threads.stageOf topic = some stage := by
  simp [stageOf, locked]

/-- With the mutex inside one subscriber, no call is inside another one. -/
theorem stageOf_other
    {other : DdsTopic}
    (different : other ≠ topic)
    {stage : Stage Callback}
    (locked : threads.lock = some (.inside topic stage)) :
    threads.stageOf other = none := by
  simp [stageOf, locked, different.symm]

@[simp] theorem stageOf_update
    (threads : DdsThreads Callback Message)
    (topic other : DdsTopic)
    (subscriber : PollingSubscriber Callback Message) :
    (threads.update topic subscriber).stageOf other = threads.stageOf other :=
  rfl

namespace Delivers

variable [DecidableEq Key]

theorem new : Delivers keyOf (fun _ => none) (new : DdsThreads Callback Message) :=
  fun _ => .new

/-- A step that concerns one topic. -/
theorem change
    (topic : DdsTopic)
    (delivers : Delivers keyOf delivery threads)
    (here : (next.subscribers topic).Consistent keyOf (later topic) (next.active topic)
      (next.stageOf topic))
    (subscribers : ∀ other, other ≠ topic →
      next.subscribers other = threads.subscribers other)
    (active : ∀ other, other ≠ topic → next.active other = threads.active other)
    (stages : ∀ other, other ≠ topic → next.stageOf other = threads.stageOf other)
    (deliveries : ∀ other, other ≠ topic → later other = delivery other) :
    Delivers keyOf later next := by
  intro other
  by_cases same : other = topic
  · rw [same]
    exact here
  · rw [subscribers other same, active other same, stages other same,
      deliveries other same]
    exact delivers other

/-- The call with the mutex goes on to another stage. -/
theorem goOn
    (delivers : Delivers keyOf delivery threads)
    (others : ∀ other, other ≠ topic → threads.stageOf other = none)
    {subscriber : PollingSubscriber Callback Message}
    {stage : Stage Callback}
    (here : subscriber.Consistent keyOf (later topic) (threads.active topic) (some stage))
    (deliveries : ∀ other, other ≠ topic → later other = delivery other) :
    Delivers keyOf later ((threads.update topic subscriber).goOn topic stage) := by
  refine change topic delivers ?_ ?_ (fun _ _ => rfl) ?_ deliveries
  · simpa [DdsThreads.goOn, update, stageOf] using here
  · intro other different
    simp [DdsThreads.goOn, update, different]
  · intro other different
    rw [others other different]
    exact stageOf_other different rfl

/-- The call with the mutex returns. -/
theorem unlock
    (delivers : Delivers keyOf delivery threads)
    (others : ∀ other, other ≠ topic → threads.stageOf other = none)
    {active : Bool}
    (here : (threads.subscribers topic).Consistent keyOf (delivery topic) active none) :
    Delivers keyOf delivery
      { threads with active := Function.update threads.active topic active }.unlock := by
  refine change topic delivers ?_ (fun _ _ => rfl) ?_ ?_ (fun _ _ => rfl)
  · simpa [DdsThreads.unlock, stageOf] using here
  · intro other different
    simp [DdsThreads.unlock, different]
  · intro other different
    rw [others other different]
    rfl

/-- Under the mutex, before a call has gone on, the active topics are those that are
subscribed. -/
theorem contains_eq
    (delivers : Delivers keyOf delivery threads)
    (outside : ∀ topic, threads.stageOf topic = none)
    (topic : ByteString) :
    threads.contains topic = delivery.isSubscribed topic := by
  cases known : DdsTopic.ofName topic with
  | none => simp [contains, Delivery.isSubscribed, known]
  | some known' =>
      have served := (delivers known').served
      rw [outside known'] at served
      simpa [contains, Delivery.isSubscribed, known] using served.symm

/-- The poll thread of a topic moves. -/
theorem move
    (delivers : Delivers keyOf delivery threads)
    {index : ℕ}
    {position : PollPosition Message}
    (found : (threads.subscribers topic).pollThread.threads[index]? = some position)
    (alive : position.isEnded = false)
    {callback : Callback}
    (handled : (threads.subscribers topic).handler = some callback)
    (served : (delivery topic).isSome = true)
    {moved : PollPosition Message}
    (ends : moved.isEnded = true → (threads.subscribers topic).running = false)
    {left : List (Sample Message)}
    {data : Key → List Message}
    (holds : ∀ key,
      (ofKey keyOf key (PollingSubscriber.messages (moved.taken ++ left))).Sublist
        (data key)) :
    Delivers keyOf (Function.update delivery topic (some (callback, data)))
      (threads.update topic
        ((threads.subscribers topic).move index (some left) moved)) := by
  refine change topic delivers ?_ ?_ (fun _ _ => rfl) (fun _ _ => rfl) ?_
  · rw [stageOf_update, subscribers_update_self, Function.update_self, active_update]
    exact (delivers topic).move found alive handled served ends holds
  · intro other different
    simp [update, different]
  · intro other different
    simp [different]

variable [DecidableEq Callback] [DecidableEq Message]

theorem advance
    (delivers : Delivers keyOf delivery threads)
    {stage : Stage Callback}
    (locked : threads.lock = some (.inside topic stage))
    {emitted : List (Event Callback Message)}
    (stepped : threads.advance topic stage = .ok (next, emitted)) :
    Follows keyOf delivery next emitted := by
  have here := delivers topic
  rw [stageOf_inside locked] at here
  have others : ∀ other, other ≠ topic → threads.stageOf other = none :=
    fun other different => stageOf_other different locked
  cases stage with
  | createReader callback =>
      simp only [DdsThreads.advance, here.not_inUse rfl, Except.ok.injEq,
        Prod.mk.injEq, Bool.false_eq_true, if_false] at stepped
      obtain ⟨rfl, rfl⟩ := stepped
      have unsubscribed := here.eq_none_of_served rfl
      refine ⟨Function.update delivery topic (some (callback, fun _ => [])), ?_, ?_⟩
      · simp [Delivery.next, unsubscribed]
      · refine delivers.goOn others ?_ ?_
        · simpa using here.createReader
        · intro other different
          simp [different]
  | setHandler callback =>
      simp only [DdsThreads.advance, here.not_inUse rfl, Except.ok.injEq,
        Prod.mk.injEq, Bool.false_eq_true, if_false] at stepped
      obtain ⟨rfl, rfl⟩ := stepped
      exact ⟨delivery, rfl, delivers.goOn others here.setHandler fun _ _ => rfl⟩
  | raise =>
      have lowered : (threads.subscribers topic).running = false := here.running
      simp only [DdsThreads.advance, lowered, Except.ok.injEq, Prod.mk.injEq,
        Bool.false_eq_true, if_false] at stepped
      obtain ⟨rfl, rfl⟩ := stepped
      exact ⟨delivery, rfl, delivers.goOn others here.raise fun _ _ => rfl⟩
  | spawn =>
      have released : (threads.subscribers topic).pollThread.handle.isSome = false :=
        here.joinable
      simp only [DdsThreads.advance, released, Except.ok.injEq, Prod.mk.injEq,
        Bool.false_eq_true, if_false] at stepped
      obtain ⟨rfl, rfl⟩ := stepped
      exact ⟨delivery, rfl, delivers.goOn others here.spawn fun _ _ => rfl⟩
  | insert =>
      simp only [DdsThreads.advance, Except.ok.injEq, Prod.mk.injEq] at stepped
      obtain ⟨rfl, rfl⟩ := stepped
      exact ⟨delivery, rfl, delivers.unlock others here.insert⟩
  | lower =>
      have raised : (threads.subscribers topic).running = true := here.running
      simp only [DdsThreads.advance, raised, Except.ok.injEq, Prod.mk.injEq,
        if_true] at stepped
      obtain ⟨rfl, rfl⟩ := stepped
      exact ⟨delivery, rfl, delivers.goOn others here.lower fun _ _ => rfl⟩
  | join =>
      have subscribed : (delivery topic).isSome = true := here.served
      have after : allowed (Delivery.next keyOf) delivery [.unsubscribed topic] =
          some (Function.update delivery topic none) := by
        simp [Delivery.next, subscribed]
      cases current : (threads.subscribers topic).pollThread.current with
      | none =>
          have released := here.sole.current_eq_none.mp current
          have joinable := here.joinable
          rw [released] at joinable
          cases joinable
      | some position =>
          simp only [DdsThreads.advance, current, guarded_eq_ok] at stepped
          obtain ⟨ended, rfl, rfl⟩ := stepped
          refine ⟨_, after, delivers.goOn others ?_ ?_⟩
          · simpa using here.join current ended
          · intro other different
            simp [different]
  | erase =>
      simp only [DdsThreads.advance, Except.ok.injEq, Prod.mk.injEq] at stepped
      obtain ⟨rfl, rfl⟩ := stepped
      exact ⟨delivery, rfl, delivers.unlock others here.erase⟩

theorem check
    (delivers : Delivers keyOf delivery threads)
    {operation : Operation Callback}
    (locked : threads.lock = some (.checking operation))
    {emitted : List (Event Callback Message)}
    (stepped : threads.check operation = (next, emitted)) :
    Follows keyOf delivery next emitted := by
  have outside : ∀ topic, threads.stageOf topic = none := by
    intro topic
    simp [stageOf, locked]
  have unlocked : Delivers keyOf delivery threads.unlock := by
    intro topic
    have here := delivers topic
    rw [outside topic] at here
    exact here
  have returns : Follows keyOf delivery threads.unlock [] := ⟨delivery, rfl, unlocked⟩
  have goesOn : ∀ topic stage,
      (threads.subscribers topic).Consistent keyOf (delivery topic) (threads.active topic)
        (some stage) → Follows keyOf delivery (threads.goOn topic stage) [] := by
    intro topic stage here
    refine ⟨delivery, rfl, change topic delivers ?_ (fun _ _ => rfl)
      (fun _ _ => rfl) ?_ fun _ _ => rfl⟩
    · simpa [DdsThreads.goOn, stageOf] using here
    · intro other different
      rw [outside other]
      exact stageOf_other different rfl
  cases operation with
  | subscribe topic callback =>
      simp only [DdsThreads.check] at stepped
      split_ifs at stepped with active
      · obtain ⟨rfl, rfl⟩ := Prod.mk.inj stepped
        exact returns
      · cases known : DdsTopic.ofName topic with
        | none =>
            simp only [known] at stepped
            obtain ⟨rfl, rfl⟩ := Prod.mk.inj stepped
            exact returns
        | some found =>
            simp only [known] at stepped
            obtain ⟨rfl, rfl⟩ := Prod.mk.inj stepped
            have inactive : threads.active found = false := by
              simpa [contains, known] using active
            have here := delivers found
            rw [outside found, inactive] at here
            refine goesOn found _ ?_
            rw [inactive]
            exact here.subscribe callback
  | unsubscribe topic =>
      simp only [DdsThreads.check] at stepped
      split_ifs at stepped with active
      · cases known : DdsTopic.ofName topic with
        | none =>
            simp only [known] at stepped
            obtain ⟨rfl, rfl⟩ := Prod.mk.inj stepped
            exact returns
        | some found =>
            simp only [known] at stepped
            obtain ⟨rfl, rfl⟩ := Prod.mk.inj stepped
            have isActive : threads.active found = true := by
              simpa [contains, known] using active
            have here := delivers found
            rw [outside found, isActive] at here
            refine goesOn found _ ?_
            rw [isActive]
            exact here.unsubscribe
      · obtain ⟨rfl, rfl⟩ := Prod.mk.inj stepped
        exact returns
  | isSubscribed topic =>
      obtain ⟨rfl, rfl⟩ := Prod.mk.inj stepped
      refine ⟨delivery, ?_, unlocked⟩
      simp [Delivery.next, delivers.contains_eq outside]

/-- A poll thread passes on what is to be delivered. -/
theorem poll
    (delivers : Delivers keyOf delivery threads)
    (topic : DdsTopic)
    {index : ℕ}
    {emitted : List (Event Callback Message)}
    (stepped : threads.step keyOf (.poll topic index) = .ok (next, emitted)) :
    Follows keyOf delivery next emitted := by
  have here := delivers topic
  simp only [step] at stepped
  cases found : (threads.subscribers topic).pollThread.threads[index]? with
  | none => simp [found] at stepped
  | some position =>
      have alive : position.isEnded = false := by
        by_contra ended
        cases position <;> simp_all [pollStep, PollPosition.isEnded]
      obtain ⟨callback, samples, data, handled, reader, pending, holds⟩ :=
        here.serves_of_alive found alive
      have served : (delivery topic).isSome = true := by
        rw [pending]
        rfl
      have taken : (threads.subscribers topic).taken = position.taken := by
        simp [PollingSubscriber.taken, here.sole.current_of_alive found (by simp [alive])]
      rw [taken] at holds
      -- A move after which as much may still be passed on as before.
      have still : ∀ {moved : PollPosition Message} {left : List (Sample Message)},
          (moved.isEnded = true → (threads.subscribers topic).running = false) →
          PollingSubscriber.messages (moved.taken ++ left) =
            PollingSubscriber.messages (position.taken ++ samples) →
          Delivers keyOf delivery (threads.update topic
            ((threads.subscribers topic).move index (some left) moved)) := by
        intro moved left ends same
        rw [← same] at holds
        have moves := delivers.move found alive handled served ends holds
        rwa [← pending, Function.update_eq_self] at moves
      simp only [found] at stepped
      cases position with
      | testing =>
          simp only [pollStep, Except.ok.injEq, Prod.mk.injEq, reader] at stepped
          obtain ⟨rfl, rfl⟩ := stepped
          refine ⟨delivery, rfl, still ?_ ?_⟩
          · split_ifs with running <;> simp [PollPosition.isEnded, running]
          · split_ifs <;> rfl
      | polling =>
          have polled : pollStep topic (threads.subscribers topic) .polling =
              .ok (some [], .calling samples, []) := by
            simp [pollStep, reader, handled]
          simp only [polled, Except.ok.injEq, Prod.mk.injEq] at stepped
          obtain ⟨rfl, rfl⟩ := stepped
          refine ⟨delivery, rfl, still (by simp [PollPosition.isEnded]) ?_⟩
          simp [PollPosition.taken]
      | calling samplesTaken =>
          cases samplesTaken with
          | nil =>
              simp only [pollStep, Except.ok.injEq, Prod.mk.injEq, reader] at stepped
              obtain ⟨rfl, rfl⟩ := stepped
              exact ⟨delivery, rfl, still (by simp [PollPosition.isEnded]) rfl⟩
          | cons sample samplesTaken =>
              have polled : pollStep topic (threads.subscribers topic)
                  (.calling (sample :: samplesTaken)) =
                    .ok (some samples, .calling samplesTaken,
                      if sample.valid then [.called topic callback sample.data]
                      else []) := by
                simp [pollStep, reader, handled]
              simp only [polled, Except.ok.injEq, Prod.mk.injEq] at stepped
              obtain ⟨rfl, rfl⟩ := stepped
              split_ifs with valid
              · have carried : sample.message? = some sample.data := by
                  simp [Sample.message?, valid]
                have first : PollingSubscriber.messages
                    ((PollPosition.calling (sample :: samplesTaken)).taken ++ samples) =
                      sample.data :: PollingSubscriber.messages
                        ((PollPosition.calling samplesTaken).taken ++ samples) := by
                  simp [PollPosition.taken, PollingSubscriber.messages, carried]
                rw [first] at holds
                obtain ⟨isPending, left⟩ := Delivery.passOn_of_sublist holds
                refine ⟨_, ?_, delivers.move found alive handled served
                  (by simp [PollPosition.isEnded]) left⟩
                simp [Delivery.next, pending, isPending]
              · have carried : sample.message? = none := by
                  simp [Sample.message?, valid]
                refine ⟨delivery, rfl, still (by simp [PollPosition.isEnded]) ?_⟩
                simp [PollPosition.taken, PollingSubscriber.messages, carried]
      | sleeping =>
          simp only [pollStep, Except.ok.injEq, Prod.mk.injEq, reader] at stepped
          obtain ⟨rfl, rfl⟩ := stepped
          exact ⟨delivery, rfl, still (by simp [PollPosition.isEnded]) rfl⟩
      | ended => cases alive

/-- Every step of the threads is one that the abstract object allows. -/
theorem step
    (delivers : Delivers keyOf delivery threads)
    {action : Action Callback Message}
    {emitted : List (Event Callback Message)}
    (stepped : threads.step keyOf action = .ok (next, emitted)) :
    Follows keyOf delivery next emitted := by
  cases action with
  | call operation =>
      simp only [DdsThreads.step, Except.ok.injEq, Prod.mk.injEq] at stepped
      obtain ⟨rfl, rfl⟩ := stepped
      exact ⟨delivery, rfl, delivers⟩
  | acquire index =>
      simp only [DdsThreads.step] at stepped
      split at stepped
      · rename_i operation free waits
        simp only [Except.ok.injEq, Prod.mk.injEq] at stepped
        obtain ⟨rfl, rfl⟩ := stepped
        refine ⟨delivery, rfl, fun topic => ?_⟩
        have here := delivers topic
        have outside : threads.stageOf topic = none := by
          simp [stageOf, free]
        rw [outside] at here
        exact here
      · cases stepped
  | proceed =>
      simp only [DdsThreads.step] at stepped
      cases locked : threads.lock with
      | none => simp [locked] at stepped
      | some position =>
          cases position with
          | checking operation =>
              simp only [locked, Except.ok.injEq] at stepped
              exact delivers.check locked stepped
          | inside topic stage =>
              simp only [locked] at stepped
              exact delivers.advance locked stepped
  | poll topic index => exact delivers.poll topic stepped
  | sample topic sample =>
      simp only [DdsThreads.step, Except.ok.injEq, Prod.mk.injEq] at stepped
      obtain ⟨rfl, rfl⟩ := stepped
      refine ⟨_, rfl, change topic delivers ?_ ?_ (fun _ _ => rfl) (fun _ _ => rfl) ?_⟩
      · rw [stageOf_update, subscribers_update_self, Function.update_self, active_update]
        exact (delivers topic).arrive sample
      · intro other different
        simp [update, different]
      · intro other different
        simp [different]
  | keep topic kept =>
      simp only [DdsThreads.step] at stepped
      split at stepped
      · cases stepped
      · rename_i samples reader
        rw [guarded_eq_ok] at stepped
        obtain ⟨keeps, rfl, rfl⟩ := stepped
        refine ⟨delivery, rfl,
          change topic delivers ?_ ?_ (fun _ _ => rfl) (fun _ _ => rfl) fun _ _ => rfl⟩
        · rw [stageOf_update, subscribers_update_self, active_update]
          exact (delivers topic).keep reader keeps
        · intro other different
          simp [update, different]

end Delivers

/-! ## Settled topics -/

/-- The thread variable of a topic that is not subscribed refers to no thread, and
the poll thread of one that is subscribed is the only one alive. -/
structure Settled (threads : DdsThreads Callback Message) (topic : DdsTopic)
    (subscribed : Bool) : Prop where
  active : threads.active topic = subscribed
  running : (threads.subscribers topic).running = subscribed
  joinable : (threads.subscribers topic).pollThread.handle.isSome = subscribed
  oneAlive : ∀ (first second : ℕ) (position other : PollPosition Message),
    (threads.subscribers topic).pollThread.threads[first]? = some position →
    position.isEnded = false →
    (threads.subscribers topic).pollThread.threads[second]? = some other →
    other.isEnded = false → subscribed = true ∧ first = second

theorem Delivers.settled
    [DecidableEq Key]
    {delivery : Delivery Callback Message Key}
    {threads : DdsThreads Callback Message}
    (delivers : Delivers keyOf delivery threads)
    (free : threads.lock = none)
    (topic : DdsTopic) :
    threads.Settled topic (delivery topic).isSome := by
  have here := delivers topic
  have outside : threads.stageOf topic = none := by
    simp [stageOf, free]
  rw [outside] at here
  have active : (delivery topic).isSome = threads.active topic := here.served
  refine ⟨active.symm, here.running.trans active.symm, here.joinable.trans active.symm,
    ?_⟩
  intro first second position other foundFirst firstAlive foundSecond secondAlive
  have held := here.sole.others first position foundFirst (by simp [firstAlive])
  have joinable := here.joinable
  rw [held] at joinable
  exact ⟨active.trans joinable.symm,
    here.sole.unique foundFirst (by simp [firstAlive]) foundSecond
      (by simp [secondAlive])⟩

/-! ## Histories -/

variable [DecidableEq Callback] [DecidableEq Message] [DecidableEq Key]

/-- Every run leads to where the abstract object stands after its history. -/
theorem delivers_of_run
    {actions : List (Action Callback Message)}
    {history : List (Event Callback Message)}
    {final : DdsThreads Callback Message}
    (ran : run (step keyOf) new actions = .ok (final, history)) :
    ∃ delivery, allowed (Delivery.next keyOf) (fun _ => none) history = some delivery ∧
      Delivers keyOf delivery final := by
  have stepRefines : ∀ delivery (threads : DdsThreads Callback Message) action next
      emitted, Delivers keyOf delivery threads →
        step keyOf threads action = .ok (next, emitted) →
          Follows keyOf delivery next emitted :=
    fun _ _ _ _ _ delivers stepped => delivers.step stepped
  exact Run.refines stepRefines Delivers.new ran

/-- Whatever the interleaving of the threads and whatever the readers drop, what happens
is what the abstract object allows: there is no fault, every answer tells whether the
topic is subscribed, and a call of a handler is that of the subscription in force with
a datum that may still be passed on.  While the mutex is free the topics listed as
active are those subscribed, and each of them has the one poll thread. -/
theorem refines_delivery
    {actions : List (Action Callback Message)}
    {history : List (Event Callback Message)}
    {final : DdsThreads Callback Message}
    (ran : run (step keyOf) new actions = .ok (final, history)) :
    ∃ delivery, allowed (Delivery.next keyOf) (fun _ => none) history = some delivery ∧
      (final.lock = none → ∀ topic, final.Settled topic (delivery topic).isSome) := by
  obtain ⟨delivery, allows, delivers⟩ := delivers_of_run ran
  exact ⟨delivery, allows, fun free topic => delivers.settled free topic⟩

end DdsThreads

namespace Delivery

open DdsThreads

/-- The beginning or the end of a subscription of a topic. -/
def isBoundary (topic : DdsTopic) : Event Callback Message → Bool
  | .subscribed other _ | .unsubscribed other => other = topic
  | .answered _ _ | .arrived _ _ | .called _ _ _ | .fault => false

/-- The data that arrive on a topic. -/
def arrivals (topic : DdsTopic) (history : List (Event Callback Message)) :
    List Message :=
  history.filterMap fun
    | .arrived other sample => if other = topic then sample.message? else none
    | .subscribed _ _ | .unsubscribed _ | .answered _ _ | .called _ _ _ | .fault => none

/-- The data that are passed on for a topic. -/
def passedOn (topic : DdsTopic) (history : List (Event Callback Message)) :
    List Message :=
  history.filterMap fun
    | .called other _ message => if other = topic then some message else none
    | .subscribed _ _ | .unsubscribed _ | .answered _ _ | .arrived _ _ | .fault => none

theorem arrivals_append (topic : DdsTopic) (first second : List (Event Callback Message)) :
    arrivals topic (first ++ second) = arrivals topic first ++ arrivals topic second :=
  List.filterMap_append

theorem arrivals_arrived (topic : DdsTopic) (sample : Sample Message) :
    arrivals topic [(.arrived topic sample : Event Callback Message)] =
      sample.message?.toList := by
  cases carried : sample.message? <;> simp [arrivals, carried]

theorem passedOn_append (topic : DdsTopic) (first second : List (Event Callback Message)) :
    passedOn topic (first ++ second) = passedOn topic first ++ passedOn topic second :=
  List.filterMap_append

variable [DecidableEq Key]

/-- A subscription is in force at the end of a history: what was passed on since it
began and what may still be passed on has arrived, that of each key in its order. -/
def InForce
    (keyOf : Message → Key)
    (history : List (Event Callback Message))
    (topic : DdsTopic)
    (callback : Callback)
    (pending : Key → List Message) : Prop :=
  ∃ earlier during, history = earlier ++ .subscribed topic callback :: during ∧
    during.any (isBoundary topic) = false ∧
      ∀ key, (ofKey keyOf key (passedOn topic during) ++ pending key).Sublist
        (ofKey keyOf key (arrivals topic during))

variable {keyOf : Message → Key}
variable {history : List (Event Callback Message)}
variable {topic : DdsTopic}
variable {callback : Callback}
variable {pending : Key → List Message}

/-- An event of a subscription in force, after which what is passed on and what may
still be passed on was pending or arrives. -/
theorem InForce.concat
    (inForce : InForce keyOf history topic callback pending)
    {event : Event Callback Message}
    {later : Key → List Message}
    (inside : isBoundary topic event = false)
    (balance : ∀ key, (ofKey keyOf key (passedOn topic [event]) ++ later key).Sublist
      (pending key ++ ofKey keyOf key (arrivals topic [event]))) :
    InForce keyOf (history ++ [event]) topic callback later := by
  obtain ⟨earlier, during, rfl, boundaries, arrived⟩ := inForce
  refine ⟨earlier, during ++ [event], by simp, by simp [boundaries, inside], fun key => ?_⟩
  rw [passedOn_append, arrivals_append, ofKey_append, ofKey_append, List.append_assoc]
  refine ((List.Sublist.refl _).append (balance key)).trans ?_
  rw [← List.append_assoc]
  exact (arrived key).append (List.Sublist.refl _)

/-- An event that concerns another topic or no data. -/
theorem InForce.concat_other
    (inForce : InForce keyOf history topic callback pending)
    {event : Event Callback Message}
    (inside : isBoundary topic event = false)
    (noArrival : arrivals topic [event] = [])
    (noCall : passedOn topic [event] = []) :
    InForce keyOf (history ++ [event]) topic callback pending := by
  refine inForce.concat inside fun key => ?_
  simp [noArrival, noCall, ofKey]

variable [DecidableEq Callback] [DecidableEq Message]

/-- What the abstract object holds after an event is in force if what it held before
was. -/
theorem InForce.next
    {before delivery : Delivery Callback Message Key}
    (kept : ∀ subscriber waiting, before topic = some (subscriber, waiting) →
      InForce keyOf history topic subscriber waiting)
    {event : Event Callback Message}
    (allows : next keyOf before event = some delivery)
    (holds : delivery topic = some (callback, pending)) :
    InForce keyOf (history ++ [event]) topic callback pending := by
  cases event with
  | subscribed other subscriber =>
      simp only [Delivery.next] at allows
      split_ifs at allows
      obtain rfl := Option.some.inj allows
      by_cases same : other = topic
      · subst same
        simp only [Function.update_self, Option.some.injEq, Prod.mk.injEq] at holds
        obtain ⟨rfl, rfl⟩ := holds
        exact ⟨history, [], rfl, rfl, fun _ => List.Sublist.refl _⟩
      · rw [Function.update_of_ne (Ne.symm same)] at holds
        exact (kept _ _ holds).concat_other (by simp [isBoundary, same]) rfl rfl
  | unsubscribed other =>
      simp only [Delivery.next] at allows
      split_ifs at allows
      obtain rfl := Option.some.inj allows
      by_cases same : other = topic
      · subst same
        simp at holds
      · rw [Function.update_of_ne (Ne.symm same)] at holds
        exact (kept _ _ holds).concat_other (by simp [isBoundary, same]) rfl rfl
  | answered name subscribed =>
      simp only [Delivery.next] at allows
      split_ifs at allows
      obtain rfl := Option.some.inj allows
      exact (kept _ _ holds).concat_other rfl rfl rfl
  | arrived other sample =>
      simp only [Delivery.next, Option.some.injEq] at allows
      obtain rfl := allows
      by_cases same : other = topic
      · subst same
        rw [Function.update_self, Option.map_eq_some_iff] at holds
        obtain ⟨⟨subscriber, waiting⟩, held, same⟩ := holds
        obtain ⟨rfl, rfl⟩ := Prod.mk.inj same
        refine (kept _ _ held).concat rfl fun key => ?_
        rw [arrivals_arrived]
        exact List.Sublist.refl _
      · rw [Function.update_of_ne (Ne.symm same)] at holds
        exact (kept _ _ holds).concat_other rfl (by simp [arrivals, same]) rfl
  | called other subscriber message =>
      obtain ⟨waiting, held, isPending, rfl⟩ := next_called allows
      by_cases same : other = topic
      · subst same
        rw [Function.update_self, Option.some.injEq, Prod.mk.injEq] at holds
        obtain ⟨rfl, rfl⟩ := holds
        refine (kept _ _ held).concat rfl fun key => ?_
        have passes : passedOn other [.called other subscriber message] = [message] := by
          simp [passedOn]
        have nothing : arrivals other [.called other subscriber message] = [] := rfl
        rw [passes, nothing]
        simpa [ofKey] using ofKey_passOn_sublist isPending key
      · rw [Function.update_of_ne (Ne.symm same)] at holds
        exact (kept _ _ holds).concat_other rfl rfl (by simp [passedOn, same])
  | fault => cases allows

/-- What the abstract object holds for a topic is the subscription in force. -/
theorem inForce_of_allowed
    {delivery : Delivery Callback Message Key}
    (allows : allowed (next keyOf) (fun _ => none) history = some delivery)
    (holds : delivery topic = some (callback, pending)) :
    InForce keyOf history topic callback pending := by
  induction history using List.reverseRecOn generalizing delivery callback pending with
  | nil =>
      obtain rfl := Option.some.inj allows
      cases holds
  | append_singleton history event inductionHypothesis =>
      obtain ⟨before, allowsBefore, allowsEvent⟩ := allowed_append_inv allows
      rw [allowed_singleton] at allowsEvent
      exact InForce.next (fun _ _ => inductionHypothesis allowsBefore) allowsEvent holds

end Delivery

namespace DdsThreads

open Delivery

variable [DecidableEq Callback] [DecidableEq Message] [DecidableEq Key]
variable {keyOf : Message → Key}

/-- Whatever the interleaving of the threads and whatever the readers drop, a handler is
called for a topic only in a subscription with that handler, and the calls of a
subscription pass on data that arrive in it, each at most once and those of a key in
their order. -/
theorem called_inForce
    {actions : List (Action Callback Message)}
    {final : DdsThreads Callback Message}
    {before after : List (Event Callback Message)}
    {topic : DdsTopic}
    {callback : Callback}
    {message : Message}
    (ran : run (step keyOf) new actions =
      .ok (final, before ++ .called topic callback message :: after)) :
    ∃ earlier during, before = earlier ++ .subscribed topic callback :: during ∧
      during.any (isBoundary topic) = false ∧
        ∀ key, (ofKey keyOf key (passedOn topic during ++ [message])).Sublist
          (ofKey keyOf key (arrivals topic during)) := by
  obtain ⟨delivery, allows, -⟩ := delivers_of_run ran
  obtain ⟨middle, allowsBefore, allowsCall⟩ := allowed_append_inv allows
  rw [allowed_cons, Option.bind_eq_some_iff] at allowsCall
  obtain ⟨called, allowsCall, -⟩ := allowsCall
  obtain ⟨waiting, held, isPending, -⟩ := next_called allowsCall
  obtain ⟨earlier, during, split, boundaries, arrived⟩ :=
    inForce_of_allowed allowsBefore held
  refine ⟨earlier, during, split, boundaries, fun key => ?_⟩
  rw [ofKey_append]
  refine ((List.Sublist.refl _).append ?_).trans (arrived key)
  exact (List.sublist_append_left _ _).trans (ofKey_passOn_sublist isPending key)

/-- The sensor that a reading of the session below is from. -/
def sensorOf (reading : ℕ) : ℕ :=
  reading / 10

/-- A subscription whose end is asked for while the poll thread holds samples.  The
reader has dropped the first of two samples of one sensor before, and has brought the
second behind the sample of another sensor. -/
def pollingSession : List (Action ℕ ℕ) :=
  [.call (.subscribe SENSOR_TOPIC 0), .acquire 0] ++ List.replicate 6 .proceed ++
    [.poll .sensor 0, .sample .sensor ⟨true, 71⟩, .sample .sensor ⟨true, 72⟩,
      .sample .sensor ⟨true, 81⟩, .keep .sensor [⟨true, 81⟩, ⟨true, 72⟩],
      .poll .sensor 0, .call (.unsubscribe SENSOR_TOPIC), .acquire 0, .proceed, .proceed,
      .sample .sensor ⟨true, 73⟩] ++
    List.replicate 5 (.poll .sensor 0) ++ [.proceed, .proceed]

def pollingHistory : List (Event ℕ ℕ) :=
  [.subscribed .sensor 0, .arrived .sensor ⟨true, 71⟩, .arrived .sensor ⟨true, 72⟩,
    .arrived .sensor ⟨true, 81⟩, .arrived .sensor ⟨true, 73⟩, .called .sensor 0 81,
    .called .sensor 0 72, .unsubscribed .sensor]

/-- The session is one that the abstract object allows. -/
theorem refines_pollingSession :
    ∃ final, run (step sensorOf) new pollingSession = .ok (final, pollingHistory) ∧
      ∃ delivery,
        allowed (Delivery.next sensorOf) (fun _ => none) pollingHistory =
          some delivery ∧
        (final.lock = none →
          ∀ topic, final.Settled topic (delivery topic).isSome) := by
  have ran : ∃ final,
      run (step sensorOf) new pollingSession = .ok (final, pollingHistory) :=
    ⟨_, rfl⟩
  obtain ⟨final, ran⟩ := ran
  exact ⟨final, ran, refines_delivery ran⟩

/-- The samples that were taken before the end of the subscription are passed on in
it. -/
theorem called_pollingSession :
    ∃ earlier during, pollingHistory.take 6 =
        earlier ++ .subscribed .sensor 0 :: during ∧
      during.any (isBoundary .sensor) = false ∧
        ∀ key, (ofKey sensorOf key (passedOn .sensor during ++ [72])).Sublist
          (ofKey sensorOf key (arrivals .sensor during)) := by
  have ran : ∃ final, run (step sensorOf) new pollingSession =
      .ok (final, pollingHistory.take 6 ++ .called .sensor 0 72 ::
        [.unsubscribed .sensor]) :=
    ⟨_, rfl⟩
  obtain ⟨final, ran⟩ := ran
  exact called_inForce ran

end DdsThreads
end Omniscope
end StarterCpp
