import StarterCpp.Library.Refinement
import StarterCpp.Omniscope.DdsThreads

/-!
# Delivery by the DDS transport

Seen from outside, a topic has no subscription or one, with a callback and, for each
key, with the data that have arrived since and may still be passed on.  The threads of
the transport refine this: whatever the interleaving and whatever the readers drop, the
callback of the subscription in force is called with data that have arrived, each at
most once and those of a key in their order, and there is no fault.
-/

namespace StarterCpp
namespace Omniscope

open PubSub

variable {Callback Message Key : Type*}

/-! ## The abstract object -/

/-- The data that a sample carries. -/
def Sample.message? (sample : Sample Message) : Option Message :=
  if sample.valid then some sample.data else none

/-- The data of one key. -/
def ofKey [DecidableEq Key] (keyOf : Message → Key) (key : Key) (data : List Message) :
    List Message :=
  data.filter fun message => keyOf message = key

@[simp] theorem ofKey_append
    [DecidableEq Key]
    (keyOf : Message → Key)
    (key : Key)
    (first second : List Message) :
    ofKey keyOf key (first ++ second) = ofKey keyOf key first ++ ofKey keyOf key second :=
  List.filter_append ..

/-- The subscription of each topic, with the data of each key that may still be passed
on. -/
abbrev Delivery (Callback Message Key : Type*) :=
  DdsTopic → Option (Callback × (Key → List Message))

namespace Delivery

/-- A topic is subscribed. -/
def isSubscribed
    (delivery : Delivery Callback Message Key)
    (topic : ByteString) : Bool :=
  (DdsTopic.ofName topic).any fun known => (delivery known).isSome

variable [DecidableEq Callback] [DecidableEq Message] [DecidableEq Key]

/-- What comes after the first occurrence of a datum. -/
def after (message : Message) (data : List Message) : List Message :=
  (data.dropWhile fun other => other ≠ message).tail

/-- What may happen, and what may be passed on then: a datum is passed on once, and
nothing of its key that arrived before it is passed on later. -/
def next
    (keyOf : Message → Key)
    (delivery : Delivery Callback Message Key) :
    DdsThreads.Event Callback Message → Option (Delivery Callback Message Key)
  | .subscribed topic callback =>
      if (delivery topic).isNone then
        some (Function.update delivery topic (some (callback, fun _ => [])))
      else none
  | .unsubscribed topic =>
      if (delivery topic).isSome then some (Function.update delivery topic none)
      else none
  | .answered topic subscribed =>
      if subscribed = delivery.isSubscribed topic then some delivery else none
  | .arrived topic sample =>
      some (Function.update delivery topic ((delivery topic).map fun subscription =>
        (subscription.1, fun key =>
          subscription.2 key ++ ofKey keyOf key sample.message?.toList)))
  | .called topic callback message =>
      match delivery topic with
      | some (subscriber, pending) =>
          if subscriber = callback ∧ message ∈ pending (keyOf message) then
            some (Function.update delivery topic (some (callback, fun key =>
              if key = keyOf message then after message (pending key)
              else pending key)))
          else none
      | none => none
  | .fault => none

/-- A datum and what comes after its first occurrence are in their order. -/
theorem cons_after_sublist
    {message : Message}
    {data : List Message}
    (member : message ∈ data) :
    (message :: after message data).Sublist data := by
  induction data with
  | nil => cases member
  | cons first data inductionHypothesis =>
      by_cases same : first = message
      · simp [after, same]
      · have later : message ∈ data := by
          rcases List.mem_cons.mp member with rfl | later
          · exact absurd rfl same
          · exact later
        have skips : after message (first :: data) = after message data := by
          simp [after, same]
        rw [skips]
        exact (inductionHypothesis later).cons first

/-- No occurrence of a datum leaves more after it than the first. -/
theorem sublist_after
    {message : Message}
    {later data : List Message}
    (kept : (message :: later).Sublist data) :
    later.Sublist (after message data) := by
  induction data with
  | nil => cases kept
  | cons first data inductionHypothesis =>
      by_cases same : first = message
      · subst same
        have tail : after first (first :: data) = data := by
          simp [after]
        rw [tail]
        exact List.cons_sublist_cons.mp kept
      · have skips : after message (first :: data) = after message data := by
          simp [after, same]
        rw [skips]
        cases kept with
        | cons _ kept => exact inductionHypothesis kept
        | cons_cons => exact absurd rfl same

/-- The first of some data is pending when they are, and the others are after it. -/
theorem passOn_of_sublist
    {keyOf : Message → Key}
    {pending : Key → List Message}
    {message : Message}
    {later : List Message}
    (holds : ∀ key, (ofKey keyOf key (message :: later)).Sublist (pending key)) :
    message ∈ pending (keyOf message) ∧ ∀ key, (ofKey keyOf key later).Sublist
      (if key = keyOf message then after message (pending key) else pending key) := by
  have ofOwn : ofKey keyOf (keyOf message) (message :: later) =
      message :: ofKey keyOf (keyOf message) later := by
    simp [ofKey]
  refine ⟨(holds (keyOf message)).subset (by simp [ofOwn]), fun key => ?_⟩
  have held := holds key
  split_ifs with same
  · subst same
    rw [ofOwn] at held
    exact sublist_after held
  · simpa [ofKey, Ne.symm same] using held

/-- A pending datum and what may be passed on after it were pending. -/
theorem ofKey_passOn_sublist
    {keyOf : Message → Key}
    {pending : Key → List Message}
    {message : Message}
    (member : message ∈ pending (keyOf message))
    (key : Key) :
    (ofKey keyOf key [message] ++
      if key = keyOf message then after message (pending key)
      else pending key).Sublist (pending key) := by
  split_ifs with same
  · subst same
    simpa [ofKey] using cons_after_sublist member
  · simp [ofKey, Ne.symm same]

/-- A call that may happen is of the subscribed handler with a datum that is pending. -/
theorem next_called
    {keyOf : Message → Key}
    {delivery later : Delivery Callback Message Key}
    {topic : DdsTopic}
    {callback : Callback}
    {message : Message}
    (allows : next keyOf delivery (.called topic callback message) = some later) :
    ∃ pending, delivery topic = some (callback, pending) ∧
      message ∈ pending (keyOf message) ∧
        later = Function.update delivery topic (some (callback, fun key =>
          if key = keyOf message then after message (pending key) else pending key)) := by
  simp only [next] at allows
  split at allows
  · rename_i holder pending held
    split_ifs at allows with matching
    obtain ⟨rfl, isPending⟩ := matching
    exact ⟨pending, held, isPending, (Option.some.inj allows).symm⟩
  · cases allows

end Delivery

/-! ## The invariant of a subscriber -/

namespace Stage

/-- The running flag while a call stands at a stage. -/
def raised : Stage Callback → Bool
  | .createReader _ | .setHandler _ | .raise | .join | .erase => false
  | .spawn | .insert | .lower => true

/-- Whether the thread variable is joinable while a call stands at a stage. -/
def joinable : Stage Callback → Bool
  | .createReader _ | .setHandler _ | .raise | .spawn | .erase => false
  | .insert | .lower | .join => true

/-- Whether the topic is listed as active while a call stands at a stage. -/
def listed : Stage Callback → Bool
  | .createReader _ | .setHandler _ | .raise | .spawn | .insert => false
  | .lower | .join | .erase => true

/-- Whether the topic is subscribed while a call stands at a stage. -/
def served : Stage Callback → Bool
  | .createReader _ | .erase => false
  | .setHandler _ | .raise | .spawn | .insert | .lower | .join => true

end Stage

/-- The samples that a poll thread has taken and not yet passed on. -/
def PollPosition.taken : PollPosition Message → List (Sample Message)
  | .calling samples => samples
  | .testing | .polling | .sleeping | .ended => []

namespace PollingSubscriber

/-- The samples that the poll thread has taken. -/
def taken (subscriber : PollingSubscriber Callback Message) : List (Sample Message) :=
  (subscriber.pollThread.current.map PollPosition.taken).getD []

/-- The data of some samples. -/
def messages (samples : List (Sample Message)) : List Message :=
  samples.filterMap Sample.message?

@[simp] theorem messages_append (first second : List (Sample Message)) :
    messages (first ++ second) = messages first ++ messages second :=
  List.filterMap_append

theorem messages_singleton (sample : Sample Message) :
    messages [sample] = sample.message?.toList := by
  cases carried : sample.message? <;> simp [messages, carried]

section Keys

variable [DecidableEq Key]
variable {keyOf : Message → Key}

/-- The data of a key are those of the samples of that key. -/
theorem ofKey_messages (key : Key) (samples : List (Sample Message)) :
    ofKey keyOf key (messages samples) =
      messages (samples.filter fun sample => keyOf sample.data = key) := by
  rw [ofKey, messages, List.filter_filterMap, messages, List.filterMap_filter]
  congr 1
  funext sample
  cases valid : sample.valid <;>
    by_cases same : keyOf sample.data = key <;>
    simp [Sample.message?, valid, same, Option.filter]

/-- What a reader keeps of the data of a key is in their order. -/
theorem ofKey_messages_of_keeps
    {kept samples : List (Sample Message)}
    (keeps : Keeps keyOf kept samples)
    (key : Key) :
    (ofKey keyOf key (messages kept)).Sublist (ofKey keyOf key (messages samples)) := by
  rw [ofKey_messages, ofKey_messages]
  apply List.Sublist.filterMap
  by_cases occurs : ∃ sample ∈ kept, keyOf sample.data = key
  · obtain ⟨sample, member, rfl⟩ := occurs
    exact keeps sample member
  · have absent : kept.filter (fun sample => decide (keyOf sample.data = key)) = [] := by
      rw [List.filter_eq_nil_iff]
      intro sample member
      simpa using fun same => occurs ⟨sample, member, same⟩
    rw [absent]
    exact List.nil_sublist _

end Keys

/-- The handler that a subscription has, or will have when it is set. -/
def handlerAt
    (subscriber : PollingSubscriber Callback Message) :
    Option (Stage Callback) → Option Callback
  | some (.setHandler callback) => some callback
  | _ => subscriber.handler

/-- A subscriber with what is to be delivered for its topic, where a call stands
that goes through it. -/
structure Consistent
    [DecidableEq Key]
    (keyOf : Message → Key)
    (subscriber : PollingSubscriber Callback Message)
    (pending : Option (Callback × (Key → List Message)))
    (active : Bool)
    (stage : Option (Stage Callback)) : Prop where
  listed : ∀ current ∈ stage, active = current.listed
  sole : subscriber.pollThread.Sole fun position => position.isEnded = true
  running : subscriber.running = stage.elim active Stage.raised
  joinable : subscriber.pollThread.handle.isSome = stage.elim active Stage.joinable
  alive : subscriber.running = true → ∀ position,
    subscriber.pollThread.current = some position → position.isEnded = false
  served : pending.isSome = stage.elim active Stage.served
  delivers : ∀ callback data, pending = some (callback, data) →
    subscriber.handlerAt stage = some callback ∧
      ∃ samples, subscriber.reader = some samples ∧
        ∀ key, (ofKey keyOf key (messages (subscriber.taken ++ samples))).Sublist
          (data key)

namespace Consistent

variable [DecidableEq Key]
variable {keyOf : Message → Key}
variable {subscriber : PollingSubscriber Callback Message}
variable {pending : Option (Callback × (Key → List Message))}
variable {active : Bool}
variable {stage : Option (Stage Callback)}

theorem new :
    Consistent keyOf (new : PollingSubscriber Callback Message) none false none where
  listed := by simp
  sole := .empty
  running := rfl
  joinable := rfl
  alive := by simp [PollingSubscriber.new]
  served := rfl
  delivers := by simp

/-- A released thread variable leaves no thread alive. -/
theorem not_inUse
    (consistent : subscriber.Consistent keyOf pending active stage)
    (released : stage.elim active Stage.joinable = false) :
    subscriber.inUse = false := by
  have handle : subscriber.pollThread.handle = none := by
    rw [← Option.not_isSome_iff_eq_none, consistent.joinable, released]
    exact Bool.false_ne_true
  rw [inUse, List.any_eq_false]
  intro position member alive
  obtain ⟨index, found⟩ := List.getElem?_of_mem member
  have held := consistent.sole.others index position found (by simpa using alive)
  rw [handle] at held
  cases held

theorem taken_eq_nil
    (consistent : subscriber.Consistent keyOf pending active stage)
    (released : stage.elim active Stage.joinable = false) :
    subscriber.taken = [] := by
  have handle : subscriber.pollThread.handle = none := by
    rw [← Option.not_isSome_iff_eq_none, consistent.joinable, released]
    exact Bool.false_ne_true
  have current := consistent.sole.current_eq_none.mpr handle
  simp [taken, current]

/-! ### Calls -/

theorem eq_none_of_served
    (consistent : subscriber.Consistent keyOf pending active stage)
    (unserved : stage.elim active Stage.served = false) :
    pending = none := by
  rw [← Option.not_isSome_iff_eq_none, consistent.served, unserved]
  exact Bool.false_ne_true

/-- A subscription of an inactive topic begins. -/
theorem subscribe
    (consistent : subscriber.Consistent keyOf pending false none)
    (callback : Callback) :
    subscriber.Consistent keyOf pending false (some (.createReader callback)) where
  listed := by simp [Stage.listed]
  sole := consistent.sole
  running := consistent.running
  joinable := consistent.joinable
  alive := consistent.alive
  served := consistent.served
  delivers := consistent.delivers

theorem createReader
    {callback : Callback}
    (consistent : subscriber.Consistent keyOf pending active (some (.createReader callback))) :
    Consistent keyOf { subscriber with reader := some [] }
      (some (callback, fun _ => [])) active (some (.setHandler callback)) where
  listed := by simpa [Stage.listed] using consistent.listed
  sole := consistent.sole
  running := consistent.running
  joinable := consistent.joinable
  alive := consistent.alive
  served := rfl
  delivers := by
    rintro _ _ ⟨⟩
    refine ⟨rfl, [], rfl, fun key => ?_⟩
    have taken := consistent.taken_eq_nil rfl
    simp only [PollingSubscriber.taken] at taken
    simp [PollingSubscriber.taken, taken, messages, ofKey]

theorem setHandler
    {callback : Callback}
    (consistent : subscriber.Consistent keyOf pending active (some (.setHandler callback))) :
    Consistent keyOf { subscriber with handler := some callback } pending active
      (some .raise) where
  listed := by simpa [Stage.listed] using consistent.listed
  sole := consistent.sole
  running := consistent.running
  joinable := consistent.joinable
  alive := consistent.alive
  served := consistent.served
  delivers := by
    intro other data isPending
    exact consistent.delivers other data isPending

theorem raise
    (consistent : subscriber.Consistent keyOf pending active (some .raise)) :
    Consistent keyOf { subscriber with running := true } pending active (some .spawn) where
  listed := by simpa [Stage.listed] using consistent.listed
  sole := consistent.sole
  running := rfl
  joinable := consistent.joinable
  alive := by
    intro _ position current
    have released : subscriber.pollThread.handle = none := by
      rw [← Option.not_isSome_iff_eq_none, consistent.joinable]
      exact Bool.false_ne_true
    have none := consistent.sole.current_eq_none.mpr released
    rw [none] at current
    cases current
  served := consistent.served
  delivers := consistent.delivers

theorem spawn
    (consistent : subscriber.Consistent keyOf pending active (some .spawn)) :
    Consistent keyOf
      { subscriber with pollThread := subscriber.pollThread.spawn .testing } pending
        active (some .insert) where
  listed := by simpa [Stage.listed] using consistent.listed
  sole := by
    refine consistent.sole.spawn ?_ .testing
    rw [← Option.not_isSome_iff_eq_none, consistent.joinable]
    exact Bool.false_ne_true
  running := consistent.running
  joinable := rfl
  alive := by
    intro _ position current
    rw [ThreadSlot.current_spawn, Option.some.injEq] at current
    rw [← current]
    rfl
  served := consistent.served
  delivers := by
    intro callback data isPending
    obtain ⟨handled, samples, reader, holds⟩ :=
      consistent.delivers callback data isPending
    refine ⟨handled, samples, reader, fun key => ?_⟩
    have held := holds key
    rw [consistent.taken_eq_nil rfl] at held
    simpa [PollingSubscriber.taken, PollPosition.taken] using held

theorem insert
    (consistent : subscriber.Consistent keyOf pending active (some .insert)) :
    subscriber.Consistent keyOf pending true none where
  listed := by simp
  sole := consistent.sole
  running := consistent.running
  joinable := consistent.joinable
  alive := consistent.alive
  served := consistent.served
  delivers := consistent.delivers

/-- The subscription of an active topic begins to end. -/
theorem unsubscribe
    (consistent : subscriber.Consistent keyOf pending true none) :
    subscriber.Consistent keyOf pending true (some .lower) where
  listed := by simp [Stage.listed]
  sole := consistent.sole
  running := consistent.running
  joinable := consistent.joinable
  alive := consistent.alive
  served := consistent.served
  delivers := consistent.delivers

theorem lower
    (consistent : subscriber.Consistent keyOf pending active (some .lower)) :
    Consistent keyOf { subscriber with running := false } pending active (some .join) where
  listed := by simpa [Stage.listed] using consistent.listed
  sole := consistent.sole
  running := rfl
  joinable := consistent.joinable
  alive := by simp
  served := consistent.served
  delivers := consistent.delivers

theorem join
    (consistent : subscriber.Consistent keyOf pending active (some .join))
    {position : PollPosition Message}
    (current : subscriber.pollThread.current = some position)
    (ended : position.isEnded = true) :
    subscriber.joined.Consistent keyOf none active (some .erase) where
  listed := by simpa [Stage.listed] using consistent.listed
  sole := by
    refine consistent.sole.release ?_
    intro other isCurrent
    rw [current, Option.some.injEq] at isCurrent
    rw [← isCurrent]
    exact ended
  running := consistent.running
  joinable := rfl
  alive := by simp [joined]
  served := rfl
  delivers := by simp

theorem erase
    (consistent : subscriber.Consistent keyOf pending active (some .erase)) :
    subscriber.Consistent keyOf pending false none where
  listed := by simp
  sole := consistent.sole
  running := consistent.running
  joinable := consistent.joinable
  alive := consistent.alive
  served := consistent.served
  delivers := consistent.delivers

/-! ### Samples and the poll thread -/

theorem arrive
    (consistent : subscriber.Consistent keyOf pending active stage)
    (sample : Sample Message) :
    Consistent keyOf { subscriber with reader := subscriber.reader.map (· ++ [sample]) }
      (pending.map fun subscription => (subscription.1, fun key =>
        subscription.2 key ++ ofKey keyOf key sample.message?.toList)) active stage where
  listed := consistent.listed
  sole := consistent.sole
  running := consistent.running
  joinable := consistent.joinable
  alive := consistent.alive
  served := by simpa using consistent.served
  delivers := by
    intro callback data isPending
    rw [Option.map_eq_some_iff] at isPending
    obtain ⟨⟨subscribed, before⟩, wasPending, same⟩ := isPending
    obtain ⟨rfl, rfl⟩ := Prod.mk.inj same
    obtain ⟨handled, samples, reader, holds⟩ :=
      consistent.delivers subscribed before wasPending
    refine ⟨handled, samples ++ [sample], by simp [reader], fun key => ?_⟩
    rw [← messages_singleton, ← List.append_assoc, messages_append, ofKey_append]
    exact (holds key).append (List.Sublist.refl _)

/-- The reader keeps some of its samples. -/
theorem keep
    (consistent : subscriber.Consistent keyOf pending active stage)
    {kept samples : List (Sample Message)}
    (reader : subscriber.reader = some samples)
    (keeps : Keeps keyOf kept samples) :
    Consistent keyOf { subscriber with reader := some kept } pending active stage where
  listed := consistent.listed
  sole := consistent.sole
  running := consistent.running
  joinable := consistent.joinable
  alive := consistent.alive
  served := consistent.served
  delivers := by
    intro callback data isPending
    obtain ⟨handled, held, isHeld, holds⟩ := consistent.delivers callback data isPending
    obtain rfl := Option.some.inj (reader.symm.trans isHeld)
    refine ⟨handled, kept, rfl, fun key => ?_⟩
    have whole := holds key
    rw [messages_append, ofKey_append] at whole ⊢
    exact ((List.Sublist.refl _).append (ofKey_messages_of_keeps keeps key)).trans whole

/-- While a poll thread is alive the topic is subscribed, and its handler is set. -/
theorem serves_of_alive
    (consistent : subscriber.Consistent keyOf pending active stage)
    {index : ℕ}
    {position : PollPosition Message}
    (found : subscriber.pollThread.threads[index]? = some position)
    (alive : position.isEnded = false) :
    ∃ callback samples data, subscriber.handler = some callback ∧
      subscriber.reader = some samples ∧ pending = some (callback, data) ∧
        ∀ key, (ofKey keyOf key (messages (subscriber.taken ++ samples))).Sublist
          (data key) := by
  have held := consistent.sole.others index position found (by simp [alive])
  have joinable : stage.elim active Stage.joinable = true := by
    rw [← consistent.joinable, held]
    rfl
  have isServed : pending.isSome = true := by
    rw [consistent.served]
    rcases stage with _ | _ | _ | _ | _ | _ | _ | _ | _ <;>
      simp_all [Stage.joinable, Stage.served]
  obtain ⟨⟨callback, data⟩, isPending⟩ := Option.isSome_iff_exists.mp isServed
  obtain ⟨handled, samples, reader, holds⟩ :=
    consistent.delivers callback data isPending
  refine ⟨callback, samples, data, ?_, reader, isPending, holds⟩
  rcases stage with _ | _ | _ | _ | _ | _ | _ | _ | _ <;>
    simp_all [Stage.joinable, handlerAt]

/-- The poll thread moves, and what it has taken then and what is left in the reader
may still be passed on. -/
theorem move
    (consistent : subscriber.Consistent keyOf pending active stage)
    {index : ℕ}
    {position : PollPosition Message}
    (found : subscriber.pollThread.threads[index]? = some position)
    (alive : position.isEnded = false)
    {callback : Callback}
    (handled : subscriber.handler = some callback)
    (served : pending.isSome = true)
    {moved : PollPosition Message}
    (ends : moved.isEnded = true → subscriber.running = false)
    {left : List (Sample Message)}
    {data : Key → List Message}
    (holds : ∀ key, (ofKey keyOf key (messages (moved.taken ++ left))).Sublist
      (data key)) :
    (subscriber.move index (some left) moved).Consistent keyOf (some (callback, data))
      active stage where
  listed := consistent.listed
  sole := consistent.sole.set found (by simp [alive]) moved
  running := consistent.running
  joinable := consistent.joinable
  alive := by
    intro running other current
    have isMoved := consistent.sole.current_set found (by simp [alive]) moved
    rw [PollingSubscriber.move, isMoved, Option.some.injEq] at current
    rw [← current]
    by_contra ended
    have stopped := ends (by simpa using ended)
    exact absurd (running.symm.trans stopped) (by simp)
  served := by
    rw [← consistent.served, served]
    rfl
  delivers := by
    rintro _ _ ⟨⟩
    have isMoved := consistent.sole.current_set found (by simp [alive]) moved
    have taken : (subscriber.move index (some left) moved).taken = moved.taken := by
      simp [PollingSubscriber.taken, PollingSubscriber.move, isMoved]
    refine ⟨?_, left, rfl, by rwa [taken]⟩
    have held := consistent.sole.others index position found (by simp [alive])
    have joinable : stage.elim active Stage.joinable = true := by
      rw [← consistent.joinable, held]
      rfl
    rcases stage with _ | _ | _ | _ | _ | _ | _ | _ | _ <;>
      simp_all [Stage.joinable, handlerAt, PollingSubscriber.move]

end Consistent
end PollingSubscriber

end Omniscope
end StarterCpp
