import Mathlib.Logic.Function.Basic
import StarterCpp.Library.Interleaving
import StarterCpp.Library.ThreadSlot
import StarterCpp.Omniscope.TransportDds

/-!
# The threads of the DDS transport

The threads of the web server call the transport.  Each call holds the mutex of the
transport while it goes through the subscriber of the topic, and the poll thread of
the subscriber runs at the same time.  A fault is a handler or a reader that is
replaced while a poll thread may use it, a thread that is assigned to a joinable
variable, or a call of an empty handler.

The readers are those of the middleware, with the history and the reliability that
`CycloneDDSConfig` gives them, and their topics have keys: at any time a reader may
drop samples that have not been taken, and it orders only those of one key.
-/

namespace StarterCpp
namespace Omniscope

open PubSub

/-- A sample of a reader: whether it carries data, and the data. -/
structure Sample (Message : Type*) where
  valid : Bool
  data : Message
  deriving DecidableEq, Repr

/-- Where a poll thread stands in `pollLoop`. -/
inductive PollPosition (Message : Type*)
  /-- About to test the running flag. -/
  | testing
  /-- About to take the samples of the reader. -/
  | polling
  /-- About to pass on samples that were taken. -/
  | calling (samples : List (Sample Message))
  | sleeping
  | ended
  deriving DecidableEq, Repr

/-- What a reader may make of the samples it holds: of each key it keeps some, in
their order. -/
def Keeps
    {Message Key : Type*}
    [DecidableEq Key]
    (keyOf : Message → Key)
    (kept samples : List (Sample Message)) : Prop :=
  ∀ sample ∈ kept,
    (kept.filter fun other => keyOf other.data = keyOf sample.data).Sublist
      (samples.filter fun other => keyOf other.data = keyOf sample.data)

instance
    {Message Key : Type*}
    [DecidableEq Message]
    [DecidableEq Key]
    (keyOf : Message → Key)
    (kept samples : List (Sample Message)) :
    Decidable (Keeps keyOf kept samples) :=
  inferInstanceAs (Decidable (∀ sample ∈ kept, _))

/-- Whether a poll thread has returned. -/
def PollPosition.isEnded {Message : Type*} : PollPosition Message → Bool
  | .ended => true
  | .testing | .polling | .calling _ | .sleeping => false

/-- A `DDSSubscriber` with its thread variable.  The reader holds the samples that
have not been taken. -/
structure PollingSubscriber (Callback Message : Type*) where
  reader : Option (List (Sample Message))
  handler : Option Callback
  running : Bool
  pollThread : ThreadSlot (PollPosition Message)

namespace PollingSubscriber

variable {Callback Message : Type*}

/-- A subscriber that was never used. -/
def new : PollingSubscriber Callback Message where
  reader := none
  handler := none
  running := false
  pollThread := .empty

/-- A poll thread that has not returned may be using the reader and the handler. -/
def inUse (subscriber : PollingSubscriber Callback Message) : Bool :=
  subscriber.pollThread.threads.any fun position => !position.isEnded

/-- A poll thread moves and leaves some samples in the reader. -/
def move
    (subscriber : PollingSubscriber Callback Message)
    (index : ℕ)
    (reader : Option (List (Sample Message)))
    (moved : PollPosition Message) : PollingSubscriber Callback Message :=
  { subscriber with
    reader := reader
    pollThread := subscriber.pollThread.set index moved }

/-- The poll thread has been joined. -/
def joined
    (subscriber : PollingSubscriber Callback Message) :
    PollingSubscriber Callback Message :=
  { subscriber with pollThread := subscriber.pollThread.release }

end PollingSubscriber

/-- The topics of the transport. -/
inductive DdsTopic
  | sensor
  | track
  deriving DecidableEq, Repr

def DdsTopic.ofName (topic : ByteString) : Option DdsTopic :=
  if topic = SENSOR_TOPIC then some .sensor
  else if topic = TRACK_TOPIC then some .track
  else none

/-- Where a call stands that goes through the subscriber of a topic. -/
inductive Stage (Callback : Type*)
  /-- `_reader.emplace` -/
  | createReader (callback : Callback)
  /-- `_handler = std::move(handler)` -/
  | setHandler (callback : Callback)
  /-- `_running.exchange(true)` -/
  | raise
  /-- `_pollThread = std::thread(..)` -/
  | spawn
  /-- `activeTopics.insert` -/
  | insert
  /-- `_running.exchange(false)` -/
  | lower
  /-- `_pollThread.join()` -/
  | join
  /-- `activeTopics.erase` -/
  | erase
  deriving DecidableEq, Repr

/-- The calls of the transport that take its mutex. -/
inductive Operation (Callback : Type*)
  | subscribe (topic : ByteString) (callback : Callback)
  | unsubscribe (topic : ByteString)
  | isSubscribed (topic : ByteString)
  deriving DecidableEq, Repr

/-- Where the thread stands that holds the mutex. -/
inductive Section (Callback : Type*)
  /-- About to look for the topic among the active ones. -/
  | checking (operation : Operation Callback)
  | inside (topic : DdsTopic) (stage : Stage Callback)
  deriving DecidableEq, Repr

/-- `TransportDds::Impl` with the calls in progress: those that wait for the mutex,
and the one that holds it. -/
structure DdsThreads (Callback Message : Type*) where
  waiting : List (Operation Callback)
  lock : Option (Section Callback)
  subscribers : DdsTopic → PollingSubscriber Callback Message
  active : DdsTopic → Bool

namespace DdsThreads

variable {Callback Message Key : Type*}

/-- A call begins, a waiting call takes the mutex, the call with the mutex goes on,
a poll thread goes on, a sample reaches a reader, and a reader keeps some of its
samples. -/
inductive Action (Callback Message : Type*)
  | call (operation : Operation Callback)
  | acquire (index : ℕ)
  | proceed
  | poll (topic : DdsTopic) (index : ℕ)
  | sample (topic : DdsTopic) (sample : Sample Message)
  | keep (topic : DdsTopic) (kept : List (Sample Message))

/-- What the application and the middleware see. -/
inductive Event (Callback Message : Type*)
  | subscribed (topic : DdsTopic) (callback : Callback)
  | unsubscribed (topic : DdsTopic)
  | answered (topic : ByteString) (subscribed : Bool)
  | arrived (topic : DdsTopic) (sample : Sample Message)
  | called (topic : DdsTopic) (callback : Callback) (message : Message)
  | fault
  deriving DecidableEq, Repr

/-- A new transport. -/
def new : DdsThreads Callback Message where
  waiting := []
  lock := none
  subscribers := fun _ => .new
  active := fun _ => false

/-- Change the subscriber of a topic. -/
def update
    (threads : DdsThreads Callback Message)
    (topic : DdsTopic)
    (subscriber : PollingSubscriber Callback Message) : DdsThreads Callback Message :=
  { threads with subscribers := Function.update threads.subscribers topic subscriber }

@[simp] theorem subscribers_update_self
    (threads : DdsThreads Callback Message)
    (topic : DdsTopic)
    (subscriber : PollingSubscriber Callback Message) :
    (threads.update topic subscriber).subscribers topic = subscriber :=
  Function.update_self ..

@[simp] theorem active_update
    (threads : DdsThreads Callback Message)
    (topic : DdsTopic)
    (subscriber : PollingSubscriber Callback Message) :
    (threads.update topic subscriber).active = threads.active :=
  rfl

/-- Return from a call, which releases the mutex. -/
def unlock (threads : DdsThreads Callback Message) : DdsThreads Callback Message :=
  { threads with lock := none }

/-- Go on with the subscriber of a topic. -/
def goOn
    (threads : DdsThreads Callback Message)
    (topic : DdsTopic)
    (stage : Stage Callback) : DdsThreads Callback Message :=
  { threads with lock := some (.inside topic stage) }

/-- `activeTopics.contains(topic)` -/
def contains (threads : DdsThreads Callback Message) (topic : ByteString) : Bool :=
  (DdsTopic.ofName topic).any threads.active

/-- The beginning of a call, under the mutex. -/
def check
    (threads : DdsThreads Callback Message) :
    Operation Callback → DdsThreads Callback Message × List (Event Callback Message)
  | .subscribe topic callback =>
      if threads.contains topic then (threads.unlock, [])
      else
        match DdsTopic.ofName topic with
        | some known => (threads.goOn known (.createReader callback), [])
        | none => (threads.unlock, [])
  | .unsubscribe topic =>
      if threads.contains topic then
        match DdsTopic.ofName topic with
        | some known => (threads.goOn known .lower, [])
        | none => (threads.unlock, [])
      else (threads.unlock, [])
  | .isSubscribed topic =>
      (threads.unlock, [.answered topic (threads.contains topic)])

/-- The next step of a call inside a subscriber. -/
def advance
    (threads : DdsThreads Callback Message)
    (topic : DdsTopic) :
    Stage Callback →
      Except Disabled (DdsThreads Callback Message × List (Event Callback Message))
  | .createReader callback =>
      let subscriber := threads.subscribers topic
      .ok ((threads.update topic { subscriber with reader := some [] }).goOn topic
          (.setHandler callback),
        if subscriber.inUse then [.fault] else [.subscribed topic callback])
  | .setHandler callback =>
      let subscriber := threads.subscribers topic
      .ok ((threads.update topic { subscriber with handler := some callback }).goOn topic
          .raise,
        if subscriber.inUse then [.fault] else [])
  | .raise =>
      let subscriber := threads.subscribers topic
      .ok ((threads.update topic { subscriber with running := true }).goOn topic
        (if subscriber.running then .insert else .spawn), [])
  | .spawn =>
      let subscriber := threads.subscribers topic
      .ok ((threads.update topic { subscriber with
            pollThread := subscriber.pollThread.spawn .testing }).goOn topic .insert,
        if subscriber.pollThread.handle.isSome then [.fault] else [])
  | .insert =>
      .ok ({ threads with active := Function.update threads.active topic true }.unlock,
        [])
  | .lower =>
      let subscriber := threads.subscribers topic
      .ok ((threads.update topic { subscriber with running := false }).goOn topic
        (if subscriber.running then .join else .erase), [])
  | .join =>
      let subscriber := threads.subscribers topic
      match subscriber.pollThread.current with
      | none => .ok (threads.goOn topic .erase, [.unsubscribed topic])
      | some position =>
          guarded (position.isEnded = true)
            ((threads.update topic subscriber.joined).goOn topic .erase)
            [.unsubscribed topic]
  | .erase =>
      .ok ({ threads with active := Function.update threads.active topic false }.unlock,
        [])

/-- The next step of a poll thread: what it leaves in the reader, where it goes, and
what it calls. -/
def pollStep
    (topic : DdsTopic)
    (subscriber : PollingSubscriber Callback Message) :
    PollPosition Message → Except Disabled
      (Option (List (Sample Message)) × PollPosition Message ×
        List (Event Callback Message))
  | .testing =>
      .ok (subscriber.reader, if subscriber.running then .polling else .ended, [])
  | .polling =>
      match subscriber.reader, subscriber.handler with
      | some samples, some _ => .ok (some [], .calling samples, [])
      | _, _ => .ok (subscriber.reader, .sleeping, [])
  | .calling [] => .ok (subscriber.reader, .sleeping, [])
  | .calling (sample :: samples) =>
      .ok (subscriber.reader, .calling samples,
        if sample.valid then
          match subscriber.handler with
          | some callback => [.called topic callback sample.data]
          | none => [.fault]
        else [])
  | .sleeping => .ok (subscriber.reader, .testing, [])
  | .ended => .error .disabled

/-- One step of the threads. -/
def step
    [DecidableEq Message]
    [DecidableEq Key]
    (keyOf : Message → Key)
    (threads : DdsThreads Callback Message) :
    Action Callback Message →
      Except Disabled (DdsThreads Callback Message × List (Event Callback Message))
  | .call operation =>
      .ok ({ threads with waiting := operation :: threads.waiting }, [])
  | .acquire index =>
      match threads.lock, threads.waiting[index]? with
      | none, some operation =>
          .ok ({ threads with
            waiting := threads.waiting.eraseIdx index
            lock := some (.checking operation) }, [])
      | _, _ => .error .disabled
  | .proceed =>
      match threads.lock with
      | none => .error .disabled
      | some (.checking operation) => .ok (threads.check operation)
      | some (.inside topic stage) => threads.advance topic stage
  | .poll topic index =>
      let subscriber := threads.subscribers topic
      match subscriber.pollThread.threads[index]? with
      | none => .error .disabled
      | some position =>
          match pollStep topic subscriber position with
          | .error fault => .error fault
          | .ok (reader, moved, emitted) =>
              .ok (threads.update topic (subscriber.move index reader moved), emitted)
  | .sample topic sample =>
      let subscriber := threads.subscribers topic
      .ok (threads.update topic { subscriber with
        reader := subscriber.reader.map (· ++ [sample]) }, [.arrived topic sample])
  | .keep topic kept =>
      let subscriber := threads.subscribers topic
      match subscriber.reader with
      | none => .error .disabled
      | some samples =>
          guarded (Keeps keyOf kept samples)
            (threads.update topic { subscriber with reader := some kept }) []

end DdsThreads
end Omniscope
end StarterCpp
