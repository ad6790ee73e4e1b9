import StarterCpp.PubSub.Publisher
import StarterCpp.Library.Run
import Mathlib.Data.Finset.Card
import Mathlib.Logic.Function.Basic

/-!
# `HighBandwidthSubscriber`

The subscriber keeps one partial message per message id.  A datagram creates or
extends the entry of its id; the entry is erased when its message completes,
when a fragment disagrees with it, or when a cleanup finds it stale.  Writing a
fragment past the end of `PartialMessage::fragments` is reported as a fault.
Times are readings of the steady clock in nanoseconds.
-/

namespace StarterCpp
namespace PubSub

/-- `PartialMessage`: the fragments of one message received so far. -/
structure PartialMessage where
  topic : ByteString
  fragments : List ByteString
  receivedFragments : Finset ℕ
  totalFragments : ℕ
  firstFragmentTime : Int
  deriving DecidableEq

/-- The value that `_partialMessages[messageId]` inserts for a new id. -/
def PartialMessage.initial : PartialMessage where
  topic := []
  fragments := []
  receivedFragments := ∅
  totalFragments := 0
  firstFragmentTime := 0

/-- `_partialMessages`: the entry of each message id. -/
abbrev ReassemblyBuffer := UInt32 → Option PartialMessage

/-- The arguments of one call of `deliverMessage`. -/
structure Delivery where
  topic : ByteString
  payload : ByteString
  deriving DecidableEq, Repr

/-- `duration_cast<milliseconds>(now - earlier).count()`. -/
def elapsedMs (now earlier : Int) : Int := (now - earlier).tdiv 1000000

namespace ReassemblyBuffer

/-- The buffer of a subscriber that has received nothing. -/
def empty : ReassemblyBuffer := fun _ => none

/-- `cleanupStaleMessages`: drop every entry older than the timeout. -/
def cleanupStaleMessages
    (reassemblyTimeoutMs : Int)
    (partialMessages : ReassemblyBuffer)
    (now : Int) : ReassemblyBuffer := fun messageId =>
  match partialMessages messageId with
  | none => none
  | some entry =>
      if reassemblyTimeoutMs < elapsedMs now entry.firstFragmentTime then none
      else some entry

/-- The start of `processFragment`: the entry of the message id, set up for its
first fragment when it is new. -/
def getOrCreate
    (partialMessages : ReassemblyBuffer)
    (messageId : UInt32)
    (totalFrags : ℕ)
    (now : Int) : PartialMessage :=
  let found := (partialMessages messageId).getD PartialMessage.initial
  if found.fragments = [] then
    { found with
      totalFragments := totalFrags
      fragments := List.replicate totalFrags []
      firstFragmentTime := now }
  else found

/-- The end of `processFragment`: store a fragment, and deliver the message when
it was the last one. -/
def storeFragment
    (partialMessages : ReassemblyBuffer)
    (messageId : UInt32)
    (entry : PartialMessage)
    (fragNum totalFrags : ℕ)
    (content : ByteString) :
    Except MemoryFault (ReassemblyBuffer × List Delivery) :=
  if fragNum < entry.fragments.length then
    let stored := { entry with
      fragments := entry.fragments.set fragNum content
      receivedFragments := insert fragNum entry.receivedFragments }
    if stored.receivedFragments.card = totalFrags then
      .ok (Function.update partialMessages messageId none,
        [⟨stored.topic, stored.fragments.flatten⟩])
    else .ok (Function.update partialMessages messageId (some stored), [])
  else .error .outOfRange

/-- `processFragment`: the buffer afterwards and the calls of `deliverMessage`. -/
def processFragment
    (partialMessages : ReassemblyBuffer)
    (data : ByteString)
    (now : Int) :
    Except MemoryFault (ReassemblyBuffer × List Delivery) :=
  if data.length < FragmentHeader.size then .ok (partialMessages, [])
  else
    let header := FragmentHeader.ofBytes data
    let payload := data.drop FragmentHeader.size
    let messageId := header.messageId
    let fragNum := header.fragmentNum.toNat
    let totalFrags := header.totalFragments.toNat
    let topicLen := header.topicLen.toNat
    let entry := partialMessages.getOrCreate messageId totalFrags now
    if entry.totalFragments ≠ totalFrags then
      .ok (Function.update partialMessages messageId none, [])
    else if fragNum ∈ entry.receivedFragments then
      .ok (Function.update partialMessages messageId (some entry), [])
    else if fragNum = 0 then
      if payload.length < topicLen then
        .ok (Function.update partialMessages messageId none, [])
      else
        storeFragment partialMessages messageId
          { entry with topic := payload.take topicLen } 0 totalFrags
          (payload.drop topicLen)
    else storeFragment partialMessages messageId entry fragNum totalFrags payload

end ReassemblyBuffer

/-- What can happen to the reassembly buffer. -/
inductive BufferEvent
  | datagram (data : ByteString) (now : Int)
  | cleanup (now : Int)
  deriving DecidableEq, Repr

/-- One event at the reassembly buffer. -/
def ReassemblyBuffer.step (reassemblyTimeoutMs : Int)
    (partialMessages : ReassemblyBuffer) :
    BufferEvent → Except MemoryFault (ReassemblyBuffer × List Delivery)
  | .datagram data now => partialMessages.processFragment data now
  | .cleanup now =>
      .ok (partialMessages.cleanupStaleMessages reassemblyTimeoutMs now, [])

/-- A `std::function`, which may be empty. -/
abbrev MessageHandler (Handler : Type*) := Option Handler

/-- The state of a `HighBandwidthSubscriber` that message delivery reads. -/
structure Subscriber (Handler : Type*) where
  name : ByteString
  reassemblyTimeoutMs : Int
  handlers : ByteString → Option (MessageHandler Handler)
  partialMessages : ReassemblyBuffer

/-- A call of a subscribed handler with its arguments. -/
structure Invocation (Handler : Type*) where
  handler : Handler
  message : Delivery
  deriving DecidableEq, Repr

namespace Subscriber

variable {Handler : Type*}

/-- The constructor. -/
def create (name : ByteString) (reassemblyTimeoutMs : Int) :
    Subscriber Handler where
  name := name
  reassemblyTimeoutMs := reassemblyTimeoutMs
  handlers := fun _ => none
  partialMessages := ReassemblyBuffer.empty

/-- `subscribe`: register a handler under the namespaced topic. -/
def subscribe
    (self : Subscriber Handler)
    (topic : ByteString)
    (handler : MessageHandler Handler) : Subscriber Handler :=
  { self with
    handlers := Function.update self.handlers (namespaced self.name topic)
      (some handler) }

/-- Several subscriptions, in order. -/
def subscribeAll
    (self : Subscriber Handler)
    (subscriptions : List (ByteString × MessageHandler Handler)) :
    Subscriber Handler :=
  subscriptions.foldl
    (fun subscriber subscription =>
      subscriber.subscribe subscription.1 subscription.2) self

/-- `deliverMessage`: call the handler of the topic if there is one. -/
def deliverMessage (self : Subscriber Handler) (message : Delivery) :
    List (Invocation Handler) :=
  match self.handlers message.topic with
  | none => []
  | some none => []
  | some (some handler) => [⟨handler, message⟩]

/-- One event at the subscriber, with the handler calls it leads to. -/
def step (self : Subscriber Handler) (event : BufferEvent) :
    Except MemoryFault (Subscriber Handler × List (Invocation Handler)) :=
  match self.partialMessages.step self.reassemblyTimeoutMs event with
  | .error fault => .error fault
  | .ok (partialMessages, deliveries) =>
      .ok ({ self with partialMessages := partialMessages },
        deliveries.flatMap self.deliverMessage)

end Subscriber
end PubSub
end StarterCpp
