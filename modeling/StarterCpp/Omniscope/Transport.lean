import Mathlib.Data.Finset.Basic
import StarterCpp.PubSub.FragmentHeader

/-!
# The transport interface

A transport keeps a set of active topics, which it reports, and handlers in its
middleware, which receive.  The contract says what one has to do with the other:
a message on an active topic reaches the application once, through the callback of the
subscription in force, and a message on any other topic does not reach it.
-/

namespace StarterCpp
namespace Omniscope

open PubSub

/-- One call of the application: its callback, the topic and the JSON text. -/
structure Invocation (Callback : Type*) where
  callback : Callback
  topic : ByteString
  json : ByteString
  deriving DecidableEq, Repr

/-- An implementation of `ITransport` with the state that its methods share, and
what its middleware does with a message that arrives. -/
structure ITransport (State Callback Message : Type*) where
  initial : State
  topicNames : List ByteString
  subscribe : State → ByteString → Callback → State
  unsubscribe : State → ByteString → State
  isSubscribed : State → ByteString → Bool
  receive : State → ByteString → Message → List (Invocation Callback)
  /-- The JSON text of a message on a topic, for one that can be converted. -/
  toJson : ByteString → Message → Option ByteString

/-- The calls of the application and the messages that arrive, each handled to
completion. -/
inductive TransportEvent (Callback Message : Type*)
  | subscribe (topic : ByteString) (callback : Callback)
  | unsubscribe (topic : ByteString)
  | incoming (topic : ByteString) (message : Message)

/-- Where a topic stands after some calls, with the callback of the subscription in
force. -/
inductive Standing (Callback : Type*)
  | never
  | subscribed (callback : Callback)
  | unsubscribed
  deriving DecidableEq, Repr

namespace Standing

variable {Callback Message : Type*}

/-- Subscribing to a subscribed topic changes nothing. -/
def subscribe (standing : Standing Callback) (callback : Callback) : Standing Callback :=
  match standing with
  | .subscribed inForce => .subscribed inForce
  | .never | .unsubscribed => .subscribed callback

def unsubscribe : Standing Callback → Standing Callback
  | .never => .never
  | .subscribed _ | .unsubscribed => .unsubscribed

/-- What one event makes of the standing of a topic. -/
def next
    (topic : ByteString)
    (standing : Standing Callback) :
    TransportEvent Callback Message → Standing Callback
  | .subscribe called callback =>
      if called = topic then standing.subscribe callback else standing
  | .unsubscribe called => if called = topic then standing.unsubscribe else standing
  | .incoming _ _ => standing

/-- The standing of a topic after a list of events. -/
def after
    (topic : ByteString)
    (events : List (TransportEvent Callback Message)) : Standing Callback :=
  events.foldl (next topic) .never

@[simp] theorem after_nil (topic : ByteString) :
    after topic ([] : List (TransportEvent Callback Message)) = .never :=
  rfl

@[simp] theorem after_concat
    (topic : ByteString)
    (events : List (TransportEvent Callback Message))
    (event : TransportEvent Callback Message) :
    after topic (events ++ [event]) = next topic (after topic events) event :=
  List.foldl_concat _ _ _ _

end Standing

namespace ITransport

variable {State Callback Message : Type*}
variable (transport : ITransport State Callback Message)

/-- The state after one event. -/
def next
    (state : State) : TransportEvent Callback Message → State
  | .subscribe topic callback => transport.subscribe state topic callback
  | .unsubscribe topic => transport.unsubscribe state topic
  | .incoming _ _ => state

/-- The state after a list of events. -/
def after (events : List (TransportEvent Callback Message)) : State :=
  events.foldl transport.next transport.initial

@[simp] theorem after_concat
    (events : List (TransportEvent Callback Message))
    (event : TransportEvent Callback Message) :
    transport.after (events ++ [event]) =
      transport.next (transport.after events) event :=
  List.foldl_concat _ _ _ _

/-- Messages that arrive are valid and on the topics of the transport. -/
def Admissible : TransportEvent Callback Message → Prop
  | .subscribe _ _ | .unsubscribe _ => True
  | .incoming topic message =>
      topic ∈ transport.topicNames ∧ (transport.toJson topic message).isSome

/-- Every message in the middle of some events reaches the application once if its
topic is subscribed at that moment, and not at all if it is not. -/
def InvokesOnce
    (events : List (TransportEvent Callback Message)) : Prop :=
  ∀ early topic message late,
    events = early ++ .incoming topic message :: late →
      (transport.receive (transport.after early) topic message).length =
        if transport.isSubscribed (transport.after early) topic then 1 else 0

/-- A message that arrives reaches the application once if its topic is subscribed,
with the topic and the JSON text and through the callback of the subscription in
force, and not at all if it is not. -/
def Honours
    (state : State)
    (standing : Standing Callback)
    (topic : ByteString)
    (message : Message) : Prop :=
  if transport.isSubscribed state topic then
    ∃ callback json, standing = .subscribed callback ∧
      transport.toJson topic message = some json ∧
        transport.receive state topic message = [⟨callback, topic, json⟩]
  else transport.receive state topic message = []

/-- Every message in the middle of some events reaches the application as the standing
of its topic at that moment says. -/
def HonoursSubscriptions
    (events : List (TransportEvent Callback Message)) : Prop :=
  ∀ early topic message late,
    events = early ++ .incoming topic message :: late →
      transport.Honours (transport.after early) (Standing.after topic early) topic
        message

variable {transport : ITransport State Callback Message}

theorem HonoursSubscriptions.invokesOnce
    {events : List (TransportEvent Callback Message)}
    (honours : transport.HonoursSubscriptions events) :
    transport.InvokesOnce events := by
  intro early topic message late split
  have honoured := honours early topic message late split
  rw [Honours] at honoured
  split_ifs at honoured ⊢
  · obtain ⟨callback, json, -, -, received⟩ := honoured
    rw [received]
    rfl
  · rw [honoured]
    rfl

end ITransport

/-- No message arrives on a topic that was subscribed and then unsubscribed. -/
def NothingAfterUnsubscribe
    {Callback Message : Type*}
    (events : List (TransportEvent Callback Message)) : Prop :=
  ∀ early topic message late,
    events = early ++ .incoming topic message :: late →
      Standing.after topic early ≠ .unsubscribed

end Omniscope
end StarterCpp
