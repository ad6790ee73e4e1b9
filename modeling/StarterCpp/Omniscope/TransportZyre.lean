import Mathlib.Data.Finset.Insert
import StarterCpp.Library.Text
import StarterCpp.Omniscope.Transport
import StarterCpp.Omniscope.TransportDds
import StarterCpp.PubSub.Publisher

/-!
# The Zyre transport

One subscriber holds the handlers of all topics, under their namespaced names.
The transport takes a topic out of its set of active topics to unsubscribe it; the
handler stays with the subscriber and does not look at the set.
-/

namespace StarterCpp
namespace Omniscope

open PubSub Text

/-! ## The topic registry -/

/-- `TopicId`, without its sentinel. -/
inductive TopicId
  | SensorReading
  | SensorDataBatch
  | Command
  | CommandResponse
  | ApplicationConfig
  deriving DecidableEq, Repr

def TOPIC_REGISTRY : List (TopicId × ByteString) :=
  [(.SensorReading, ascii "SensorReading"),
    (.SensorDataBatch, ascii "SensorDataBatch"),
    (.Command, ascii "Command"),
    (.CommandResponse, ascii "CommandResponse"),
    (.ApplicationConfig, ascii "ApplicationConfig")]

/-- Look up a topic id by its name. -/
def topicId (name : ByteString) : Option TopicId :=
  (TOPIC_REGISTRY.find? fun entry => entry.2 = name).map Prod.fst

def allTopicNames : List ByteString :=
  TOPIC_REGISTRY.map Prod.snd

/-- Every registered name has an id. -/
theorem exists_topicId
    {name : ByteString}
    (registered : name ∈ allTopicNames) :
    ∃ id, topicId name = some id := by
  obtain ⟨entry, member, rfl⟩ := List.mem_map.mp registered
  have found : (TOPIC_REGISTRY.find? fun other => other.2 = entry.2).isSome := by
    rw [List.find?_isSome]
    exact ⟨entry, member, by simp⟩
  obtain ⟨first, isFirst⟩ := Option.isSome_iff_exists.mp found
  exact ⟨first.1, by rw [topicId, isFirst, Option.map_some]⟩

/-! ## The subscriber -/

/-- The members of a `ZyreSubscriber` whose node is running. -/
structure ZyreSubscriber (Handler : Type*) where
  nodeName : ByteString
  handlers : ByteString → Option Handler
  /-- The groups that the node has joined. -/
  joined : Finset ByteString

namespace ZyreSubscriber

variable {Handler : Type*}

def subscribe
    (subscriber : ZyreSubscriber Handler)
    (topic : ByteString)
    (handler : Handler) : ZyreSubscriber Handler :=
  let namespacedTopic := namespaced subscriber.nodeName topic
  { subscriber with
    handlers := Function.update subscriber.handlers namespacedTopic (some handler)
    joined := insert namespacedTopic subscriber.joined }

/-- The handler that the receive loop calls for a message shouted to a group. -/
def shouted
    (subscriber : ZyreSubscriber Handler)
    (group : ByteString) : Option Handler :=
  if group ∈ subscriber.joined then subscriber.handlers group else none

end ZyreSubscriber

/-! ## The transport -/

/-- What the handler of a subscription has captured. -/
structure ZyreHandler (Callback : Type*) where
  callback : Callback
  id : TopicId
  namePrefix : ByteString

namespace ZyreHandler

variable {Callback : Type*}

/-- Strip the namespace from a topic. -/
def bareTopic
    (handler : ZyreHandler Callback)
    (namespacedTopic : ByteString) : ByteString :=
  if handler.namePrefix.isPrefixOf namespacedTopic then
    namespacedTopic.drop handler.namePrefix.length
  else namespacedTopic

/-- The calls of the application for a message, given `ProtoJsonDispatch::toJson`;
one that cannot be converted is dropped. -/
def call
    (toJson : TopicId → ByteString → Option ByteString)
    (handler : ZyreHandler Callback)
    (namespacedTopic binaryData : ByteString) : List (Invocation Callback) :=
  match toJson handler.id binaryData with
  | some json => [⟨handler.callback, handler.bareTopic namespacedTopic, json⟩]
  | none => []

end ZyreHandler

/-- `TransportZyre::Impl`, without its publisher. -/
structure TransportZyre (Callback : Type*) where
  name : ByteString
  subscriber : ZyreSubscriber (ZyreHandler Callback)
  activeTopics : Finset ByteString

namespace TransportZyre

variable {Callback : Type*}

/-- A transport with no subscription. -/
def new (nodeName : ByteString) : TransportZyre Callback where
  name := nodeName
  subscriber := ⟨nodeName, fun _ => none, ∅⟩
  activeTopics := ∅

def subscribe
    (transport : TransportZyre Callback)
    (topic : ByteString)
    (callback : Callback) : TransportZyre Callback :=
  if topic ∈ transport.activeTopics then transport
  else
    match topicId topic with
    | none => transport
    | some id =>
        { transport with
          subscriber := transport.subscriber.subscribe topic
            ⟨callback, id, transport.name ++ [slash]⟩
          activeTopics := insert topic transport.activeTopics }

def unsubscribe
    (transport : TransportZyre Callback)
    (topic : ByteString) : TransportZyre Callback :=
  if topic ∉ transport.activeTopics then transport
  else
    { transport with activeTopics := transport.activeTopics.erase topic }

def isSubscribed
    (transport : TransportZyre Callback)
    (topic : ByteString) : Bool :=
  topic ∈ transport.activeTopics

/-- The calls of the application for a message on a topic. -/
def receive
    (toJson : TopicId → ByteString → Option ByteString)
    (transport : TransportZyre Callback)
    (topic binaryData : ByteString) : List (Invocation Callback) :=
  let group := namespaced transport.name topic
  match transport.subscriber.shouted group with
  | none => []
  | some handler => handler.call toJson group binaryData

end TransportZyre

/-- The Zyre implementation of the interface. -/
def transportZyre
    {Callback : Type*}
    (nodeName : ByteString)
    (toJson : TopicId → ByteString → Option ByteString) :
    ITransport (TransportZyre Callback) Callback ByteString where
  initial := .new nodeName
  topicNames := allTopicNames
  subscribe := TransportZyre.subscribe
  unsubscribe := TransportZyre.unsubscribe
  isSubscribed := TransportZyre.isSubscribed
  receive := TransportZyre.receive toJson
  toJson := fun topic binaryData =>
    (topicId topic).bind fun id => toJson id binaryData

namespace TransportZyre

variable {Callback : Type*}

theorem namespaced_injective (name : ByteString) :
    Function.Injective (namespaced name) := by
  intro first second same
  exact (List.cons.inj (List.append_cancel_left same)).2

/-- The topic that a handler passes on is the one without the namespace. -/
theorem bareTopic_namespaced
    (name topic : ByteString)
    (callback : Callback)
    (id : TopicId) :
    (ZyreHandler.mk callback id (name ++ [slash])).bareTopic (namespaced name topic) =
      topic := by
  have split : namespaced name topic = (name ++ [slash]) ++ topic := by
    simp [namespaced]
  have isPrefix : (name ++ [slash]).isPrefixOf ((name ++ [slash]) ++ topic) = true := by
    rw [List.isPrefixOf_iff_prefix]
    exact List.prefix_append _ _
  simp only [ZyreHandler.bareTopic, split, isPrefix, if_true, List.drop_left]

/-- The subscriber calls a callback for a message on a topic. -/
def Handled
    (transport : TransportZyre Callback)
    (topic : ByteString)
    (id : TopicId)
    (callback : Callback) : Prop :=
  transport.subscriber.shouted (namespaced transport.name topic) =
    some ⟨callback, id, transport.name ++ [slash]⟩

/-- What the standing of a topic says about the transport. -/
def Stands
    (transport : TransportZyre Callback)
    (topic : ByteString)
    (id : TopicId) : Standing Callback → Prop
  | .never =>
      transport.subscriber.shouted (namespaced transport.name topic) = none ∧
        topic ∉ transport.activeTopics
  | .subscribed callback =>
      transport.Handled topic id callback ∧ topic ∈ transport.activeTopics
  | .unsubscribed =>
      (∃ callback, transport.Handled topic id callback) ∧
        topic ∉ transport.activeTopics

/-- The standing of a topic is about its handler and its activity alone. -/
theorem Stands.congr
    {transport other : TransportZyre Callback}
    {topic : ByteString}
    {id : TopicId}
    {standing : Standing Callback}
    (stands : transport.Stands topic id standing)
    (sameName : other.name = transport.name)
    (sameHandler :
      other.subscriber.shouted (namespaced other.name topic) =
        transport.subscriber.shouted (namespaced transport.name topic))
    (sameActive : topic ∈ other.activeTopics ↔ topic ∈ transport.activeTopics) :
    other.Stands topic id standing := by
  rw [sameName] at sameHandler
  cases standing with
  | never => simpa [Stands, sameName, sameHandler, sameActive] using stands
  | subscribed | unsubscribed =>
      simpa [Stands, Handled, sameName, sameHandler, sameActive] using stands

/-- A transport after some events. -/
structure Tracks
    (nodeName : ByteString)
    (events : List (TransportEvent Callback ByteString))
    (transport : TransportZyre Callback) : Prop where
  name : transport.name = nodeName
  node : transport.subscriber.nodeName = nodeName
  stands : ∀ topic id, topicId topic = some id →
    transport.Stands topic id (Standing.after topic events)

namespace Tracks

variable {nodeName : ByteString}
variable {events : List (TransportEvent Callback ByteString)}
variable {transport : TransportZyre Callback}

theorem new : Tracks nodeName [] (new nodeName : TransportZyre Callback) where
  name := rfl
  node := rfl
  stands := by
    intro topic id _
    simp [Stands, TransportZyre.new, ZyreSubscriber.shouted]

/-- Subscribing to an active topic changes nothing. -/
theorem subscribe_of_active
    (tracks : Tracks nodeName events transport)
    {topic : ByteString}
    {id : TopicId}
    (known : topicId topic = some id)
    (active : topic ∈ transport.activeTopics)
    (callback : Callback) :
    (Standing.after topic events).subscribe callback = Standing.after topic events := by
  have stands := tracks.stands topic id known
  cases standing : Standing.after topic events with
  | subscribed inForce => rfl
  | never | unsubscribed =>
      rw [standing] at stands
      exact absurd active stands.2

/-- Subscribing to an inactive topic puts the callback in force. -/
theorem subscribe_of_inactive
    (tracks : Tracks nodeName events transport)
    {topic : ByteString}
    {id : TopicId}
    (known : topicId topic = some id)
    (inactive : topic ∉ transport.activeTopics)
    (callback : Callback) :
    (Standing.after topic events).subscribe callback = .subscribed callback := by
  have stands := tracks.stands topic id known
  cases standing : Standing.after topic events with
  | subscribed inForce =>
      rw [standing] at stands
      exact absurd stands.2 inactive
  | never | unsubscribed => rfl

theorem subscribe
    (tracks : Tracks nodeName events transport)
    (topic : ByteString)
    (callback : Callback) :
    Tracks nodeName (events ++ [.subscribe topic callback])
      (transport.subscribe topic callback) := by
  unfold TransportZyre.subscribe
  split_ifs with active
  · refine ⟨tracks.name, tracks.node, fun other id known => ?_⟩
    rw [Standing.after_concat, Standing.next]
    split_ifs with own
    · subst own
      rw [tracks.subscribe_of_active known active]
      exact tracks.stands topic id known
    · exact tracks.stands other id known
  · cases registered : topicId topic with
    | none =>
        refine ⟨tracks.name, tracks.node, fun other id known => ?_⟩
        have different : topic ≠ other := by
          rintro rfl
          rw [registered] at known
          simp at known
        rw [Standing.after_concat, Standing.next, if_neg different]
        exact tracks.stands other id known
    | some topicNumber =>
        refine ⟨tracks.name, tracks.node, fun other id known => ?_⟩
        rw [Standing.after_concat, Standing.next]
        split_ifs with own
        · subst own
          rw [tracks.subscribe_of_inactive known active]
          rw [registered, Option.some.injEq] at known
          subst known
          refine ⟨?_, Finset.mem_insert_self _ _⟩
          simp [Handled, ZyreSubscriber.shouted, ZyreSubscriber.subscribe, tracks.name,
            tracks.node]
        · refine (tracks.stands other id known).congr rfl ?_ ?_
          · have differentGroup : namespaced nodeName other ≠
                namespaced nodeName topic := by
              intro same
              exact own (namespaced_injective nodeName same).symm
            simp [ZyreSubscriber.shouted, ZyreSubscriber.subscribe, tracks.name,
              tracks.node, differentGroup]
          · simp [Ne.symm own]

theorem unsubscribe
    (tracks : Tracks nodeName events transport)
    (topic : ByteString) :
    Tracks nodeName (events ++ [.unsubscribe topic])
      (transport.unsubscribe topic) := by
  unfold TransportZyre.unsubscribe
  split_ifs with active
  · refine ⟨tracks.name, tracks.node, fun other id known => ?_⟩
    rw [Standing.after_concat, Standing.next]
    have stands := tracks.stands other id known
    split_ifs with own
    · subst own
      cases standing : Standing.after topic events with
      | subscribed callback =>
          rw [standing] at stands
          exact ⟨⟨callback, stands.1⟩, Finset.notMem_erase topic _⟩
      | never | unsubscribed =>
          rw [standing] at stands
          exact absurd active stands.2
    · exact stands.congr rfl rfl (by simp [Ne.symm own])
  · refine ⟨tracks.name, tracks.node, fun other id known => ?_⟩
    rw [Standing.after_concat, Standing.next]
    have stands := tracks.stands other id known
    split_ifs with own
    · subst own
      cases standing : Standing.after topic events with
      | subscribed callback =>
          rw [standing] at stands
          exact absurd stands.2 active
      | never | unsubscribed => rwa [standing] at stands
    · exact stands

theorem incoming
    (tracks : Tracks nodeName events transport)
    (topic binaryData : ByteString) :
    Tracks nodeName (events ++ [.incoming topic binaryData]) transport where
  name := tracks.name
  node := tracks.node
  stands := by
    intro other id known
    rw [Standing.after_concat]
    exact tracks.stands other id known

end Tracks

theorem tracks_after
    (nodeName : ByteString)
    (toJson : TopicId → ByteString → Option ByteString)
    (events : List (TransportEvent Callback ByteString)) :
    Tracks nodeName events ((transportZyre nodeName toJson).after events) := by
  induction events using List.reverseRecOn with
  | nil => exact .new
  | append_singleton events event inductionHypothesis =>
      rw [ITransport.after_concat]
      cases event with
      | subscribe topic callback =>
          exact inductionHypothesis.subscribe topic callback
      | unsubscribe topic => exact inductionHypothesis.unsubscribe topic
      | incoming topic binaryData =>
          exact inductionHypothesis.incoming topic binaryData

/-- A handled topic passes a message that can be converted on once. -/
theorem Handled.receive_eq
    {transport : TransportZyre Callback}
    {topic : ByteString}
    {id : TopicId}
    {callback : Callback}
    (handled : transport.Handled topic id callback)
    {toJson : TopicId → ByteString → Option ByteString}
    {binaryData json : ByteString}
    (converted : toJson id binaryData = some json) :
    transport.receive toJson topic binaryData = [⟨callback, topic, json⟩] := by
  rw [Handled] at handled
  simp only [receive, handled, ZyreHandler.call, converted, bareTopic_namespaced]

section Delivery

variable {nodeName : ByteString}
variable {events : List (TransportEvent Callback ByteString)}
variable {transport : TransportZyre Callback}
variable {topic binaryData : ByteString}
variable {toJson : TopicId → ByteString → Option ByteString}

/-- A valid message on a registered topic reaches the application as often as it
should, unless the topic was subscribed and then unsubscribed. -/
theorem Tracks.length_receive_iff
    (tracks : Tracks nodeName events transport)
    {id : TopicId}
    (known : topicId topic = some id)
    {json : ByteString}
    (converted : toJson id binaryData = some json) :
    ((transport.receive toJson topic binaryData).length =
        if transport.isSubscribed topic then 1 else 0) ↔
      Standing.after topic events ≠ .unsubscribed := by
  have stands := tracks.stands topic id known
  cases standing : Standing.after topic events with
  | never =>
      rw [standing] at stands
      simp [receive, isSubscribed, stands.1, stands.2]
  | subscribed callback =>
      rw [standing] at stands
      simp [isSubscribed, stands.1.receive_eq converted, stands.2]
  | unsubscribed =>
      rw [standing] at stands
      obtain ⟨⟨callback, handled⟩, inactive⟩ := stands
      simp [isSubscribed, handled.receive_eq converted, inactive]

/-- A valid message on a registered topic reaches the application as it should, unless
the topic was subscribed and then unsubscribed. -/
theorem Tracks.honours
    (tracks : Tracks nodeName events transport)
    {id : TopicId}
    (known : topicId topic = some id)
    {json : ByteString}
    (converted : toJson id binaryData = some json)
    (inForce : Standing.after topic events ≠ .unsubscribed) :
    (transportZyre nodeName toJson).Honours transport (Standing.after topic events)
      topic binaryData := by
  have stands := tracks.stands topic id known
  cases standing : Standing.after topic events with
  | never =>
      rw [standing] at stands
      simp [ITransport.Honours, transportZyre, receive, isSubscribed, stands.1, stands.2]
  | subscribed callback =>
      rw [standing] at stands
      simp [ITransport.Honours, transportZyre, isSubscribed, known, converted,
        stands.1.receive_eq converted, stands.2]
  | unsubscribed => exact absurd standing inForce

/-- What an admissible message is: its topic has an id, and it can be converted. -/
theorem exists_converted
    (admissible : (transportZyre nodeName toJson : ITransport (TransportZyre Callback) _
      _).Admissible (.incoming topic binaryData)) :
    ∃ id json, topicId topic = some id ∧ toJson id binaryData = some json := by
  obtain ⟨registered, valid⟩ := admissible
  obtain ⟨id, known⟩ := exists_topicId registered
  obtain ⟨json, converts⟩ := Option.isSome_iff_exists.mp valid
  exact ⟨id, json, known, by simpa [transportZyre, known] using converts⟩

/-- The Zyre transport calls the application as often as it should exactly in the
histories in which no message arrives on a topic that was subscribed and then
unsubscribed. -/
theorem invokesOnce_iff
    (admissible : ∀ event ∈ events,
      (transportZyre nodeName toJson).Admissible event) :
    (transportZyre nodeName toJson).InvokesOnce events ↔
      NothingAfterUnsubscribe events := by
  constructor
  · rintro once early topic binaryData late rfl
    obtain ⟨id, json, known, converted⟩ :=
      exists_converted (admissible (.incoming topic binaryData) (by simp))
    have tracks := tracks_after nodeName toJson early
    apply (tracks.length_receive_iff known converted).mp
    exact once early topic binaryData late rfl
  · rintro nothing early topic binaryData late rfl
    obtain ⟨id, json, known, converted⟩ :=
      exists_converted (admissible (.incoming topic binaryData) (by simp))
    have tracks := tracks_after nodeName toJson early
    apply (tracks.length_receive_iff known converted).mpr
    exact nothing early topic binaryData late rfl

/-- The Zyre transport honours its subscriptions exactly in these histories. -/
theorem honoursSubscriptions_iff
    (admissible : ∀ event ∈ events,
      (transportZyre nodeName toJson).Admissible event) :
    (transportZyre nodeName toJson).HonoursSubscriptions events ↔
      NothingAfterUnsubscribe events := by
  constructor
  · intro honours
    exact (invokesOnce_iff admissible).mp honours.invokesOnce
  · rintro nothing early topic binaryData late rfl
    obtain ⟨id, json, known, converted⟩ :=
      exists_converted (admissible (.incoming topic binaryData) (by simp))
    have tracks := tracks_after nodeName toJson early
    exact tracks.honours known converted (nothing early topic binaryData late rfl)

end Delivery

end TransportZyre

/-- Every history of the DDS transport honours its subscriptions; a history of the
Zyre transport does, and calls the application as often as it should, exactly if no
message arrives on a topic that was subscribed and then unsubscribed. -/
theorem transports_honour_subscriptions_iff
    {Callback DdsMessage : Type*}
    (nodeName : ByteString)
    (ddsToJson : ByteString → DdsMessage → ByteString)
    (toJson : TopicId → ByteString → Option ByteString)
    {ddsEvents : List (TransportEvent Callback DdsMessage)}
    (ddsAdmissible : ∀ event ∈ ddsEvents,
      (transportDds ddsToJson).Admissible event)
    {zyreEvents : List (TransportEvent Callback ByteString)}
    (zyreAdmissible : ∀ event ∈ zyreEvents,
      (transportZyre nodeName toJson).Admissible event) :
    (transportDds ddsToJson).HonoursSubscriptions ddsEvents ∧
      ((transportZyre nodeName toJson).HonoursSubscriptions zyreEvents ↔
        NothingAfterUnsubscribe zyreEvents) ∧
      ((transportZyre nodeName toJson).InvokesOnce zyreEvents ↔
        NothingAfterUnsubscribe zyreEvents) :=
  ⟨TransportDds.honoursSubscriptions ddsToJson ddsAdmissible,
    TransportZyre.honoursSubscriptions_iff zyreAdmissible,
    TransportZyre.invokesOnce_iff zyreAdmissible⟩

/-- A message on a subscribed topic, after which the subscription is given up. -/
def commandSession : List (TransportEvent Unit ByteString) :=
  [.subscribe (ascii "Command") (), .incoming (ascii "Command") [],
    .unsubscribe (ascii "Command")]

/-- A subscription that is given up before the last message, and on the other
transport after it. -/
theorem transports_honour_subscriptions_iff_one_subscription :
    (transportDds fun _ (json : ByteString) => json).HonoursSubscriptions
        [.subscribe SENSOR_TOPIC (), .incoming SENSOR_TOPIC [],
          .unsubscribe SENSOR_TOPIC, .incoming SENSOR_TOPIC []] ∧
      ((transportZyre (ascii "Omniscope") fun _ json =>
          some json).HonoursSubscriptions commandSession ↔
        NothingAfterUnsubscribe commandSession) ∧
      ((transportZyre (ascii "Omniscope") fun _ json =>
          some json).InvokesOnce commandSession ↔
        NothingAfterUnsubscribe commandSession) := by
  apply transports_honour_subscriptions_iff
  · simp [ITransport.Admissible, transportDds]
  · have registered : ascii "Command" ∈ allTopicNames := by decide
    have known : topicId (ascii "Command") = some .Command := by decide
    simp [commandSession, ITransport.Admissible, transportZyre, registered, known]

/-- A message arrives on a topic that was unsubscribed. -/
theorem zyre_receives_after_unsubscribe :
    ¬(transportZyre (ascii "Omniscope") fun _ json => some json).InvokesOnce
      [.subscribe (ascii "Command") (), .unsubscribe (ascii "Command"),
        .incoming (ascii "Command") []] := by
  intro once
  have silent := once [.subscribe (ascii "Command") (),
    .unsubscribe (ascii "Command")] (ascii "Command") [] [] rfl
  exact absurd silent (by decide)

end Omniscope
end StarterCpp
