import Mathlib.Data.Finset.Insert
import StarterCpp.Library.Text
import StarterCpp.Omniscope.Transport

/-!
# The DDS transport

Each of the two topics has its own subscriber, which polls a reader while it is
running.  Subscribing sets the handler and starts the subscriber, unsubscribing
stops it.
-/

namespace StarterCpp
namespace Omniscope

open PubSub Text

/-! ## The subscriber -/

/-- A `DDSSubscriber`: its handler and whether its poll thread runs.  The thread
calls the handler once for each valid sample. -/
structure DDSSubscriber (Handler : Type*) where
  handler : Option Handler
  running : Bool

namespace DDSSubscriber

variable {Handler : Type*}

def subscribe
    (subscriber : DDSSubscriber Handler)
    (handler : Handler) : DDSSubscriber Handler :=
  { subscriber with handler := some handler }

def start (subscriber : DDSSubscriber Handler) : DDSSubscriber Handler :=
  { subscriber with running := true }

def stop (subscriber : DDSSubscriber Handler) : DDSSubscriber Handler :=
  { subscriber with running := false }

/-- The handlers that one sample is passed to. -/
def poll (subscriber : DDSSubscriber Handler) : List Handler :=
  if subscriber.running then subscriber.handler.toList else []

end DDSSubscriber

/-! ## The transport -/

def SENSOR_TOPIC : ByteString := ascii "SensorTopic"

def TRACK_TOPIC : ByteString := ascii "TrackTopic"

theorem sensorTopic_ne_trackTopic : SENSOR_TOPIC ≠ TRACK_TOPIC := by
  decide

/-- `TransportDds::Impl`; a handler is the callback it has captured. -/
structure TransportDds (Callback : Type*) where
  sensorSub : DDSSubscriber Callback
  trackSub : DDSSubscriber Callback
  activeTopics : Finset ByteString

namespace TransportDds

variable {Callback Message : Type*}

/-- A transport with no subscription. -/
def new : TransportDds Callback where
  sensorSub := ⟨none, false⟩
  trackSub := ⟨none, false⟩
  activeTopics := ∅

def subscribe
    (transport : TransportDds Callback)
    (topic : ByteString)
    (callback : Callback) : TransportDds Callback :=
  if topic ∈ transport.activeTopics then transport
  else if topic = SENSOR_TOPIC then
    { transport with
      sensorSub := (transport.sensorSub.subscribe callback).start
      activeTopics := insert topic transport.activeTopics }
  else if topic = TRACK_TOPIC then
    { transport with
      trackSub := (transport.trackSub.subscribe callback).start
      activeTopics := insert topic transport.activeTopics }
  else transport

def unsubscribe
    (transport : TransportDds Callback)
    (topic : ByteString) : TransportDds Callback :=
  if topic ∉ transport.activeTopics then transport
  else if topic = SENSOR_TOPIC then
    { transport with
      sensorSub := transport.sensorSub.stop
      activeTopics := transport.activeTopics.erase topic }
  else if topic = TRACK_TOPIC then
    { transport with
      trackSub := transport.trackSub.stop
      activeTopics := transport.activeTopics.erase topic }
  else transport

def isSubscribed
    (transport : TransportDds Callback)
    (topic : ByteString) : Bool :=
  topic ∈ transport.activeTopics

/-- The calls of the application for a sample on a topic, given its JSON text:
`DdsJsonHelpers::toJson` of the sample. -/
def receive
    (toJson : ByteString → Message → ByteString)
    (transport : TransportDds Callback)
    (topic : ByteString)
    (message : Message) : List (Invocation Callback) :=
  let handlers :=
    if topic = SENSOR_TOPIC then transport.sensorSub.poll
    else if topic = TRACK_TOPIC then transport.trackSub.poll
    else []
  handlers.map fun callback => ⟨callback, topic, toJson topic message⟩

end TransportDds

/-- The DDS implementation of the interface. -/
def transportDds
    {Callback Message : Type*}
    (toJson : ByteString → Message → ByteString) :
    ITransport (TransportDds Callback) Callback Message where
  initial := .new
  topicNames := [SENSOR_TOPIC, TRACK_TOPIC]
  subscribe := TransportDds.subscribe
  unsubscribe := TransportDds.unsubscribe
  isSubscribed := TransportDds.isSubscribed
  receive := TransportDds.receive toJson
  toJson := fun topic message => some (toJson topic message)

namespace TransportDds

variable {Callback Message : Type*}

/-- What the standing of a topic says about its subscriber and its activity. -/
def Stands
    (subscriber : DDSSubscriber Callback)
    (active : Bool) : Standing Callback → Prop
  | .never | .unsubscribed => subscriber.running = false ∧ active = false
  | .subscribed callback =>
      subscriber.running = true ∧ subscriber.handler = some callback ∧ active = true

/-- A transport after some events. -/
structure Tracks
    (events : List (TransportEvent Callback Message))
    (transport : TransportDds Callback) : Prop where
  sensor : Stands transport.sensorSub (transport.isSubscribed SENSOR_TOPIC)
    (Standing.after SENSOR_TOPIC events)
  track : Stands transport.trackSub (transport.isSubscribed TRACK_TOPIC)
    (Standing.after TRACK_TOPIC events)

namespace Stands

variable {subscriber : DDSSubscriber Callback}
variable {active : Bool}
variable {topic called : ByteString}
variable {standing : Standing Callback}
variable {events : List (TransportEvent Callback Message)}

/-- Subscribing to an active topic, or to another one, changes nothing. -/
theorem subscribe_ignored
    (stands : Stands subscriber active (Standing.after topic events))
    (ignored : called = topic → active = true)
    (callback : Callback) :
    Stands subscriber active
      (Standing.after topic (events ++ [.subscribe called callback])) := by
  rw [Standing.after_concat, Standing.next]
  split_ifs with own
  · obtain rfl := ignored own
    cases standing : Standing.after topic events with
    | never | unsubscribed =>
        rw [standing] at stands
        cases stands.2
    | subscribed inForce => rwa [standing] at stands
  · exact stands

/-- Unsubscribing from an inactive topic, or from another one, changes nothing. -/
theorem unsubscribe_ignored
    (stands : Stands subscriber active (Standing.after topic events))
    (ignored : called = topic → active = false) :
    Stands subscriber active
      (Standing.after topic (events ++ [.unsubscribe called])) := by
  rw [Standing.after_concat, Standing.next]
  split_ifs with own
  · obtain rfl := ignored own
    cases standing : Standing.after topic events with
    | never | unsubscribed => rwa [standing] at stands
    | subscribed inForce =>
        rw [standing] at stands
        cases stands.2.2
  · exact stands

/-- Subscribing to an inactive topic sets the handler and starts the subscriber. -/
theorem start
    (stands : Stands subscriber false (Standing.after topic events))
    (callback : Callback) :
    Stands (subscriber.subscribe callback).start true
      (Standing.after topic (events ++ [.subscribe topic callback])) := by
  rw [Standing.after_concat, Standing.next, if_pos rfl]
  cases standing : Standing.after topic events with
  | never | unsubscribed => exact ⟨rfl, rfl, rfl⟩
  | subscribed inForce =>
      rw [standing] at stands
      cases stands.2.2

/-- Unsubscribing from an active topic stops the subscriber. -/
theorem stop
    (stands : Stands subscriber true (Standing.after topic events)) :
    Stands subscriber.stop false
      (Standing.after topic (events ++ [.unsubscribe topic])) := by
  rw [Standing.after_concat, Standing.next, if_pos rfl]
  cases standing : Standing.after topic events with
  | never | unsubscribed =>
      rw [standing] at stands
      cases stands.2
  | subscribed inForce => exact ⟨rfl, rfl⟩

/-- A running subscriber has the handler of the subscription in force. -/
theorem poll_eq
    (stands : Stands subscriber active standing) :
    if active then ∃ callback, standing = .subscribed callback ∧
      subscriber.poll = [callback]
    else subscriber.poll = [] := by
  cases standing with
  | never | unsubscribed => simp [DDSSubscriber.poll, stands.1, stands.2]
  | subscribed callback =>
      simp [DDSSubscriber.poll, stands.1, stands.2.1, stands.2.2]

end Stands

namespace Tracks

variable {events : List (TransportEvent Callback Message)}
variable {transport : TransportDds Callback}

theorem new :
    Tracks ([] : List (TransportEvent Callback Message)) (new : TransportDds Callback) := by
  constructor
  all_goals exact ⟨rfl, by simp [isSubscribed, TransportDds.new]⟩

theorem subscribe
    (tracks : Tracks events transport)
    (topic : ByteString)
    (callback : Callback) :
    Tracks (events ++ [.subscribe topic callback])
      (transport.subscribe topic callback) := by
  have different := sensorTopic_ne_trackTopic
  obtain ⟨sensor, track⟩ := tracks
  unfold TransportDds.subscribe
  split_ifs with active isSensor isTrack
  · constructor
    · apply sensor.subscribe_ignored
      rintro rfl
      simpa [isSubscribed] using active
    · apply track.subscribe_ignored
      rintro rfl
      simpa [isSubscribed] using active
  · subst isSensor
    have inactive : transport.isSubscribed SENSOR_TOPIC = false := by
      simpa [isSubscribed] using active
    rw [inactive] at sensor
    constructor
    · simpa [isSubscribed] using sensor.start callback
    · have kept := track.subscribe_ignored (fun same => absurd same different) callback
      simpa [isSubscribed, different.symm] using kept
  · subst isTrack
    have inactive : transport.isSubscribed TRACK_TOPIC = false := by
      simpa [isSubscribed] using active
    rw [inactive] at track
    constructor
    · have kept := sensor.subscribe_ignored (fun same => absurd same isSensor) callback
      simpa [isSubscribed, different] using kept
    · simpa [isSubscribed] using track.start callback
  · constructor
    · exact sensor.subscribe_ignored (fun same => absurd same isSensor) callback
    · exact track.subscribe_ignored (fun same => absurd same isTrack) callback

theorem unsubscribe
    (tracks : Tracks events transport)
    (topic : ByteString) :
    Tracks (events ++ [.unsubscribe topic]) (transport.unsubscribe topic) := by
  have different := sensorTopic_ne_trackTopic
  obtain ⟨sensor, track⟩ := tracks
  unfold TransportDds.unsubscribe
  split_ifs with active isSensor isTrack
  · subst isSensor
    have isActive : transport.isSubscribed SENSOR_TOPIC = true := by
      simpa [isSubscribed] using active
    rw [isActive] at sensor
    constructor
    · simpa [isSubscribed] using sensor.stop
    · have kept := track.unsubscribe_ignored (fun same => absurd same different)
      simpa [isSubscribed, different.symm] using kept
  · subst isTrack
    have isActive : transport.isSubscribed TRACK_TOPIC = true := by
      simpa [isSubscribed] using active
    rw [isActive] at track
    constructor
    · have kept := sensor.unsubscribe_ignored (fun same => absurd same isSensor)
      simpa [isSubscribed, different] using kept
    · simpa [isSubscribed] using track.stop
  · constructor
    · exact sensor.unsubscribe_ignored (fun same => absurd same isSensor)
    · exact track.unsubscribe_ignored (fun same => absurd same isTrack)
  · constructor
    · apply sensor.unsubscribe_ignored
      rintro rfl
      simpa [isSubscribed] using active
    · apply track.unsubscribe_ignored
      rintro rfl
      simpa [isSubscribed] using active

theorem incoming
    (tracks : Tracks events transport)
    (topic : ByteString)
    (message : Message) :
    Tracks (events ++ [.incoming topic message]) transport where
  sensor := by simpa [Standing.next] using tracks.sensor
  track := by simpa [Standing.next] using tracks.track

/-- A sample on a topic of the transport reaches the application as it should. -/
theorem honours
    (tracks : Tracks events transport)
    (toJson : ByteString → Message → ByteString)
    {topic : ByteString}
    (known : topic ∈ [SENSOR_TOPIC, TRACK_TOPIC])
    (message : Message) :
    (transportDds toJson).Honours transport (Standing.after topic events) topic
      message := by
  have polled : ∃ subscriber : DDSSubscriber Callback,
      Stands subscriber (transport.isSubscribed topic) (Standing.after topic events) ∧
        transport.receive toJson topic message =
          subscriber.poll.map fun callback => ⟨callback, topic, toJson topic message⟩ := by
    rcases List.mem_pair.mp known with rfl | rfl
    · exact ⟨transport.sensorSub, tracks.sensor, by rw [receive, if_pos rfl]⟩
    · exact ⟨transport.trackSub, tracks.track,
        by rw [receive, if_neg sensorTopic_ne_trackTopic.symm, if_pos rfl]⟩
  obtain ⟨subscriber, stands, received⟩ := polled
  have polls := stands.poll_eq
  simp only [ITransport.Honours, transportDds, received]
  split_ifs at polls ⊢ with active
  · obtain ⟨callback, standing, polls⟩ := polls
    exact ⟨callback, toJson topic message, standing, rfl, by rw [polls]; rfl⟩
  · rw [polls]
    rfl

end Tracks

theorem tracks_after
    (toJson : ByteString → Message → ByteString)
    (events : List (TransportEvent Callback Message)) :
    Tracks events ((transportDds toJson).after events) := by
  induction events using List.reverseRecOn with
  | nil => exact .new
  | append_singleton events event inductionHypothesis =>
      rw [ITransport.after_concat]
      cases event with
      | subscribe topic callback =>
          exact inductionHypothesis.subscribe topic callback
      | unsubscribe topic => exact inductionHypothesis.unsubscribe topic
      | incoming topic message => exact inductionHypothesis.incoming topic message

/-- The DDS transport honours its subscriptions in every history. -/
theorem honoursSubscriptions
    (toJson : ByteString → Message → ByteString)
    {events : List (TransportEvent Callback Message)}
    (admissible : ∀ event ∈ events, (transportDds toJson).Admissible event) :
    (transportDds toJson).HonoursSubscriptions events := by
  rintro early topic message late rfl
  obtain ⟨known, _⟩ := admissible (.incoming topic message) (by simp)
  exact (tracks_after toJson early).honours toJson known message

end TransportDds
end Omniscope
end StarterCpp
