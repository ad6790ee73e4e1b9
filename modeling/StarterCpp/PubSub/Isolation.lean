import StarterCpp.PubSub.Traffic
import Mathlib.Data.Set.Defs

/-!
# Namespace isolation

The namespace of a message is only a prefix of its topic: the publisher joins
its name and the topic with a slash, and the subscriber looks up the joined
string.  A subscriber under another name stays isolated from a publisher exactly
when no topic that the publisher's fragments announce is one of the joined
strings that the subscriber registered.  Joined strings of different names meet
when one name continues the other one across a slash.
-/

namespace StarterCpp
namespace PubSub

/-- The topic that the first fragment of a message announces: the namespaced
topic, cut off by the sixteen-bit length field. -/
def announced (name topic : ByteString) : ByteString :=
  (namespaced name topic).take ((namespaced name topic).length % 65536)

/-- The second name continues the first one across a slash into the topic that
is published under the first. -/
def Straddles (name topic otherName otherTopic : ByteString) : Prop :=
  ∃ middle, otherName = name ++ slash :: middle ∧
    topic = middle ++ slash :: otherTopic

/-- A subscriber with its subscriptions. -/
def listener
    {Handler : Type*}
    (name : ByteString)
    (reassemblyTimeoutMs : Int)
    (subscriptions : List (ByteString × Handler)) : Subscriber Handler :=
  (Subscriber.create name reassemblyTimeoutMs).subscribeAll
    (subscriptions.map fun subscription =>
      (subscription.1, some subscription.2))

/-- Whatever a publisher publishes on the given topics, and however its datagrams
arrive, the subscriber calls no handler. -/
def Isolated
    {Handler : Type*}
    (name otherName : ByteString)
    (topics : Set ByteString)
    (subscriptions : List (ByteString × Handler))
    (reassemblyTimeoutMs : Int) : Prop :=
  ∀ (mtu : ℕ) (socket : Int) (addressValid : Bool)
      (requests : List PublishRequest) (outcomes : List PublishOutcome)
      (events : List BufferEvent) (final : Subscriber Handler)
      (invocations : List (Invocation Handler)),
    mtu < 2 ^ 64 →
    (∀ request ∈ requests, request.topic ∈ topics ∧
      request.Sized (Publisher.create name mtu socket addressValid)) →
    (Publisher.create name mtu socket addressValid).publishAll requests =
      .ok outcomes →
    (∀ event ∈ events, event.SentIn outcomes) →
    run Subscriber.step (listener otherName reassemblyTimeoutMs subscriptions)
      events = .ok (final, invocations) →
    invocations = []

/-! ## Joined strings -/

theorem straddles_namespaced
    {name topic otherName otherTopic : ByteString}
    (straddles : Straddles name topic otherName otherTopic) :
    namespaced name topic = namespaced otherName otherTopic := by
  obtain ⟨middle, rfl, rfl⟩ := straddles
  simp [namespaced]

/-- Joined strings of different names are equal exactly when one name continues
the other one across a slash. -/
theorem namespaced_eq_iff
    {name topic otherName otherTopic : ByteString}
    (distinct : name ≠ otherName) :
    namespaced name topic = namespaced otherName otherTopic ↔
      Straddles name topic otherName otherTopic ∨
        Straddles otherName otherTopic name topic := by
  constructor
  · intro same
    rcases List.append_eq_append_iff.mp same with
      ⟨rest, otherEq, topicEq⟩ | ⟨rest, nameEq, topicEq⟩
    · cases rest with
      | nil => exact absurd (by simpa using otherEq.symm) distinct
      | cons first middle =>
          simp only [List.cons_append, List.cons.injEq] at topicEq
          obtain ⟨rfl, topicEq⟩ := topicEq
          exact Or.inl ⟨middle, otherEq, topicEq⟩
    · cases rest with
      | nil => exact absurd (by simpa using nameEq) distinct
      | cons first middle =>
          simp only [List.cons_append, List.cons.injEq] at topicEq
          obtain ⟨rfl, topicEq⟩ := topicEq
          exact Or.inr ⟨middle, nameEq, topicEq⟩
  · rintro (straddles | straddles)
    · exact straddles_namespaced straddles
    · exact (straddles_namespaced straddles).symm

theorem announced_eq
    {name topic : ByteString}
    (short : (namespaced name topic).length ≤ 65535) :
    announced name topic = namespaced name topic := by
  rw [announced, Nat.mod_eq_of_lt (by omega), List.take_length]

/-! ## What the subscriptions register -/

/-- A joined string is looked up to a handler subscribed for it, or is left as
it was before the subscriptions. -/
theorem Subscriber.subscribeAll_handlers
    {Handler : Type*}
    (subscriber : Subscriber Handler)
    (subscriptions : List (ByteString × MessageHandler Handler))
    (topic : ByteString) :
    (∃ subscription ∈ subscriptions,
        topic = namespaced subscriber.name subscription.1 ∧
          (subscriber.subscribeAll subscriptions).handlers topic =
            some subscription.2) ∨
      ((∀ subscription ∈ subscriptions,
          topic ≠ namespaced subscriber.name subscription.1) ∧
        (subscriber.subscribeAll subscriptions).handlers topic =
          subscriber.handlers topic) := by
  induction subscriptions generalizing subscriber with
  | nil => exact Or.inr ⟨by simp, rfl⟩
  | cons subscription subscriptions inductionHypothesis =>
      rcases inductionHypothesis
          (subscriber.subscribe subscription.1 subscription.2) with
        ⟨later, member, topicEq, found⟩ | ⟨others, found⟩
      · exact Or.inl ⟨later, List.mem_cons_of_mem _ member, topicEq, found⟩
      · by_cases here : topic = namespaced subscriber.name subscription.1
        · refine Or.inl ⟨subscription, List.mem_cons_self, here, ?_⟩
          apply found.trans
          rw [here]
          exact Function.update_self _ _ _
        · refine Or.inr ⟨?_, ?_⟩
          · intro later member
            rcases List.mem_cons.mp member with rfl | member
            · exact here
            · exact others later member
          · exact found.trans (Function.update_of_ne here _ _)

/-- A subscription changes only the handlers. -/
theorem Subscriber.subscribeAll_fields
    {Handler : Type*}
    (subscriber : Subscriber Handler)
    (subscriptions : List (ByteString × MessageHandler Handler)) :
    (subscriber.subscribeAll subscriptions).partialMessages =
        subscriber.partialMessages ∧
      (subscriber.subscribeAll subscriptions).reassemblyTimeoutMs =
        subscriber.reassemblyTimeoutMs := by
  induction subscriptions generalizing subscriber with
  | nil => exact ⟨rfl, rfl⟩
  | cons subscription subscriptions inductionHypothesis =>
      exact inductionHypothesis
        (subscriber.subscribe subscription.1 subscription.2)

section Listener

variable {Handler : Type*}
variable {otherName : ByteString}
variable {reassemblyTimeoutMs : Int}
variable {subscriptions : List (ByteString × Handler)}

theorem listener_partialMessages :
    (listener otherName reassemblyTimeoutMs subscriptions).partialMessages =
      ReassemblyBuffer.empty :=
  (Subscriber.subscribeAll_fields _ _).1

/-- A message on a joined string nobody subscribed to reaches no handler. -/
theorem deliverMessage_listener_other
    {message : Delivery}
    (unsubscribed : ∀ subscription ∈ subscriptions,
      message.topic ≠ namespaced otherName subscription.1) :
    (listener otherName reassemblyTimeoutMs subscriptions).deliverMessage
      message = [] := by
  rcases Subscriber.subscribeAll_handlers
      (Subscriber.create otherName reassemblyTimeoutMs)
      (subscriptions.map fun subscription =>
        (subscription.1, some subscription.2)) message.topic with
    ⟨subscription, member, topicEq, _⟩ | ⟨_, found⟩
  · obtain ⟨source, sourceMember, rfl⟩ := List.mem_map.mp member
    exact absurd topicEq (unsubscribed source sourceMember)
  · simp only [Subscriber.deliverMessage, listener, found]
    rfl

/-- A message on a subscribed joined string reaches a handler. -/
theorem deliverMessage_listener_of_mem
    {message : Delivery}
    {subscription : ByteString × Handler}
    (member : subscription ∈ subscriptions)
    (topicEq : message.topic = namespaced otherName subscription.1) :
    (listener otherName reassemblyTimeoutMs subscriptions).deliverMessage
      message ≠ [] := by
  rcases Subscriber.subscribeAll_handlers
      (Subscriber.create otherName reassemblyTimeoutMs)
      (subscriptions.map fun subscription =>
        (subscription.1, some subscription.2)) message.topic with
    ⟨registered, registeredMember, _, found⟩ | ⟨others, _⟩
  · obtain ⟨source, _, rfl⟩ := List.mem_map.mp registeredMember
    simp [Subscriber.deliverMessage, listener, found]
  · exact absurd topicEq
      (others _ (List.mem_map.mpr ⟨subscription, member, rfl⟩))

end Listener

/-! ## Where topics come from -/

/-- Every entry that has its first fragment has one of the given topics. -/
def ReassemblyBuffer.TopicsFrom
    (topics : Set ByteString) (buffer : ReassemblyBuffer) : Prop :=
  ∀ messageId entry, buffer messageId = some entry →
    0 ∈ entry.receivedFragments → entry.topic ∈ topics

namespace ReassemblyBuffer

variable {topics : Set ByteString}
variable {buffer : ReassemblyBuffer}

theorem TopicsFrom.update
    (topicsFrom : buffer.TopicsFrom topics)
    (messageId : UInt32)
    {found : Option PartialMessage}
    (foundFrom : ∀ entry, found = some entry →
      0 ∈ entry.receivedFragments → entry.topic ∈ topics) :
    TopicsFrom topics (Function.update buffer messageId found) := by
  intro other entry foundAt first
  by_cases same : other = messageId
  · subst same
    rw [Function.update_self] at foundAt
    exact foundFrom entry foundAt first
  · rw [Function.update_of_ne same] at foundAt
    exact topicsFrom other entry foundAt first

/-- The entry that a datagram meets has one of the topics if it has its first
fragment. -/
theorem TopicsFrom.met
    (topicsFrom : buffer.TopicsFrom topics)
    (valid : buffer.Valid)
    (data : ByteString)
    (now : Int)
    (first : 0 ∈ (buffer.met data now).receivedFragments) :
    (buffer.met data now).topic ∈ topics :=
  topicsFrom _ _ (found_of_mem_met valid first) first

/-- After a datagram of a call, an entry that has its first fragment has the
call's topic or had a topic before. -/
theorem TopicsFrom.topicAfter
    (topicsFrom : buffer.TopicsFrom topics)
    (valid : buffer.Valid)
    {call : PublishCall}
    (wireTopic : call.wireTopic ∈ topics)
    {fragNum : ℕ}
    (inside : fragNum < call.fragmentCount)
    (now : Int)
    (first : 0 ∈ insert fragNum
      (buffer.met (call.datagram fragNum) now).receivedFragments) :
    ReassemblyBuffer.topicAfter (buffer.met (call.datagram fragNum) now)
      (call.datagram fragNum) ∈ topics := by
  rw [PublishCall.topicAfter_datagram inside]
  split_ifs with isFirst
  · exact wireTopic
  · apply topicsFrom.met valid
    rcases Finset.mem_insert.mp first with zero | already
    · exact absurd zero.symm isFirst
    · exact already

/-- A datagram of a call brings no topic but the call's, and delivers nothing
under another one. -/
theorem TopicsFrom.processFragment
    (topicsFrom : buffer.TopicsFrom topics)
    (valid : buffer.Valid)
    {call : PublishCall}
    (wireTopic : call.wireTopic ∈ topics)
    {fragNum : ℕ}
    (inside : fragNum < call.fragmentCount)
    {now : Int}
    {next : ReassemblyBuffer}
    {deliveries : List Delivery}
    (processed : buffer.processFragment (call.datagram fragNum) now =
      .ok (next, deliveries)) :
    next.TopicsFrom topics ∧ ∀ delivery ∈ deliveries, delivery.topic ∈ topics := by
  have effect := processFragment_effect valid (call.datagram fragNum) now
  rw [processed] at effect
  cases effect with
  | tooShort _ => exact ⟨topicsFrom, by simp⟩
  | inconsistent _ _ | topicTooLong _ _ _ =>
      exact ⟨topicsFrom.update _ (by simp), by simp⟩
  | duplicate _ _ _ =>
      refine ⟨topicsFrom.update _ ?_, by simp⟩
      intro entry same first
      obtain rfl := Option.some.inj same
      exact topicsFrom.met valid _ _ first
  | stored accepts _ _ =>
      refine ⟨topicsFrom.update _ ?_, by simp⟩
      intro entry same first
      obtain rfl := Option.some.inj same
      apply topicsFrom.topicAfter valid wireTopic inside
      rwa [← PublishCall.fragmentNum_datagram inside]
  | complete accepts below last =>
      refine ⟨topicsFrom.update _ (by simp), ?_⟩
      intro delivery member
      obtain rfl := List.mem_singleton.mp member
      apply topicsFrom.topicAfter valid wireTopic inside
      -- The message is complete, so its first fragment is among those received.
      have whole := accepts.received_eq_range valid below last
      rw [PublishCall.fragmentNum_datagram inside] at whole
      rw [whole]
      exact Finset.mem_range.mpr (Nat.lt_of_le_of_lt (Nat.zero_le _) below)

end ReassemblyBuffer

/-! ## When two namespaces are isolated -/

section Main

variable {Handler : Type*}
variable {name otherName : ByteString}
variable {topics : Set ByteString}
variable {subscriptions : List (ByteString × Handler)}
variable {reassemblyTimeoutMs : Int}

/-- What holds of the subscriber throughout a run of the publisher's traffic. -/
structure Subscriber.Confined
    (subscriber : Subscriber Handler)
    (initial : Subscriber Handler)
    (wireTopics : Set ByteString) : Prop where
  valid : subscriber.partialMessages.Valid
  topicsFrom : subscriber.partialMessages.TopicsFrom wireTopics
  deliver_eq : subscriber.deliverMessage = initial.deliverMessage

/-- One event of a publisher's traffic keeps the subscriber confined to the
announced topics, and calls only handlers that a message on one of them
reaches. -/
theorem Subscriber.Confined.step
    {subscriber initial : Subscriber Handler}
    {wireTopics : Set ByteString}
    (confined : subscriber.Confined initial wireTopics)
    {publisher : Publisher}
    {requests : List PublishRequest}
    {outcomes : List PublishOutcome}
    (history : publisher.History requests outcomes)
    (wire : ∀ (index : ℕ) (call : PublishCall),
      history.calls[index]? = some (some call) → call.wireTopic ∈ wireTopics)
    (unheard : ∀ message : Delivery, message.topic ∈ wireTopics →
      initial.deliverMessage message = [])
    {event : BufferEvent}
    (sentIn : event.SentIn outcomes) :
    ∃ next emitted, subscriber.step event = .ok (next, emitted) ∧
      next.Confined initial wireTopics ∧ emitted = [] := by
  obtain ⟨⟨next, deliveries⟩, stepped⟩ :=
    (ReassemblyBuffer.step_ok_iff confined.valid subscriber.reassemblyTimeoutMs
      event).mpr (history.eventInRange sentIn _)
  have validNext := ReassemblyBuffer.step_valid confined.valid stepped
  have kept : next.TopicsFrom wireTopics ∧
      ∀ delivery ∈ deliveries, delivery.topic ∈ wireTopics := by
    cases event with
    | cleanup now =>
        obtain ⟨rfl, rfl⟩ := Prod.mk.inj (Except.ok.inj stepped)
        refine ⟨?_, by simp⟩
        intro messageId entry found
        exact confined.topicsFrom messageId entry
          (ReassemblyBuffer.some_of_cleanupStaleMessages found)
    | datagram data now =>
        obtain ⟨outcome, member, sentBy⟩ := sentIn
        obtain ⟨index, made⟩ := List.mem_iff_getElem?.mp member
        obtain ⟨call, fragNum, callAt, inside, rfl⟩ :=
          history.exists_call_of_sent made sentBy
        exact confined.topicsFrom.processFragment confined.valid
          (wire index call callAt) inside stepped
  refine ⟨{ subscriber with partialMessages := next },
    deliveries.flatMap subscriber.deliverMessage, ?_, ?_, ?_⟩
  · simp [Subscriber.step, stepped]
  · exact ⟨validNext, kept.1, confined.deliver_eq⟩
  · rw [List.flatMap_eq_nil_iff]
    intro delivery member
    rw [confined.deliver_eq]
    exact unheard delivery (kept.2 delivery member)

/-- A publisher none of whose announced topics is subscribed to is isolated. -/
theorem isolated_of_announced_ne
    (apart : ∀ topic ∈ topics, ∀ subscription ∈ subscriptions,
      announced name topic ≠ namespaced otherName subscription.1) :
    Isolated name otherName topics subscriptions reassemblyTimeoutMs := by
  intro mtu socket addressValid requests outcomes events final invocations
    mtu_lt requested published sent ran
  let publisher := Publisher.create name mtu socket addressValid
  obtain ⟨history⟩ := Publisher.publishAll_history
    (Publisher.create_wellFormed name mtu_lt socket addressValid)
    (fun request member => (requested request member).2) published
  let initial := listener otherName reassemblyTimeoutMs subscriptions
  have wire : ∀ (index : ℕ) (call : PublishCall),
      history.calls[index]? = some (some call) →
        call.wireTopic ∈ announced name '' topics := by
    intro index call callAt
    obtain ⟨request, requestAt, ofRequest⟩ := history.ofRequest index call callAt
    refine ⟨request.topic,
      (requested request (List.mem_of_getElem? requestAt)).1, ?_⟩
    rw [← ofRequest.topic_eq]
    change announced publisher.name call.topic = _
    rw [← ofRequest.name_eq]
    rfl
  have unheard : ∀ message : Delivery,
      message.topic ∈ announced name '' topics →
        initial.deliverMessage message = [] := by
    rintro message ⟨topic, topicIn, announcedEq⟩
    apply deliverMessage_listener_other
    intro subscription member
    rw [← announcedEq]
    exact apart topic topicIn subscription member
  have start : initial.Confined initial (announced name '' topics) := by
    refine ⟨?_, ?_, rfl⟩
    · rw [listener_partialMessages]
      exact ReassemblyBuffer.empty_valid
    · rw [listener_partialMessages]
      intro messageId entry found
      simp [ReassemblyBuffer.empty] at found
  have stepOk : ∀ (subscriber : Subscriber Handler) (event : BufferEvent),
      subscriber.Confined initial (announced name '' topics) →
      event.SentIn outcomes →
      ∃ next emitted, subscriber.step event = .ok (next, emitted) ∧
        next.Confined initial (announced name '' topics) ∧
        ∀ output ∈ emitted, False := by
    intro subscriber event confined sentIn
    obtain ⟨next, emitted, stepped, confinedNext, rfl⟩ :=
      confined.step history wire unheard sentIn
    exact ⟨next, [], stepped, confinedNext, by simp⟩
  obtain ⟨reached, outputs, sameRun, _, none⟩ :=
    Run.run_ok_of_eachStep stepOk start (EachStep.of_forall sent)
  rw [ran, Except.ok.injEq, Prod.mk.injEq] at sameRun
  rw [sameRun.2]
  exact List.eq_nil_iff_forall_not_mem.mpr none

/-- A publisher whose MTU leaves room for the topic alone. -/
def tightPublisher (name topic : ByteString) : Publisher :=
  Publisher.create name
    ((namespaced name topic).length + FragmentHeader.size) 0 true

/-- The request to publish an empty message on a topic. -/
def emptyRequest (topic : ByteString) : PublishRequest :=
  ⟨topic, some [], fun _ => true⟩

/-- The tight publisher sends an empty message as one datagram. -/
theorem publish_emptyRequest
    {topic : ByteString}
    (topic_lt : (namespaced name topic).length < 2 ^ 63) :
    (emptyRequest topic).Sized (tightPublisher name topic) ∧
      ∃ call : PublishCall,
        call.OfRequest (tightPublisher name topic) (emptyRequest topic) ∧
          insert 0 ∅ = call.needed ∧
          (publishOutcome (emptyRequest topic) (some call)).sent =
            [call.datagram 0] ∧
          ∃ next, (tightPublisher name topic).publish (emptyRequest topic) =
            .ok (next, publishOutcome (emptyRequest topic) (some call)) := by
  have wellFormed : (tightPublisher name topic).WellFormed := by
    refine Publisher.create_wellFormed name ?_ 0 true
    rw [FragmentHeader.size]
    omega
  have fits : (emptyRequest topic).Fits (tightPublisher name topic) := by
    refine ⟨⟨topic_lt, ?_⟩, Nat.le_sub_of_add_le (Nat.le_refl _)⟩
    intro serialized sameString
    rw [← Option.some.inj sameString]
    simp
  have counted := Publisher.Fits.numFragmentsCalc_eq wellFormed fits rfl
  -- All the payload room goes to the topic, and nothing is left to send.
  have single :
      laterFragmentsOf ((tightPublisher name topic).mtu - FragmentHeader.size)
        (namespaced name topic).length ([] : ByteString).length = 0 := by
    have room : (tightPublisher name topic).mtu - FragmentHeader.size =
        (namespaced name topic).length := Nat.add_sub_cancel _ _
    have positive : 0 < (namespaced name topic).length := by simp
    rw [room, laterFragmentsOf]
    exact Nat.div_eq_of_lt (by rw [List.length_nil]; omega)
  change _ = Except.ok (laterFragmentsOf _ (namespaced name topic).length _ + 1)
    at counted
  rw [single] at counted
  obtain ⟨call, ofRequest, _, callCount, published⟩ :=
    Publisher.publish_call wellFormed fits
      (by simp [tightPublisher, Publisher.create]) rfl counted (by decide)
  refine ⟨fits.toSized, call, ofRequest, ?_, ?_, _, published⟩
  · rw [PublishCall.needed, callCount]
    rfl
  · rw [publishOutcome_of_accepted (fun _ => rfl), callCount]
    rfl

/-- The only datagram of a message completes it in an empty buffer. -/
theorem process_onlyDatagram
    {call : PublishCall}
    (whole : insert 0 ∅ = call.needed)
    (now : Int) :
    ∃ next, ReassemblyBuffer.empty.processFragment (call.datagram 0) now =
      .ok (next, [call.delivery]) := by
  have collected : call.Collected ReassemblyBuffer.empty ∅ := Or.inl ⟨rfl, rfl⟩
  obtain ⟨next, processed, _, _⟩ := collected.process
    ReassemblyBuffer.empty_valid call.fragmentCount_pos now
  rw [Collector.step_arrive_last (Finset.notMem_empty 0) whole,
    if_pos rfl] at processed
  exact ⟨next, processed⟩

/-- An empty message on a topic that the subscriber registered reaches its
handler. -/
theorem announced_ne_of_isolated
    (isolated : Isolated name otherName topics subscriptions
      reassemblyTimeoutMs)
    {topic : ByteString}
    (topicIn : topic ∈ topics)
    (topic_lt : (namespaced name topic).length < 2 ^ 63)
    {subscription : ByteString × Handler}
    (subscribed : subscription ∈ subscriptions) :
    announced name topic ≠ namespaced otherName subscription.1 := by
  intro same
  obtain ⟨sized, call, ofRequest, whole, sent, next, published⟩ :=
    publish_emptyRequest topic_lt
  obtain ⟨buffer, processed⟩ := process_onlyDatagram whole 0
  let initial := listener otherName reassemblyTimeoutMs subscriptions
  have topicEq : call.delivery.topic = namespaced otherName subscription.1 := by
    rw [← same]
    change announced call.name call.topic = _
    rw [ofRequest.name_eq, ofRequest.topic_eq]
    rfl
  have stepped : initial.step (.datagram (call.datagram 0) 0) =
      .ok ({ initial with partialMessages := buffer },
        [call.delivery].flatMap initial.deliverMessage) := by
    have empty : initial.partialMessages = ReassemblyBuffer.empty :=
      listener_partialMessages
    simp only [Subscriber.step, ReassemblyBuffer.step, empty, processed]
  have sentIn : ∀ event ∈
      ([.datagram (call.datagram 0) 0] : List BufferEvent),
      event.SentIn [publishOutcome (emptyRequest topic) (some call)] := by
    intro event member
    obtain rfl := List.mem_singleton.mp member
    exact ⟨_, List.mem_cons_self, by rw [sent]; exact List.mem_cons_self⟩
  have mtu_lt : (namespaced name topic).length + FragmentHeader.size < 2 ^ 64 := by
    rw [FragmentHeader.size]
    omega
  have requested : ∀ request ∈ [emptyRequest topic],
      request.topic ∈ topics ∧ request.Sized (tightPublisher name topic) := by
    intro request member
    obtain rfl := List.mem_singleton.mp member
    exact ⟨topicIn, sized⟩
  have silent := isolated _ 0 true _ _ _ _ _ mtu_lt requested
    (Publisher.publishAll_cons published rfl) sentIn
    (Run.run_cons_ok stepped (Run.run_nil _))
  have called : initial.deliverMessage call.delivery ≠ [] :=
    deliverMessage_listener_of_mem subscribed topicEq
  exact called (by simpa using silent)

/-- Two namespaces are isolated exactly when the publisher announces no topic
that the subscriber registered; for topics that the length field can hold, when
neither name continues the other one across a slash into the topics in use. -/
theorem isolated_iff
    (subscriptions : List (ByteString × Handler))
    (reassemblyTimeoutMs : Int)
    (distinct : name ≠ otherName)
    (topics_lt : ∀ topic ∈ topics, (namespaced name topic).length < 2 ^ 63) :
    (Isolated name otherName topics subscriptions reassemblyTimeoutMs ↔
        ∀ topic ∈ topics, ∀ subscription ∈ subscriptions,
          announced name topic ≠ namespaced otherName subscription.1) ∧
      ((∀ topic ∈ topics, (namespaced name topic).length ≤ 65535) →
        (Isolated name otherName topics subscriptions reassemblyTimeoutMs ↔
          ∀ topic ∈ topics, ∀ subscription ∈ subscriptions,
            ¬Straddles name topic otherName subscription.1 ∧
              ¬Straddles otherName subscription.1 name topic)) := by
  have isolated_iff_apart :
      Isolated name otherName topics subscriptions reassemblyTimeoutMs ↔
        ∀ topic ∈ topics, ∀ subscription ∈ subscriptions,
          announced name topic ≠ namespaced otherName subscription.1 := by
    constructor
    · intro isolated topic topicIn subscription subscribed
      exact announced_ne_of_isolated isolated topicIn (topics_lt topic topicIn)
        subscribed
    · exact isolated_of_announced_ne
  refine ⟨isolated_iff_apart, fun short => ?_⟩
  rw [isolated_iff_apart]
  have apart_iff : ∀ topic ∈ topics, ∀ subscription ∈ subscriptions,
      (announced name topic ≠ namespaced otherName subscription.1 ↔
        ¬Straddles name topic otherName subscription.1 ∧
          ¬Straddles otherName subscription.1 name topic) := by
    intro topic topicIn subscription _
    rw [announced_eq (short topic topicIn), ne_eq, namespaced_eq_iff distinct,
      not_or]
  constructor
  · intro apart topic topicIn subscription subscribed
    exact (apart_iff topic topicIn subscription subscribed).mp
      (apart topic topicIn subscription subscribed)
  · intro apart topic topicIn subscription subscribed
    exact (apart_iff topic topicIn subscription subscribed).mpr
      (apart topic topicIn subscription subscribed)

end Main

/-- Publisher `a` and subscriber `b` with the same topic `c` are isolated. -/
theorem isolated_iff_plain_names :
    Isolated [97] [98] {[99]} [([99], 7)] 1000 := by
  have apart := isolated_iff [([99], 7)] 1000
    (show ([97] : ByteString) ≠ [98] by decide)
    (show ∀ topic ∈ ({[99]} : Set ByteString),
      (namespaced [97] topic).length < 2 ^ 63 by simp)
  apply apart.1.mpr
  intro topic topicIn subscription subscribed
  obtain rfl := topicIn
  obtain rfl := List.mem_singleton.mp subscribed
  decide

/-- Publisher `a` with topic `b/c` calls the handler that subscriber `a/b` has
for its topic `c`. -/
theorem not_isolated_across_slash :
    ¬Isolated [97] [97, 47, 98] {[98, 47, 99]} [([99], 7)] 1000 := by
  intro isolated
  have silent := isolated 32 3 true
    [⟨[98, 47, 99], some [1, 2], fun _ => true⟩] _
    [.datagram [0, 0, 0, 0, 0, 0, 1, 0, 5, 0, 0, 0, 97, 47, 98, 47, 99, 1, 2] 0]
    _ [⟨7, ⟨[97, 47, 98, 47, 99], [1, 2]⟩⟩] (by norm_num)
    (by
      intro request member
      obtain rfl := List.mem_singleton.mp member
      refine ⟨rfl, by simp [Publisher.create], ?_⟩
      intro serialized same
      rw [← Option.some.inj same]
      simp)
    rfl
    (by
      intro event member
      obtain rfl := List.mem_singleton.mp member
      exact ⟨_, List.mem_cons_self, by decide⟩)
    rfl
  simp at silent

end PubSub
end StarterCpp
