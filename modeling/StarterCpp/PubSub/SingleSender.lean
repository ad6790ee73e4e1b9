import StarterCpp.PubSub.Traffic

/-!
# One sender over a lossy network

The datagrams of one publisher may be lost, duplicated and reordered, and
cleanups may come at any moment.  While the publisher's counter does not wrap,
every delivery is the topic and payload of one publish call, and a call is
delivered at most as often as each of its fragments arrived.
-/

namespace StarterCpp
namespace PubSub

/-- Whether an event is the arrival of a datagram that the call sent. -/
def PublishOutcome.sentEvent (outcome : PublishOutcome) : BufferEvent → Bool
  | .datagram data _ => data ∈ outcome.sent
  | .cleanup _ => false

/-- Deliveries of a publish call: those that one of its datagrams completed. -/
def PublishOutcome.deliveriesOf
    (outcome : PublishOutcome)
    (outputs : List (BufferEvent × Delivery)) : ℕ :=
  outputs.countP fun output => outcome.sentEvent output.1

/-- Copies of one fragment of a publish call that arrived, none when it was not
sent. -/
def PublishOutcome.copiesOf
    (outcome : PublishOutcome)
    (fragNum : ℕ)
    (events : List BufferEvent) : ℕ :=
  match outcome.sent[fragNum]? with
  | none => 0
  | some data => events.countP (BufferEvent.carries data)

theorem PublishOutcome.copiesOf_of_none
    {outcome : PublishOutcome}
    {fragNum : ℕ}
    (unsent : outcome.sent[fragNum]? = none)
    (events : List BufferEvent) :
    outcome.copiesOf fragNum events = 0 := by
  simp [copiesOf, unsent]

theorem PublishOutcome.copiesOf_of_some
    {outcome : PublishOutcome}
    {fragNum : ℕ}
    {data : ByteString}
    (sentAt : outcome.sent[fragNum]? = some data)
    (events : List BufferEvent) :
    outcome.copiesOf fragNum events =
      events.countP (BufferEvent.carries data) := by
  simp [copiesOf, sentAt]

namespace Publisher.History

variable {publisher : Publisher}
variable {requests : List PublishRequest}
variable {outcomes : List PublishOutcome}
variable {events : List BufferEvent}

/-- The calls of a publisher that makes fewer than `2 ^ 32` calls never share a
message id, so all its traffic stands next to each of them. -/
theorem beside
    (history : History publisher requests outcomes)
    (few : requests.length < 2 ^ 32)
    {index : ℕ}
    {call : PublishCall}
    (callAt : history.calls[index]? = some (some call))
    {event : BufferEvent}
    (sent : event.SentIn outcomes) :
    call.Beside event := by
  cases event with
  | cleanup now => trivial
  | datagram data now =>
      obtain ⟨outcome, member, sentBy⟩ := sent
      obtain ⟨source, made⟩ := List.mem_iff_getElem?.mp member
      obtain ⟨other, fragNum, otherAt, inside, rfl⟩ :=
        history.exists_call_of_sent made sentBy
      by_cases same : other.messageId = call.messageId
      · have sameIndex := history.messageId_injective few otherAt callAt same
        rw [sameIndex, callAt, Option.some.injEq, Option.some.injEq] at otherAt
        subst otherAt
        exact Or.inl ⟨fragNum, inside, rfl⟩
      · refine Or.inr ⟨?_, ?_⟩
        · rwa [PublishCall.messageId_datagram]
        · rwa [PublishCall.fragmentNum_datagram inside,
            PublishCall.totalFragments_datagram]

/-- An event that carries the message id of a call is a datagram that the call
sent. -/
theorem sentEvent_iff
    (history : History publisher requests outcomes)
    (few : requests.length < 2 ^ 32)
    {index : ℕ}
    {call : PublishCall}
    (callAt : history.calls[index]? = some (some call))
    {outcome : PublishOutcome}
    (made : outcomes[index]? = some outcome)
    {event : BufferEvent}
    (sent : event.SentIn outcomes) :
    outcome.sentEvent event = true ↔ event.messageId? = some call.messageId := by
  cases event with
  | cleanup now => simp [PublishOutcome.sentEvent, BufferEvent.messageId?]
  | datagram data now =>
      simp only [PublishOutcome.sentEvent, BufferEvent.messageId?,
        decide_eq_true_eq, Option.some.injEq]
      constructor
      · intro member
        obtain ⟨other, fragNum, otherAt, _, rfl⟩ :=
          history.exists_call_of_sent made member
        rw [callAt, Option.some.injEq, Option.some.injEq] at otherAt
        rw [otherAt, PublishCall.messageId_datagram]
      · intro sameId
        obtain ⟨source, member, sentBy⟩ := sent
        obtain ⟨sourceIndex, sourceMade⟩ := List.mem_iff_getElem?.mp member
        obtain ⟨other, fragNum, otherAt, _, rfl⟩ :=
          history.exists_call_of_sent sourceMade sentBy
        rw [PublishCall.messageId_datagram] at sameId
        have sameIndex := history.messageId_injective few otherAt callAt sameId
        rw [sameIndex, made, Option.some.injEq] at sourceMade
        rwa [sourceMade]

/-- The arrivals that a call's collector sees of one fragment are the copies of
it that arrived. -/
theorem count_fragmentOf
    (history : History publisher requests outcomes)
    (few : requests.length < 2 ^ 32)
    {index : ℕ}
    {call : PublishCall}
    (callAt : history.calls[index]? = some (some call))
    {outcome : PublishOutcome}
    (made : outcomes[index]? = some outcome)
    (sent : ∀ event ∈ events, event.SentIn outcomes)
    (fragNum : ℕ) :
    (events.filterMap call.fragmentOf).count fragNum =
      outcome.copiesOf fragNum events := by
  have brings_iff : ∀ event ∈ events, call.fragmentOf event = some fragNum ↔
      fragNum < call.fragmentCount ∧
        event.carries (call.datagram fragNum) = true := by
    intro event member
    have beside := history.beside few callAt (sent event member)
    constructor
    · intro brings
      obtain ⟨inside, now, rfl⟩ := beside.of_fragmentOf brings
      exact ⟨inside, by simp [BufferEvent.carries]⟩
    · rintro ⟨inside, carries⟩
      cases event with
      | cleanup now => simp [BufferEvent.carries] at carries
      | datagram data now =>
          simp only [BufferEvent.carries, decide_eq_true_eq] at carries
          rw [carries, PublishCall.fragmentOf_datagram inside]
  rw [List.count_filterMap]
  cases sentAt : outcome.sent[fragNum]? with
  | some data =>
      rw [PublishOutcome.copiesOf_of_some sentAt]
      obtain ⟨other, otherAt, inside, rfl⟩ := history.sent_eq made sentAt
      rw [callAt, Option.some.injEq, Option.some.injEq] at otherAt
      subst otherAt
      apply List.countP_congr
      intro event member
      simp [brings_iff event member, inside]
  | none =>
      rw [PublishOutcome.copiesOf_of_none sentAt, List.countP_eq_zero]
      intro event member brings
      rw [beq_iff_eq] at brings
      obtain ⟨inside, now, rfl⟩ :=
        (history.beside few callAt (sent event member)).of_fragmentOf brings
      -- The datagram was sent, by this call only, so it stands in its list.
      have ours := (history.sentEvent_iff few callAt made
        (sent _ member)).mpr (by simp [BufferEvent.messageId?])
      simp only [PublishOutcome.sentEvent, decide_eq_true_eq] at ours
      obtain ⟨number, numberAt⟩ := List.mem_iff_getElem?.mp ours
      obtain ⟨other, otherAt, numberInside, sameBytes⟩ :=
        history.sent_eq made numberAt
      rw [callAt, Option.some.injEq, Option.some.injEq] at otherAt
      subst otherAt
      have sameNumber := congrArg
        (fun data => (FragmentHeader.ofBytes data).fragmentNum.toNat) sameBytes
      simp only [PublishCall.fragmentNum_datagram inside,
        PublishCall.fragmentNum_datagram numberInside] at sameNumber
      rw [← sameNumber, sentAt] at numberAt
      simp at numberAt

end Publisher.History

namespace Publisher.History

variable {publisher : Publisher}
variable {requests : List PublishRequest}
variable {outcomes : List PublishOutcome}
variable {events : List BufferEvent}
variable {reassemblyTimeoutMs : Int}
variable {final : ReassemblyBuffer}
variable {outputs : List (BufferEvent × Delivery)}

/-- In a run of one sender's traffic, the datagrams of a call cause only
deliveries of it, at most one for each copy of each of its fragments. -/
theorem outputsOf_call
    (history : History publisher requests outcomes)
    (few : requests.length < 2 ^ 32)
    (sent : ∀ event ∈ events, event.SentIn outcomes)
    (ran : run (tagged (ReassemblyBuffer.step reassemblyTimeoutMs))
      ReassemblyBuffer.empty events = .ok (final, outputs))
    {index : ℕ}
    {call : PublishCall}
    (callAt : history.calls[index]? = some (some call))
    {outcome : PublishOutcome}
    (made : outcomes[index]? = some outcome) :
    ∃ times, outputsOf call.messageId outputs =
        List.replicate times call.delivery ∧
      outcome.deliveriesOf outputs = times ∧
      ∀ fragNum, fragNum < call.fragmentCount →
        times ≤ outcome.copiesOf fragNum events := by
  have collected : call.Collected ReassemblyBuffer.empty ∅ := Or.inl ⟨rfl, rfl⟩
  obtain ⟨reached, caused, seen, sameRun, _, seenAs, _, delivered⟩ :=
    collected.run ReassemblyBuffer.empty_valid reassemblyTimeoutMs
      fun event member => history.beside few callAt (sent event member)
  rw [ran, Except.ok.injEq, Prod.mk.injEq] at sameRun
  obtain ⟨rfl, rfl⟩ := sameRun
  refine ⟨_, delivered, ?_, ?_⟩
  · have length := congrArg List.length delivered
    rw [List.length_replicate, outputsOf, List.length_map,
      ← List.countP_eq_length_filter] at length
    rw [← length, PublishOutcome.deliveriesOf]
    apply List.countP_congr
    intro output member
    have among := (Run.emitted_of_mem_tagged ran member).1
    rw [history.sentEvent_iff few callAt made (sent _ among), decide_eq_true_eq]
  · intro fragNum inside
    have bound := Collector.completions_le_count
      (Finset.mem_range.mpr inside : fragNum ∈ call.needed) seen
    rwa [Collector.count_arrive, seenAs.arrivals,
      history.count_fragmentOf few callAt made sent] at bound

/-- Every delivery comes from a datagram of one call and carries the topic and
the payload of its request. -/
theorem delivery_of_request
    (history : History publisher requests outcomes)
    (few : requests.length < 2 ^ 32)
    (short : ∀ request ∈ requests,
      (namespaced publisher.name request.topic).length ≤ 65535)
    (sent : ∀ event ∈ events, event.SentIn outcomes)
    (ran : run (tagged (ReassemblyBuffer.step reassemblyTimeoutMs))
      ReassemblyBuffer.empty events = .ok (final, outputs))
    {output : BufferEvent × Delivery}
    (member : output ∈ outputs) :
    ∃ (index : ℕ) (request : PublishRequest) (serialized : ByteString)
        (outcome : PublishOutcome),
      requests[index]? = some request ∧ request.serialized = some serialized ∧
        outcomes[index]? = some outcome ∧
        outcome.sentEvent output.1 = true ∧
        output.2 = ⟨namespaced publisher.name request.topic, serialized⟩ := by
  obtain ⟨event, delivery⟩ := output
  obtain ⟨among, before, next, emitted, stepped, inEmitted⟩ :=
    Run.emitted_of_mem_tagged ran member
  cases event with
  | cleanup now =>
      simp only [ReassemblyBuffer.step, Except.ok.injEq, Prod.mk.injEq] at stepped
      rw [← stepped.2] at inEmitted
      exact absurd inEmitted List.not_mem_nil
  | datagram data now =>
      obtain ⟨outcome, outcomeMember, sentBy⟩ := sent _ among
      obtain ⟨index, made⟩ := List.mem_iff_getElem?.mp outcomeMember
      obtain ⟨call, fragNum, callAt, _, rfl⟩ :=
        history.exists_call_of_sent made sentBy
      obtain ⟨request, requestAt, ofRequest⟩ :=
        history.ofRequest index call callAt
      obtain ⟨times, delivered, _, _⟩ :=
        history.outputsOf_call few sent ran callAt made
      have caused : delivery ∈ outputsOf call.messageId outputs :=
        List.mem_map.mpr ⟨_, List.mem_filter.mpr ⟨member, by
          simp [BufferEvent.messageId?]⟩, rfl⟩
      rw [delivered] at caused
      have topicEq : call.namespacedTopic =
          namespaced publisher.name request.topic := by
        rw [PublishCall.namespacedTopic, ofRequest.name_eq, ofRequest.topic_eq]
      have topicShort := short request (List.mem_of_getElem? requestAt)
      refine ⟨index, request, call.serialized, outcome, requestAt,
        ofRequest.serialized_eq, made, by
          simpa [PublishOutcome.sentEvent] using sentBy, ?_⟩
      rw [(List.mem_replicate.mp caused).2,
        PublishCall.delivery_eq call (topicEq ▸ topicShort), topicEq]

/-- A request that never drew a message id is never delivered. -/
theorem deliveriesOf_none
    (history : History publisher requests outcomes)
    {index : ℕ}
    (callAt : history.calls[index]? = some none)
    {outcome : PublishOutcome}
    (made : outcomes[index]? = some outcome)
    (outputs : List (BufferEvent × Delivery)) :
    outcome.deliveriesOf outputs = 0 := by
  obtain ⟨request, found, _, foundAt, rfl⟩ := history.outcome_eq made
  rw [callAt, Option.some.injEq] at foundAt
  subst foundAt
  rw [PublishOutcome.deliveriesOf, List.countP_eq_zero]
  intro output _
  cases output.1 <;> simp [PublishOutcome.sentEvent, publishOutcome]

/-- A call that reports failure is never delivered. -/
theorem deliveriesOf_failed
    (history : History publisher requests outcomes)
    (few : requests.length < 2 ^ 32)
    (sent : ∀ event ∈ events, event.SentIn outcomes)
    (ran : run (tagged (ReassemblyBuffer.step reassemblyTimeoutMs))
      ReassemblyBuffer.empty events = .ok (final, outputs))
    {outcome : PublishOutcome}
    (member : outcome ∈ outcomes)
    (failed : outcome.returned = false) :
    outcome.deliveriesOf outputs = 0 := by
  obtain ⟨index, made⟩ := List.mem_iff_getElem?.mp member
  obtain ⟨request, found, _, callAt, outcomeEq⟩ := history.outcome_eq made
  cases found with
  | none => exact history.deliveriesOf_none callAt made outputs
  | some call =>
      obtain ⟨times, _, counted, bound⟩ :=
        history.outputsOf_call few sent ran callAt made
      rw [outcomeEq] at failed
      obtain ⟨fragNum, inside, unsent⟩ := unsent_of_failed failed
      have atMost := bound fragNum inside
      rw [PublishOutcome.copiesOf_of_none (outcomeEq ▸ unsent)] at atMost
      omega

/-- A call is delivered at most as often as any of its fragments arrived. -/
theorem deliveriesOf_le_copiesOf
    (history : History publisher requests outcomes)
    (wellFormed : publisher.WellFormed)
    (few : requests.length < 2 ^ 32)
    (fits : ∀ request ∈ requests, request.Fits publisher)
    (sent : ∀ event ∈ events, event.SentIn outcomes)
    (ran : run (tagged (ReassemblyBuffer.step reassemblyTimeoutMs))
      ReassemblyBuffer.empty events = .ok (final, outputs))
    {index : ℕ}
    {request : PublishRequest}
    (requestAt : requests[index]? = some request)
    {serialized : ByteString}
    (payload : request.serialized = some serialized)
    {outcome : PublishOutcome}
    (made : outcomes[index]? = some outcome)
    {count : ℕ}
    (counted : publisher.numFragmentsCalc
      (namespaced publisher.name request.topic).length serialized.length =
        .ok count)
    {fragNum : ℕ}
    (inside : fragNum < count) :
    outcome.deliveriesOf outputs ≤ outcome.copiesOf fragNum events := by
  obtain ⟨_, found, _, callAt, _⟩ := history.outcome_eq made
  cases found with
  | none =>
      rw [history.deliveriesOf_none callAt made outputs]
      exact Nat.zero_le _
  | some call =>
      obtain ⟨source, sourceAt, ofRequest⟩ := history.ofRequest index call callAt
      rw [requestAt, Option.some.injEq] at sourceAt
      subst sourceAt
      have computed := Fits.numFragmentsCalc_eq wellFormed
        (fits request (List.mem_of_getElem? requestAt)) payload
      rw [counted, Except.ok.injEq] at computed
      have samePayload := ofRequest.serialized_eq
      rw [payload, Option.some.injEq] at samePayload
      have countEq : call.fragmentCount = count := by
        rw [computed, samePayload, ← ofRequest.name_eq, ← ofRequest.topic_eq,
          ← ofRequest.mtu_eq]
        rfl
      obtain ⟨times, _, timesEq, bound⟩ :=
        history.outputsOf_call few sent ran callAt made
      rw [timesEq]
      exact bound fragNum (countEq ▸ inside)

/-- Without duplicated datagrams no call is delivered twice. -/
theorem deliveriesOf_le_one
    (history : History publisher requests outcomes)
    (few : requests.length < 2 ^ 32)
    (sent : ∀ event ∈ events, event.SentIn outcomes)
    (ran : run (tagged (ReassemblyBuffer.step reassemblyTimeoutMs))
      ReassemblyBuffer.empty events = .ok (final, outputs))
    (once : ∀ data, events.countP (BufferEvent.carries data) ≤ 1)
    {outcome : PublishOutcome}
    (member : outcome ∈ outcomes) :
    outcome.deliveriesOf outputs ≤ 1 := by
  obtain ⟨index, made⟩ := List.mem_iff_getElem?.mp member
  obtain ⟨_, found, _, callAt, _⟩ := history.outcome_eq made
  cases found with
  | none =>
      rw [history.deliveriesOf_none callAt made outputs]
      exact Nat.zero_le _
  | some call =>
      obtain ⟨times, _, timesEq, bound⟩ :=
        history.outputsOf_call few sent ran callAt made
      have atMost := bound 0 call.fragmentCount_pos
      rw [timesEq]
      cases sentAt : outcome.sent[0]? with
      | none =>
          rw [PublishOutcome.copiesOf_of_none sentAt] at atMost
          omega
      | some data =>
          rw [PublishOutcome.copiesOf_of_some sentAt] at atMost
          exact atMost.trans (once data)

end Publisher.History

/-- Whatever the network does to the datagrams of one publisher, and whenever
cleanups run, the subscriber delivers only the publisher's own messages, each at
most as often as every one of its fragments arrived. -/
theorem single_sender_deliveries
    (name : ByteString)
    {mtu : ℕ}
    (mtu_lt : mtu < 2 ^ 64)
    (socket : Int)
    (addressValid : Bool)
    {requests : List PublishRequest}
    (few : requests.length < 2 ^ 32)
    (fits : ∀ request ∈ requests,
      request.Fits (Publisher.create name mtu socket addressValid))
    (short : ∀ request ∈ requests,
      (namespaced name request.topic).length ≤ 65535) :
    ∃ outcomes,
      (Publisher.create name mtu socket addressValid).publishAll requests =
          .ok outcomes ∧
        ∀ (reassemblyTimeoutMs : Int) (events : List BufferEvent),
          (∀ event ∈ events, event.SentIn outcomes) →
          ∃ final outputs,
            run (tagged (ReassemblyBuffer.step reassemblyTimeoutMs))
                ReassemblyBuffer.empty events = .ok (final, outputs) ∧
              (∀ output ∈ outputs,
                ∃ (index : ℕ) (request : PublishRequest)
                    (serialized : ByteString) (outcome : PublishOutcome),
                  requests[index]? = some request ∧
                    request.serialized = some serialized ∧
                    outcomes[index]? = some outcome ∧
                    outcome.sentEvent output.1 = true ∧
                    output.2 = ⟨namespaced name request.topic, serialized⟩) ∧
              (∀ (index : ℕ) (request : PublishRequest)
                  (serialized : ByteString) (outcome : PublishOutcome)
                  (count fragNum : ℕ),
                requests[index]? = some request →
                request.serialized = some serialized →
                outcomes[index]? = some outcome →
                (Publisher.create name mtu socket
                  addressValid).numFragmentsCalc
                    (namespaced name request.topic).length serialized.length =
                      .ok count →
                fragNum < count →
                outcome.deliveriesOf outputs ≤
                  outcome.copiesOf fragNum events) ∧
              ((∀ data, events.countP (BufferEvent.carries data) ≤ 1) →
                ∀ outcome ∈ outcomes, outcome.deliveriesOf outputs ≤ 1) ∧
              ∀ outcome ∈ outcomes, outcome.returned = false →
                outcome.deliveriesOf outputs = 0 := by
  have wellFormed :=
    Publisher.create_wellFormed name mtu_lt socket addressValid
  obtain ⟨outcomes, published⟩ := Publisher.publishAll_ok wellFormed fits
  obtain ⟨history⟩ := Publisher.publishAll_history wellFormed
    (fun request member => (fits request member).toSized) published
  refine ⟨outcomes, published, ?_⟩
  intro reassemblyTimeoutMs events sent
  obtain ⟨final, outputs, ran⟩ := history.run_ok reassemblyTimeoutMs sent
  refine ⟨final, outputs, ran, ?_, ?_, ?_, ?_⟩
  · intro output member
    exact history.delivery_of_request few short sent ran member
  · intro index request serialized outcome count fragNum requestAt payload made
      counted inside
    exact history.deliveriesOf_le_copiesOf wellFormed few fits sent ran requestAt
      payload made counted inside
  · intro once outcome member
    exact history.deliveriesOf_le_one few sent ran once member
  · intro outcome member failed
    exact history.deliveriesOf_failed few sent ran member failed

/-- A publisher whose second call fails after its first fragment: whatever
arrives of its datagrams, that call is not delivered. -/
theorem single_sender_deliveries_failed_call :
    ∃ outcomes,
      (Publisher.create [65] 20 3 true).publishAll
          [⟨[66], some [1, 2, 3, 4, 5, 6, 7], fun _ => true⟩,
            ⟨[66], some [1, 2, 3, 4, 5, 6, 7], fun fragNum => fragNum = 0⟩] =
          .ok outcomes ∧
        ∀ events : List BufferEvent,
          (∀ event ∈ events, event.SentIn outcomes) →
          ∃ final outputs,
            run (tagged (ReassemblyBuffer.step 1000)) ReassemblyBuffer.empty
                events = .ok (final, outputs) ∧
              ∀ outcome ∈ outcomes, outcome.returned = false →
                outcome.deliveriesOf outputs = 0 := by
  have fits : ∀ request ∈ ([⟨[66], some [1, 2, 3, 4, 5, 6, 7], fun _ => true⟩,
        ⟨[66], some [1, 2, 3, 4, 5, 6, 7], fun fragNum => fragNum = 0⟩] :
          List PublishRequest),
      request.Fits (Publisher.create [65] 20 3 true) ∧
        (namespaced [65] request.topic).length ≤ 65535 := by
    intro request member
    simp only [List.mem_cons, List.not_mem_nil, or_false] at member
    rcases member with rfl | rfl
    all_goals
      refine ⟨⟨⟨by simp [Publisher.create], ?_⟩, by decide⟩, by decide⟩
      intro serialized same
      rw [← Option.some.inj same]
      simp
  obtain ⟨outcomes, published, delivered⟩ :=
    single_sender_deliveries [65] (by norm_num : 20 < 2 ^ 64) 3 true
      (by simp) (fun request member => (fits request member).1)
      (fun request member => (fits request member).2)
  refine ⟨outcomes, published, fun events sent => ?_⟩
  obtain ⟨final, outputs, ran, _, _, _, failed⟩ := delivered 1000 events sent
  exact ⟨final, outputs, ran, failed⟩

end PubSub
end StarterCpp
