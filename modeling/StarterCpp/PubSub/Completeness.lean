import StarterCpp.PubSub.Traffic

/-!
# Complete reassembly

When every datagram of a publish call reaches the subscriber, in any order, with
duplicates before the message is complete and among datagrams of calls with
other message ids, the subscribed handler is called exactly once for it, with
the namespaced topic and the serialized message.
-/

namespace StarterCpp
namespace PubSub

/-- A buffer that some run of the subscriber leads to. -/
def ReassemblyBuffer.Reachable (buffer : ReassemblyBuffer) : Prop :=
  ∃ reassemblyTimeoutMs events deliveries,
    run (ReassemblyBuffer.step reassemblyTimeoutMs) ReassemblyBuffer.empty
      events = .ok (buffer, deliveries)

theorem ReassemblyBuffer.Reachable.valid
    {buffer : ReassemblyBuffer}
    (reachable : buffer.Reachable) :
    buffer.Valid := by
  obtain ⟨reassemblyTimeoutMs, events, deliveries, ran⟩ := reachable
  exact Run.invariant_of_run_ok
    (fun state event next emitted valid stepped => step_valid valid stepped)
    ReassemblyBuffer.empty_valid ran

/-- Arrivals that complete a message: datagrams of the message or of other
calls, no datagram of the message missing, and none arriving after the last
missing one. -/
structure CompletesMessage
    (sent : List ByteString)
    (messageId : UInt32)
    (events : List BufferEvent) : Prop where
  datagrams : ∀ event ∈ events, ∃ data now, event = .datagram data now ∧
    (data ∈ sent ∨ ∃ otherId, otherId ≠ messageId ∧ SentByCall data otherId)
  covering : ∀ data ∈ sent, events.any (BufferEvent.carries data)
  inTime : ∀ early data now late,
    events = early ++ .datagram data now :: late → data ∈ sent →
      ∃ missing ∈ sent, ¬early.any (BufferEvent.carries missing)

namespace CompletesMessage

variable {call : PublishCall}
variable {events : List BufferEvent}

/-- Every event of such arrivals stands next to the call. -/
theorem beside
    (completes : CompletesMessage
      ((List.range call.fragmentCount).map call.datagram) call.messageId events)
    {event : BufferEvent}
    (member : event ∈ events) :
    call.Beside event := by
  obtain ⟨data, now, rfl, sent | ⟨otherId, different, sentBy⟩⟩ :=
    completes.datagrams event member
  · obtain ⟨fragNum, inside, rfl⟩ := List.mem_map.mp sent
    exact Or.inl ⟨fragNum, List.mem_range.mp inside, rfl⟩
  · obtain ⟨other, fragNum, rfl, inside, rfl⟩ := sentBy.exists_call
    refine Or.inr ⟨?_, ?_⟩
    · rwa [PublishCall.messageId_datagram]
    · rwa [PublishCall.fragmentNum_datagram inside,
        PublishCall.totalFragments_datagram]

/-- The collector of the call completes once on such arrivals. -/
theorem gather_eq
    (completes : CompletesMessage
      ((List.range call.fragmentCount).map call.datagram) call.messageId
      events) :
    Collector.gather call.needed ∅
        ((events.filterMap call.fragmentOf).map .arrive) = (∅, 1) := by
  apply Collector.gather_once
  · rw [Finset.ssubset_iff_subset_ne]
    refine ⟨Finset.empty_subset _, Ne.symm (Finset.nonempty_iff_ne_empty.mp ?_)⟩
    exact ⟨0, Finset.mem_range.mpr call.fragmentCount_pos⟩
  · intro fragNum member
    obtain ⟨event, arrived, brings⟩ := List.mem_filterMap.mp member
    exact Finset.mem_range.mpr
      ((completes.beside arrived).of_fragmentOf brings).1
  · intro fragNum needed
    have inside := Finset.mem_range.mp needed
    have covered := completes.covering (call.datagram fragNum)
      (List.mem_map.mpr ⟨fragNum, List.mem_range.mpr inside, rfl⟩)
    obtain ⟨event, member, carries⟩ := List.any_eq_true.mp covered
    rw [Finset.empty_union, List.mem_toFinset, List.mem_filterMap]
    refine ⟨event, member, ?_⟩
    cases event with
    | cleanup now => simp [BufferEvent.carries] at carries
    | datagram data now =>
        simp only [BufferEvent.carries, decide_eq_true_eq] at carries
        rw [carries, PublishCall.fragmentOf_datagram inside]
  · intro earlyItems item lateItems split covered
    obtain ⟨early, rest, rfl, earlyEq, restEq⟩ :=
      List.filterMap_eq_append_iff.mp split
    obtain ⟨skipped, event, late, rfl, skippedNone, brings, _⟩ :=
      List.filterMap_eq_cons_iff.mp restEq
    have member : event ∈ early ++ (skipped ++ event :: late) := by simp
    obtain ⟨inside, now, rfl⟩ := (completes.beside member).of_fragmentOf brings
    obtain ⟨missing, missingSent, absent⟩ := completes.inTime
      (early ++ skipped) (call.datagram item) now late (by simp)
        (List.mem_map.mpr ⟨item, List.mem_range.mpr inside, rfl⟩)
    obtain ⟨number, numberInside, rfl⟩ := List.mem_map.mp missingSent
    have collected := covered
      (Finset.mem_range.mpr (List.mem_range.mp numberInside))
    rw [Finset.empty_union, List.mem_toFinset, ← earlyEq,
      List.mem_filterMap] at collected
    obtain ⟨source, sourceMember, sourceBrings⟩ := collected
    have sourceIn : source ∈
        early ++ (skipped ++ .datagram (call.datagram item) now :: late) :=
      List.mem_append_left _ sourceMember
    obtain ⟨_, arrival, rfl⟩ :=
      (completes.beside sourceIn).of_fragmentOf sourceBrings
    apply absent
    rw [List.any_eq_true]
    exact ⟨_, List.mem_append_left _ sourceMember, by simp [BufferEvent.carries]⟩

end CompletesMessage

/-- A run of the subscriber is a run of its buffer whose deliveries are handed
to the subscribed handlers. -/
theorem Subscriber.run_of_buffer
    {Handler : Type*}
    (subscriber : Subscriber Handler)
    {events : List BufferEvent}
    {buffer : ReassemblyBuffer}
    {deliveries : List (BufferEvent × Delivery)}
    (ran : run (tagged (ReassemblyBuffer.step subscriber.reassemblyTimeoutMs))
      subscriber.partialMessages events = .ok (buffer, deliveries)) :
    run (tagged Subscriber.step) subscriber events =
      .ok ({ subscriber with partialMessages := buffer },
        deliveries.flatMap fun caused =>
          (subscriber.deliverMessage caused.2).map (Prod.mk caused.1)) := by
  induction events generalizing subscriber deliveries with
  | nil =>
      simp only [Run.run_nil, Except.ok.injEq, Prod.mk.injEq] at ran
      obtain ⟨rfl, rfl⟩ := ran
      rfl
  | cons event events inductionHypothesis =>
      obtain ⟨next, emitted, later, stepped, rest, rfl⟩ := Run.run_cons_inv ran
      obtain ⟨delivered, first, rfl⟩ := Run.tagged_inv stepped
      have firstStep : subscriber.step event =
          .ok ({ subscriber with partialMessages := next },
            delivered.flatMap subscriber.deliverMessage) := by
        simp [Subscriber.step, first]
      have remaining := inductionHypothesis
        { subscriber with partialMessages := next } rest
      have joined := Run.run_cons_ok (Run.tagged_ok firstStep) remaining
      rw [joined, List.flatMap_append, List.flatMap_map, List.map_flatMap]
      rfl

/-- The handler calls that a message id's datagrams cause are those for the
deliveries that they cause. -/
theorem outputsOf_deliverMessage
    {Handler : Type*}
    (subscriber : Subscriber Handler)
    (messageId : UInt32)
    (deliveries : List (BufferEvent × Delivery)) :
    outputsOf messageId (deliveries.flatMap fun caused =>
        (subscriber.deliverMessage caused.2).map (Prod.mk caused.1)) =
      (outputsOf messageId deliveries).flatMap subscriber.deliverMessage := by
  induction deliveries with
  | nil => rfl
  | cons caused deliveries inductionHypothesis =>
      obtain ⟨event, delivery⟩ := caused
      rw [List.flatMap_cons, outputsOf_append, inductionHypothesis]
      by_cases same : event.messageId? = some messageId
      · rw [outputsOf_tagged_self same]
        simp [outputsOf, same]
      · rw [outputsOf_tagged_other same]
        simp [outputsOf, same]

/-- A publish call whose datagrams all arrive is delivered to its subscriber
exactly once, byte for byte, and leaves no entry behind. -/
theorem publish_delivered_once
    {publisher : Publisher}
    (wellFormed : publisher.WellFormed)
    (opened : ¬(publisher.socket < 0 ∨ publisher.running = false))
    {request : PublishRequest}
    (fits : request.Fits publisher)
    (short : (namespaced publisher.name request.topic).length ≤ 65535)
    {serialized : ByteString}
    (payload : request.serialized = some serialized)
    (accepted : ∀ fragNum, request.sendto fragNum = true)
    {count : ℕ}
    (counted : publisher.numFragmentsCalc
      (namespaced publisher.name request.topic).length serialized.length =
        .ok count)
    (few : count ≤ 65535)
    {Handler : Type*}
    {subscriber : Subscriber Handler}
    {handler : Handler}
    (reachable : subscriber.partialMessages.Reachable)
    (sameName : subscriber.name = publisher.name)
    (subscribed : subscriber.handlers
      (namespaced subscriber.name request.topic) = some (some handler))
    (absent : subscriber.partialMessages publisher.messageIdCounter = none) :
    ∃ next sent, publisher.publish request = .ok (next, ⟨true, sent⟩) ∧
      sent.length = count ∧
      ∀ events, CompletesMessage sent publisher.messageIdCounter events →
        ∃ final invocations,
          run (tagged Subscriber.step) subscriber events =
              .ok (final, invocations) ∧
            outputsOf publisher.messageIdCounter invocations =
              [⟨handler,
                ⟨namespaced publisher.name request.topic, serialized⟩⟩] ∧
            final.partialMessages publisher.messageIdCounter = none := by
  obtain ⟨call, ofRequest, drawn, callCount, published⟩ :=
    Publisher.publish_call wellFormed fits opened payload counted few
  rw [publishOutcome_of_accepted accepted] at published
  refine ⟨_, _, published, by simpa using callCount, ?_⟩
  intro events completes
  rw [← drawn] at completes absent ⊢
  have topicEq : call.namespacedTopic =
      namespaced publisher.name request.topic := by
    rw [PublishCall.namespacedTopic, ofRequest.name_eq, ofRequest.topic_eq]
  have serializedEq : call.serialized = serialized := by
    have same := ofRequest.serialized_eq
    rw [payload, Option.some.injEq] at same
    exact same.symm
  have deliveryEq : call.delivery =
      ⟨namespaced publisher.name request.topic, serialized⟩ := by
    rw [PublishCall.delivery_eq call (topicEq ▸ short), topicEq, serializedEq]
  have collected : call.Collected subscriber.partialMessages ∅ :=
    Or.inl ⟨rfl, absent⟩
  obtain ⟨buffer, deliveries, seen, ran, _, seenAs, collectedFinal, caused⟩ :=
    collected.run reachable.valid subscriber.reassemblyTimeoutMs
      fun event member => completes.beside member
  have undisturbed : .discard ∉ seen := by
    intro discarded
    obtain ⟨now, cleaned⟩ := seenAs.discards discarded
    obtain ⟨data, arrival, isDatagram, _⟩ := completes.datagrams _ cleaned
    simp at isDatagram
  have seenEq := Collector.eq_map_arrive undisturbed
  rw [seenAs.arrivals] at seenEq
  rw [seenEq, completes.gather_eq] at collectedFinal caused
  refine ⟨_, _, subscriber.run_of_buffer ran, ?_, ?_⟩
  · rw [outputsOf_deliverMessage, caused, deliveryEq]
    rw [sameName] at subscribed
    simp [Subscriber.deliverMessage, subscribed]
  · rcases collectedFinal with ⟨_, gone⟩ | ⟨nonempty, _⟩
    · exact gone
    · exact absurd nonempty (Finset.not_nonempty_empty)

/-- A two-fragment message whose second datagram arrives twice before the first
one is delivered once. -/
theorem publish_delivered_once_reordered :
    ∃ final invocations,
      run (tagged Subscriber.step)
          ((Subscriber.create [65] 1000).subscribe [66] (some 7))
          [.datagram [0, 0, 0, 0, 1, 0, 2, 0, 0, 0, 0, 0, 6, 7] 10,
            .datagram [0, 0, 0, 0, 1, 0, 2, 0, 0, 0, 0, 0, 6, 7] 20,
            .datagram [0, 0, 0, 0, 0, 0, 2, 0, 3, 0, 0, 0, 65, 47, 66, 1, 2, 3,
              4, 5] 30] = .ok (final, invocations) ∧
        outputsOf 0 invocations =
          [⟨7, ⟨[65, 47, 66], [1, 2, 3, 4, 5, 6, 7]⟩⟩] ∧
        final.partialMessages 0 = none := by
  let publisher := Publisher.create [65] 20 3 true
  let request : PublishRequest :=
    ⟨[66], some [1, 2, 3, 4, 5, 6, 7], fun _ => true⟩
  let subscriber : Subscriber ℕ :=
    (Subscriber.create [65] 1000).subscribe [66] (some 7)
  have fits : request.Fits publisher := by
    refine ⟨⟨by simp [publisher, request, Publisher.create], ?_⟩, by decide⟩
    intro serialized same
    rw [← Option.some.inj same]
    simp
  have counted : publisher.numFragmentsCalc
      (namespaced publisher.name request.topic).length 7 = .ok 2 := by
    decide
  have reachable : subscriber.partialMessages.Reachable := ⟨0, [], [], rfl⟩
  obtain ⟨next, sent, published, _, delivered⟩ :=
    publish_delivered_once
      (Publisher.create_wellFormed [65] (by norm_num : 20 < 2 ^ 64) 3 true)
      (by decide) fits (by decide) rfl (fun _ => rfl) counted (by decide)
      reachable
      rfl rfl rfl
  have evaluated : (publisher.publish request).map (fun result => result.2.sent) =
      .ok [[0, 0, 0, 0, 0, 0, 2, 0, 3, 0, 0, 0, 65, 47, 66, 1, 2, 3, 4, 5],
        [0, 0, 0, 0, 1, 0, 2, 0, 0, 0, 0, 0, 6, 7]] := by decide
  rw [published] at evaluated
  obtain rfl := Except.ok.inj evaluated
  apply delivered
  refine ⟨?_, ?_, ?_⟩
  · simp
  · decide
  · intro early data now late split member
    rcases early with _ | ⟨first, _ | ⟨second, _ | ⟨third, early⟩⟩⟩
    · exact ⟨_, List.mem_cons_self, by simp⟩
    · refine ⟨_, List.mem_cons_self, ?_⟩
      simp only [List.cons_append, List.cons.injEq] at split
      obtain ⟨rfl, _⟩ := split
      decide
    · refine ⟨_, List.mem_cons_self, ?_⟩
      simp only [List.cons_append, List.cons.injEq] at split
      obtain ⟨rfl, rfl, _⟩ := split
      decide
    · simp at split

end PubSub
end StarterCpp
