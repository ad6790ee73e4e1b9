import StarterCpp.PubSub.Reassembly

/-!
# The reassembly buffer as one publish call sees it

A run of the reassembly buffer over datagrams and cleanups is, for any one
publish call whose message id no other call in the run uses, a run of the
collector of the call's fragments.  The events of the collector are the
arrivals of the call's datagrams, in their order, with a discard wherever a
cleanup erased the call's entry; and each of its completions is one delivery of
the call's topic and payload.
-/

namespace StarterCpp
namespace PubSub

namespace BufferEvent

/-- Whether an event is the arrival of the given bytes. -/
def carries (data : ByteString) : BufferEvent → Bool
  | .datagram arrived _ => arrived = data
  | .cleanup _ => false

/-- The message id in the header of a datagram. -/
def messageId? : BufferEvent → Option UInt32
  | .datagram data _ => some (FragmentHeader.ofBytes data).messageId
  | .cleanup _ => none

end BufferEvent

/-- The outputs caused by datagrams that carry a message id. -/
def outputsOf
    {Output : Type*}
    (messageId : UInt32)
    (outputs : List (BufferEvent × Output)) : List Output :=
  (outputs.filter fun output => output.1.messageId? = some messageId).map
    Prod.snd

theorem outputsOf_append
    {Output : Type*}
    (messageId : UInt32)
    (outputs moreOutputs : List (BufferEvent × Output)) :
    outputsOf messageId (outputs ++ moreOutputs) =
      outputsOf messageId outputs ++ outputsOf messageId moreOutputs := by
  simp [outputsOf]

theorem outputsOf_tagged_self
    {Output : Type*}
    {messageId : UInt32}
    {event : BufferEvent}
    (same : event.messageId? = some messageId)
    (emitted : List Output) :
    outputsOf messageId (emitted.map (Prod.mk event)) = emitted := by
  unfold outputsOf
  rw [List.filter_eq_self.mpr (by simp [same]), List.map_map]
  exact List.map_id emitted

theorem outputsOf_tagged_other
    {Output : Type*}
    {messageId : UInt32}
    {event : BufferEvent}
    (different : event.messageId? ≠ some messageId)
    (emitted : List Output) :
    outputsOf messageId (emitted.map (Prod.mk event)) = [] := by
  simp [outputsOf, different]

namespace PublishCall

variable {call : PublishCall}

/-- The fragment number of an event that carries the call's message id. -/
def fragmentOf (call : PublishCall) : BufferEvent → Option ℕ
  | .datagram data _ =>
      if (FragmentHeader.ofBytes data).messageId = call.messageId then
        some (FragmentHeader.ofBytes data).fragmentNum.toNat
      else none
  | .cleanup _ => none

/-- An event that can stand in a run next to the call: one of its datagrams, a
datagram of another message id that stays in range, or a cleanup. -/
def Beside (call : PublishCall) : BufferEvent → Prop
  | .datagram data _ =>
      (∃ fragNum, fragNum < call.fragmentCount ∧
        data = call.datagram fragNum) ∨
      ((FragmentHeader.ofBytes data).messageId ≠ call.messageId ∧
        (FragmentHeader.ofBytes data).fragmentNum.toNat <
          (FragmentHeader.ofBytes data).totalFragments.toNat)
  | .cleanup _ => True

/-- The events of the call's collector that a run of the buffer amounts to. -/
structure SeenAs
    (call : PublishCall)
    (events : List BufferEvent)
    (seen : List (Collector.Event ℕ)) : Prop where
  arrivals : seen.filterMap Collector.Event.item? =
    events.filterMap call.fragmentOf
  discards : .discard ∈ seen → ∃ now, .cleanup now ∈ events

theorem SeenAs.append
    {events moreEvents : List BufferEvent}
    {seen moreSeen : List (Collector.Event ℕ)}
    (first : call.SeenAs events seen)
    (second : call.SeenAs moreEvents moreSeen) :
    call.SeenAs (events ++ moreEvents) (seen ++ moreSeen) := by
  refine ⟨?_, ?_⟩
  · rw [List.filterMap_append, List.filterMap_append, first.arrivals,
      second.arrivals]
  · intro discarded
    rcases List.mem_append.mp discarded with early | late
    · obtain ⟨now, cleaned⟩ := first.discards early
      exact ⟨now, List.mem_append_left _ cleaned⟩
    · obtain ⟨now, cleaned⟩ := second.discards late
      exact ⟨now, List.mem_append_right _ cleaned⟩

/-- An event of another message id is nothing to the call. -/
theorem SeenAs.none
    {event : BufferEvent}
    (other : call.fragmentOf event = none) :
    call.SeenAs [event] [] :=
  ⟨by simp [other], by simp⟩

theorem SeenAs.arrive
    {event : BufferEvent}
    {fragNum : ℕ}
    (arrived : call.fragmentOf event = some fragNum) :
    call.SeenAs [event] [.arrive fragNum] :=
  ⟨by simp [arrived], by simp⟩

theorem SeenAs.discard (now : Int) :
    call.SeenAs [.cleanup now] [.discard] :=
  ⟨rfl, fun _ => ⟨now, List.mem_cons_self⟩⟩

theorem fragmentOf_datagram
    {fragNum : ℕ}
    (inside : fragNum < call.fragmentCount)
    (now : Int) :
    call.fragmentOf (.datagram (call.datagram fragNum) now) = some fragNum := by
  simp [fragmentOf, fragmentNum_datagram inside]

/-- An event that brings a fragment of the call is one of its datagrams. -/
theorem Beside.of_fragmentOf
    {event : BufferEvent}
    (beside : call.Beside event)
    {fragNum : ℕ}
    (brings : call.fragmentOf event = some fragNum) :
    fragNum < call.fragmentCount ∧
      ∃ now, event = .datagram (call.datagram fragNum) now := by
  cases event with
  | cleanup now => simp [fragmentOf] at brings
  | datagram data now =>
      rcases beside with ⟨number, inside, rfl⟩ | ⟨different, _⟩
      · rw [fragmentOf_datagram inside, Option.some.injEq] at brings
        subst brings
        exact ⟨inside, now, rfl⟩
      · simp [fragmentOf, different] at brings

/-- One event next to a call is a step of the buffer that the call sees as steps
of its collector. -/
theorem Collected.step
    {buffer : ReassemblyBuffer}
    (valid : buffer.Valid)
    {held : Finset ℕ}
    (collected : call.Collected buffer held)
    (reassemblyTimeoutMs : Int)
    {event : BufferEvent}
    (beside : call.Beside event) :
    ∃ next emitted seen,
      buffer.step reassemblyTimeoutMs event = .ok (next, emitted) ∧
        next.Valid ∧ call.SeenAs [event] seen ∧
        call.Collected next (Collector.gather call.needed held seen).1 ∧
        outputsOf call.messageId (emitted.map (Prod.mk event)) =
          List.replicate (Collector.gather call.needed held seen).2
            call.delivery := by
  cases event with
  | datagram data now =>
      rcases beside with ⟨fragNum, inside, rfl⟩ | ⟨different, inRange⟩
      · obtain ⟨next, processed, collectedNext, _⟩ :=
          collected.process valid inside now
        refine ⟨next, _, [.arrive fragNum], processed,
          ReassemblyBuffer.processFragment_valid valid processed,
          SeenAs.arrive (fragmentOf_datagram inside now), collectedNext, ?_⟩
        rw [outputsOf_tagged_self (by simp [BufferEvent.messageId?])]
        simp only [Collector.gather_cons, Collector.gather_nil]
        split_ifs <;> rfl
      · obtain ⟨⟨next, emitted⟩, processed⟩ :=
          (ReassemblyBuffer.processFragment_ok_iff valid data now).mpr
            (Or.inr (Or.inl inRange))
        refine ⟨next, emitted, [], processed,
          ReassemblyBuffer.processFragment_valid valid processed,
          SeenAs.none (by simp [fragmentOf, different]), ?_, ?_⟩
        · exact collected.congr (ReassemblyBuffer.processFragment_frame valid
            processed (Ne.symm different))
        · rw [outputsOf_tagged_other (by simpa [BufferEvent.messageId?])]
          rfl
  | cleanup now =>
      have validNext := ReassemblyBuffer.cleanupStaleMessages_valid valid
        reassemblyTimeoutMs now
      rcases collected.cleanup reassemblyTimeoutMs now with kept | dropped
      · exact ⟨_, [], [], rfl, validNext, SeenAs.none rfl, kept, rfl⟩
      · exact ⟨_, [], [.discard], rfl, validNext, SeenAs.discard now, dropped,
          rfl⟩

/-- A run of the buffer next to a call is a run of the call's collector, and its
completions are the deliveries that the call's datagrams cause. -/
theorem Collected.run
    {buffer : ReassemblyBuffer}
    (valid : buffer.Valid)
    {held : Finset ℕ}
    (collected : call.Collected buffer held)
    (reassemblyTimeoutMs : Int)
    {events : List BufferEvent}
    (beside : ∀ event ∈ events, call.Beside event) :
    ∃ final outputs seen,
      StarterCpp.run (tagged (ReassemblyBuffer.step reassemblyTimeoutMs)) buffer
          events = .ok (final, outputs) ∧
        final.Valid ∧ call.SeenAs events seen ∧
        call.Collected final (Collector.gather call.needed held seen).1 ∧
        outputsOf call.messageId outputs =
          List.replicate (Collector.gather call.needed held seen).2
            call.delivery := by
  induction events generalizing buffer held with
  | nil => exact ⟨buffer, [], [], rfl, valid, ⟨rfl, by simp⟩, collected, rfl⟩
  | cons event events inductionHypothesis =>
      obtain ⟨next, emitted, seen, stepped, validNext, seenAs, collectedNext,
        delivered⟩ := collected.step valid reassemblyTimeoutMs
          (beside event List.mem_cons_self)
      obtain ⟨final, outputs, seenLater, ran, validFinal, seenAsLater,
        collectedFinal, deliveredLater⟩ := inductionHypothesis validNext
          collectedNext fun later member =>
            beside later (List.mem_cons_of_mem event member)
      refine ⟨final, _, seen ++ seenLater,
        Run.run_cons_ok (Run.tagged_ok stepped) ran, validFinal,
        seenAs.append seenAsLater, ?_, ?_⟩
      · rw [Collector.gather_append]
        exact collectedFinal
      · rw [Collector.gather_append, outputsOf_append, delivered,
          deliveredLater, List.replicate_append_replicate]

end PublishCall

/-! ## Where datagrams come from -/

/-- A datagram that a publish call of a well-formed publisher sent under the
given message id. -/
def SentByCall (data : ByteString) (messageId : UInt32) : Prop :=
  ∃ publisher request next outcome,
    Publisher.WellFormed publisher ∧ request.Sized publisher ∧
      publisher.messageIdCounter = messageId ∧
      publisher.publish request = .ok (next, outcome) ∧ data ∈ outcome.sent

theorem SentByCall.of_sent
    {publisher : Publisher}
    (wellFormed : publisher.WellFormed)
    {request : PublishRequest}
    (sized : request.Sized publisher)
    {sent : List ByteString}
    (evaluated : (publisher.publish request).map
      (fun result => result.2.sent) = .ok sent)
    {data : ByteString}
    (member : data ∈ sent) :
    SentByCall data publisher.messageIdCounter := by
  cases published : publisher.publish request with
  | error fault => simp [published, Except.map] at evaluated
  | ok result =>
      obtain ⟨next, outcome⟩ := result
      rw [published] at evaluated
      obtain rfl := Except.ok.inj evaluated
      exact ⟨publisher, request, next, outcome, wellFormed, sized, rfl,
        published, member⟩

theorem SentByCall.exists_call
    {data : ByteString}
    {messageId : UInt32}
    (sentBy : SentByCall data messageId) :
    ∃ (call : PublishCall) (fragNum : ℕ), call.messageId = messageId ∧
      fragNum < call.fragmentCount ∧ data = call.datagram fragNum := by
  obtain ⟨publisher, request, next, outcome, wellFormed, sized, rfl, published,
    sent⟩ := sentBy
  rcases Publisher.publish_inv wellFormed sized published with
    ⟨_, rfl⟩ | ⟨call, _, drawn, _, rfl⟩
  · simp [publishOutcome] at sent
  · obtain ⟨fragNum, inside, rfl⟩ := mem_sent sent
    exact ⟨call, fragNum, drawn, inside, rfl⟩

/-- A datagram that a publish call sent is a fragment of a call all of whose
fragments some publish call sends. -/
theorem SentByCall.exists_whole_call
    {data : ByteString}
    {messageId : UInt32}
    (sentBy : SentByCall data messageId) :
    ∃ (call : PublishCall) (fragNum : ℕ), call.messageId = messageId ∧
      fragNum < call.fragmentCount ∧ data = call.datagram fragNum ∧
      ∀ other, other < call.fragmentCount →
        SentByCall (call.datagram other) messageId := by
  obtain ⟨publisher, request, next, outcome, wellFormed, sized, rfl, published,
    sent⟩ := sentBy
  have opened : ¬(publisher.socket < 0 ∨ publisher.running = false) := by
    intro closed
    rw [Publisher.publish, if_pos closed, Except.ok.injEq,
      Prod.mk.injEq] at published
    rw [← published.2] at sent
    simp at sent
  rcases Publisher.publish_inv wellFormed sized published with
    ⟨_, rfl⟩ | ⟨call, ofRequest, drawn, _, rfl⟩
  · simp [publishOutcome] at sent
  obtain ⟨fragNum, inside, rfl⟩ := mem_sent sent
  refine ⟨call, fragNum, drawn, inside, rfl, fun other otherInside => ?_⟩
  -- The same request, with every datagram accepted, becomes the same call.
  let accepting : PublishRequest := { request with sendto := fun _ => true }
  have sizedAll : accepting.Sized publisher :=
    ⟨sized.topic_lt, sized.serialized_lt⟩
  have topicFits := call.topicFits
  have fragmentsFit := call.fragmentsFit
  rw [ofRequest.name_eq, ofRequest.mtu_eq, ofRequest.topic_eq]
    at topicFits fragmentsFit
  have fits : accepting.Fits publisher := ⟨sizedAll, topicFits⟩
  have counted := Publisher.Fits.numFragmentsCalc_eq wellFormed fits
    ofRequest.serialized_eq
  obtain ⟨same, sameRequest, sameDrawn, _, publishedAll⟩ :=
    Publisher.publish_call wellFormed fits opened ofRequest.serialized_eq counted
      fragmentsFit
  have callEq : same = call :=
    sameRequest.eq ofRequest rfl rfl (sameDrawn.trans drawn.symm)
  rw [callEq] at publishedAll
  refine ⟨publisher, accepting, _, _, wellFormed, sizedAll, rfl, publishedAll,
    ?_⟩
  rw [publishOutcome_of_accepted fun _ => rfl]
  exact List.mem_map.mpr ⟨other, List.mem_range.mpr otherInside, rfl⟩

/-- An event that the outcomes of publish calls explain: one of the datagrams
sent, or a cleanup. -/
def BufferEvent.SentIn (outcomes : List PublishOutcome) : BufferEvent → Prop
  | .datagram data _ => ∃ outcome ∈ outcomes, data ∈ outcome.sent
  | .cleanup _ => True

namespace Publisher.History

variable {publisher : Publisher}
variable {requests : List PublishRequest}
variable {outcomes : List PublishOutcome}

/-- Every datagram on the wire is a fragment of the call at some index. -/
theorem exists_call_of_sent
    (history : History publisher requests outcomes)
    {outcome : PublishOutcome}
    {index : ℕ}
    (made : outcomes[index]? = some outcome)
    {data : ByteString}
    (sent : data ∈ outcome.sent) :
    ∃ call fragNum, history.calls[index]? = some (some call) ∧
      fragNum < call.fragmentCount ∧ data = call.datagram fragNum := by
  obtain ⟨fragNum, sentAt⟩ := List.mem_iff_getElem?.mp sent
  obtain ⟨call, callAt, inside, rfl⟩ := history.sent_eq made sentAt
  exact ⟨call, fragNum, callAt, inside, rfl⟩

/-- Every event that the outcomes explain is in range of a valid buffer. -/
theorem eventInRange
    (history : History publisher requests outcomes)
    {event : BufferEvent}
    (sentIn : event.SentIn outcomes)
    (buffer : ReassemblyBuffer) :
    buffer.EventInRange event := by
  cases event with
  | cleanup now => trivial
  | datagram data now =>
      obtain ⟨outcome, member, sentBy⟩ := sentIn
      obtain ⟨index, made⟩ := List.mem_iff_getElem?.mp member
      obtain ⟨call, fragNum, _, inside, rfl⟩ :=
        history.exists_call_of_sent made sentBy
      refine Or.inr (Or.inl ?_)
      rwa [PublishCall.fragmentNum_datagram inside,
        PublishCall.totalFragments_datagram]

/-- The traffic of well-formed calls never faults the reassembly buffer. -/
theorem run_ok
    (history : History publisher requests outcomes)
    (reassemblyTimeoutMs : Int)
    {events : List BufferEvent}
    (sent : ∀ event ∈ events, event.SentIn outcomes) :
    ∃ final outputs,
      run (tagged (ReassemblyBuffer.step reassemblyTimeoutMs))
        ReassemblyBuffer.empty events = .ok (final, outputs) := by
  have stepOk : ∀ (buffer : ReassemblyBuffer) (event : BufferEvent),
      buffer.Valid → event.SentIn outcomes →
      ∃ next emitted,
        tagged (ReassemblyBuffer.step reassemblyTimeoutMs) buffer event =
          .ok (next, emitted) ∧ next.Valid := by
    intro buffer event valid sentIn
    obtain ⟨⟨next, emitted⟩, stepped⟩ :=
      (ReassemblyBuffer.step_ok_iff valid reassemblyTimeoutMs event).mpr
        (history.eventInRange sentIn buffer)
    exact ⟨next, _, Run.tagged_ok stepped,
      ReassemblyBuffer.step_valid valid stepped⟩
  obtain ⟨final, outputs, ran, _⟩ :=
    Run.run_ok_of_forall stepOk ReassemblyBuffer.empty_valid sent
  exact ⟨final, outputs, ran⟩

end Publisher.History
end PubSub
end StarterCpp
