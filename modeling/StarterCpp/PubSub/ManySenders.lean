import StarterCpp.PubSub.Reassembly

/-!
# Several senders in one reassembly buffer

Every publisher numbers its messages from zero, and the buffer keys its entries
by that number alone.  A traced buffer also records, for each entry, which
publish calls supplied the fragments it stores.  As long as no step stores a
fragment of one call in an entry that holds fragments of another, every delivery
is the message of one publish call; two publishers that number a message alike
break this.
-/

namespace StarterCpp
namespace PubSub

/-- A publisher on the multicast group with the requests made of it. -/
structure Sender where
  name : ByteString
  mtu : ℕ
  socket : Int
  addressValid : Bool
  requests : List PublishRequest

/-- The publisher object as constructed. -/
def Sender.publisher (sender : Sender) : Publisher :=
  Publisher.create sender.name sender.mtu sender.socket sender.addressValid

/-- The topics of a sender fit its MTU and the header's length field. -/
structure Sender.Fits (sender : Sender) : Prop where
  mtu_lt : sender.mtu < 2 ^ 64
  requestFits : ∀ request ∈ sender.requests, request.Fits sender.publisher
  short : ∀ request ∈ sender.requests,
    (namespaced sender.name request.topic).length ≤ 65535

/-- A publish call on the group: the sender and the position of the request. -/
structure CallId where
  sender : ℕ
  request : ℕ
  deriving DecidableEq, Repr

/-- What reaches the subscriber, with the publish call each datagram is from. -/
inductive Arrival
  | datagram (source : CallId) (data : ByteString) (now : Int)
  | cleanup (now : Int)

/-- An arrival as the reassembly buffer sees it. -/
def Arrival.event : Arrival → BufferEvent
  | .datagram _ data now => .datagram data now
  | .cleanup now => .cleanup now

/-- A datagram was sent by the publish call it is attributed to. -/
def Arrival.SentBy (senders : List Sender) : Arrival → Prop
  | .datagram source data _ => ∃ sender outcomes outcome,
      senders[source.sender]? = some sender ∧
        sender.publisher.publishAll sender.requests = .ok outcomes ∧
        outcomes[source.request]? = some outcome ∧ data ∈ outcome.sent
  | .cleanup _ => True

/-- A reassembly buffer that remembers the publish calls whose fragments the
entry of each message id has stored. -/
structure TracedBuffer where
  buffer : ReassemblyBuffer
  suppliers : UInt32 → List CallId

/-- A delivery with the publish calls that supplied its fragments. -/
structure TracedDelivery where
  delivery : Delivery
  suppliers : List CallId
  deriving DecidableEq

namespace TracedBuffer

/-- The traced buffer of a subscriber that has received nothing. -/
def empty : TracedBuffer := ⟨ReassemblyBuffer.empty, fun _ => []⟩

/-- The suppliers of an entry after a datagram: a new entry has one, and a
duplicate supplies nothing. -/
def suppliersAfter
    (self : TracedBuffer)
    (source : CallId)
    (data : ByteString) : List CallId :=
  let header := FragmentHeader.ofBytes data
  match self.buffer header.messageId with
  | none => [source]
  | some entry =>
      if header.fragmentNum.toNat ∈ entry.receivedFragments then
        self.suppliers header.messageId
      else self.suppliers header.messageId ++ [source]

/-- One arrival at the traced buffer. -/
def step (reassemblyTimeoutMs : Int) (self : TracedBuffer) :
    Arrival → Except MemoryFault (TracedBuffer × List TracedDelivery)
  | .datagram source data now =>
      match self.buffer.processFragment data now with
      | .error fault => .error fault
      | .ok (next, deliveries) =>
          .ok (⟨next, Function.update self.suppliers
              (FragmentHeader.ofBytes data).messageId
              (self.suppliersAfter source data)⟩,
            deliveries.map fun delivery =>
              ⟨delivery, self.suppliersAfter source data⟩)
  | .cleanup now =>
      .ok (⟨self.buffer.cleanupStaleMessages reassemblyTimeoutMs now,
        self.suppliers⟩, [])

/-- Tracing changes nothing about the buffer and its deliveries. -/
theorem step_erases
    (reassemblyTimeoutMs : Int)
    (self : TracedBuffer)
    (arrival : Arrival) :
    (self.step reassemblyTimeoutMs arrival).map (fun result =>
        (result.1.buffer, result.2.map TracedDelivery.delivery)) =
      self.buffer.step reassemblyTimeoutMs arrival.event := by
  cases arrival with
  | cleanup now => rfl
  | datagram source data now =>
      simp only [step, Arrival.event, ReassemblyBuffer.step]
      cases self.buffer.processFragment data now with
      | error fault => rfl
      | ok result => simp [Except.map, Function.comp_def]

/-- A step stores no fragment next to fragments of another publish call: where
the entry of the datagram's id counts alike and lacks the fragment, all that it
has stored is from the same call. -/
def Unmixed (self : TracedBuffer) : Arrival → Prop
  | .datagram source data _ =>
      let header := FragmentHeader.ofBytes data
      ∀ entry, self.buffer header.messageId = some entry →
        entry.totalFragments = header.totalFragments.toNat →
        header.fragmentNum.toNat ∉ entry.receivedFragments →
        ∀ supplier ∈ self.suppliers header.messageId, supplier = source
  | .cleanup _ => True

instance (self : TracedBuffer) : ∀ arrival, Decidable (self.Unmixed arrival)
  | .datagram _ data _ =>
      inferInstanceAs (Decidable
        (∀ entry ∈ self.buffer (FragmentHeader.ofBytes data).messageId, _))
  | .cleanup _ => .isTrue trivial

end TracedBuffer

/-- A delivery is the message of one publish call, which supplied every fragment
of it. -/
def TracedDelivery.Intact (senders : List Sender) (traced : TracedDelivery) :
    Prop :=
  ∃ (source : CallId) (sender : Sender) (request : PublishRequest)
      (serialized : ByteString),
    senders[source.sender]? = some sender ∧
      sender.requests[source.request]? = some request ∧
      request.serialized = some serialized ∧
      traced.delivery = ⟨namespaced sender.name request.topic, serialized⟩ ∧
      ∀ supplier ∈ traced.suppliers, supplier = source

/-- A call carries the request at a place of the group. -/
def PublishCall.IsAt
    (call : PublishCall) (senders : List Sender) (source : CallId) : Prop :=
  ∃ sender request, senders[source.sender]? = some sender ∧
    sender.requests[source.request]? = some request ∧
    call.OfRequest sender.publisher request

/-- The request and the message id determine the call. -/
theorem PublishCall.IsAt.eq
    {senders : List Sender}
    {source : CallId}
    {call other : PublishCall}
    (callAt : call.IsAt senders source)
    (otherAt : other.IsAt senders source)
    (sameId : call.messageId = other.messageId) :
    call = other := by
  obtain ⟨sender, request, senderAt, requestAt, ofRequest⟩ := callAt
  obtain ⟨sender', request', senderAt', requestAt', ofRequest'⟩ := otherAt
  rw [senderAt, Option.some.injEq] at senderAt'
  subst senderAt'
  rw [requestAt, Option.some.injEq] at requestAt'
  subst requestAt'
  exact ofRequest.eq ofRequest' rfl rfl sameId

/-- A datagram attributed to a place of the group is a fragment of a call
there. -/
theorem Arrival.SentBy.exists_call
    {senders : List Sender}
    (fits : ∀ sender ∈ senders, sender.Fits)
    {source : CallId}
    {data : ByteString}
    {now : Int}
    (sentBy : (Arrival.datagram source data now).SentBy senders) :
    ∃ (call : PublishCall) (fragNum : ℕ), call.IsAt senders source ∧
      fragNum < call.fragmentCount ∧ data = call.datagram fragNum := by
  obtain ⟨sender, outcomes, outcome, senderAt, published, made, sent⟩ := sentBy
  have senderFits := fits sender (List.mem_of_getElem? senderAt)
  have wellFormed : sender.publisher.WellFormed :=
    Publisher.create_wellFormed sender.name senderFits.mtu_lt sender.socket
      sender.addressValid
  obtain ⟨history⟩ := Publisher.publishAll_history wellFormed
    (fun request member => (senderFits.requestFits request member).toSized)
    published
  obtain ⟨fragNum, sentAt⟩ := List.mem_iff_getElem?.mp sent
  obtain ⟨call, callAt, inside, rfl⟩ := history.sent_eq made sentAt
  obtain ⟨request, requestAt, ofRequest⟩ :=
    history.ofRequest source.request call callAt
  exact ⟨call, fragNum, ⟨sender, request, senderAt, requestAt, ofRequest⟩,
    inside, rfl⟩

namespace TracedBuffer

/-- Every entry of the buffer holds fragments of one publish call, its only
supplier. -/
structure Owned (senders : List Sender) (traced : TracedBuffer) : Prop where
  valid : traced.buffer.Valid
  owner : ∀ messageId entry, traced.buffer messageId = some entry →
    ∃ (source : CallId) (call : PublishCall) (held : Finset ℕ),
      call.IsAt senders source ∧ call.messageId = messageId ∧
        held.Nonempty ∧ call.Holds entry held ∧
        traced.suppliers messageId ≠ [] ∧
        ∀ supplier ∈ traced.suppliers messageId, supplier = source

variable {senders : List Sender}
variable {traced : TracedBuffer}

theorem empty_owned : empty.Owned senders := by
  refine ⟨ReassemblyBuffer.empty_valid, ?_⟩
  intro messageId entry found
  simp [empty, ReassemblyBuffer.empty] at found

/-- The message of a call at a place of the group is intact when the call is its
only supplier. -/
theorem intact_delivery
    (fits : ∀ sender ∈ senders, sender.Fits)
    {source : CallId}
    {call : PublishCall}
    (callAt : call.IsAt senders source)
    {suppliers : List CallId}
    (only : ∀ supplier ∈ suppliers, supplier = source) :
    TracedDelivery.Intact senders ⟨call.delivery, suppliers⟩ := by
  obtain ⟨sender, request, senderAt, requestAt, ofRequest⟩ := callAt
  have topicEq : call.namespacedTopic = namespaced sender.name request.topic := by
    rw [PublishCall.namespacedTopic, ofRequest.name_eq, ofRequest.topic_eq]
    rfl
  have short := (fits sender (List.mem_of_getElem? senderAt)).short request
    (List.mem_of_getElem? requestAt)
  refine ⟨source, sender, request, call.serialized, senderAt, requestAt,
    ofRequest.serialized_eq, ?_, only⟩
  change call.delivery = _
  rw [PublishCall.delivery_eq call (topicEq ▸ short), topicEq]

/-- The suppliers that a datagram leaves behind, where the datagram's call owns
the entry of its id or there is none. -/
theorem suppliersAfter_only
    {source : CallId}
    {data : ByteString}
    (only : ∀ entry,
      traced.buffer (FragmentHeader.ofBytes data).messageId = some entry →
      traced.suppliers (FragmentHeader.ofBytes data).messageId ≠ [] ∧
        ∀ supplier ∈ traced.suppliers (FragmentHeader.ofBytes data).messageId,
          supplier = source) :
    traced.suppliersAfter source data ≠ [] ∧
      ∀ supplier ∈ traced.suppliersAfter source data, supplier = source := by
  cases found : traced.buffer (FragmentHeader.ofBytes data).messageId with
  | none => simp [suppliersAfter, found]
  | some entry =>
      obtain ⟨nonempty, all⟩ := only entry found
      simp only [suppliersAfter, found]
      split_ifs with present
      · exact ⟨nonempty, all⟩
      · refine ⟨by simp, fun supplier member => ?_⟩
        rcases List.mem_append.mp member with earlier | new
        · exact all supplier earlier
        · exact List.mem_singleton.mp new

/-- Replacing the entry of one id by one that a single call owns, or by none,
keeps the other entries owned. -/
theorem Owned.update
    (owned : traced.Owned senders)
    {next : ReassemblyBuffer}
    (validNext : next.Valid)
    {messageId : UInt32}
    (frame : ∀ other, other ≠ messageId → next other = traced.buffer other)
    {suppliers : List CallId}
    (ownerNext : ∀ entry, next messageId = some entry →
      ∃ (source : CallId) (call : PublishCall) (held : Finset ℕ),
        call.IsAt senders source ∧ call.messageId = messageId ∧
          held.Nonempty ∧ call.Holds entry held ∧ suppliers ≠ [] ∧
          ∀ supplier ∈ suppliers, supplier = source) :
    Owned senders
      ⟨next, Function.update traced.suppliers messageId suppliers⟩ := by
  refine ⟨validNext, ?_⟩
  intro other entry found
  by_cases same : other = messageId
  · subst same
    obtain ⟨source, call, held, isAt, sameId, nonempty, holds, rest⟩ :=
      ownerNext entry found
    refine ⟨source, call, held, isAt, sameId, nonempty, holds, ?_⟩
    simpa using rest
  · have foundBefore := (frame other same).symm.trans found
    obtain ⟨source, call, held, isAt, sameId, nonempty, holds, rest⟩ :=
      owned.owner other entry foundBefore
    refine ⟨source, call, held, isAt, sameId, nonempty, holds, ?_⟩
    simpa [Function.update_of_ne same] using rest

/-- A datagram of the call that owns the entry of its id, or of a call without
an entry, keeps every entry owned and delivers only that call. -/
theorem Owned.step_own
    (fits : ∀ sender ∈ senders, sender.Fits)
    (owned : traced.Owned senders)
    (reassemblyTimeoutMs : Int)
    {source : CallId}
    {call : PublishCall}
    (callAt : call.IsAt senders source)
    {fragNum : ℕ}
    (inside : fragNum < call.fragmentCount)
    (now : Int)
    {held : Finset ℕ}
    (collected : call.Collected traced.buffer held)
    (only : ∀ entry, traced.buffer call.messageId = some entry →
      traced.suppliers call.messageId ≠ [] ∧
        ∀ supplier ∈ traced.suppliers call.messageId, supplier = source) :
    ∃ next emitted,
      traced.step reassemblyTimeoutMs
          (.datagram source (call.datagram fragNum) now) = .ok (next, emitted) ∧
        next.Owned senders ∧
        ∀ delivery ∈ emitted, delivery.Intact senders := by
  obtain ⟨next, processed, collectedNext, frame⟩ :=
    collected.process owned.valid inside now
  have validNext := ReassemblyBuffer.processFragment_valid owned.valid processed
  have suppliers : traced.suppliersAfter source (call.datagram fragNum) ≠ [] ∧
      ∀ supplier ∈ traced.suppliersAfter source (call.datagram fragNum),
        supplier = source := by
    apply suppliersAfter_only
    rwa [PublishCall.messageId_datagram]
  refine ⟨_, _, by rw [step, processed], ?_, ?_⟩
  · rw [PublishCall.messageId_datagram]
    apply owned.update validNext frame
    intro entry found
    rcases collectedNext with ⟨_, gone⟩ | ⟨nonempty, kept, keptAt, holds⟩
    · rw [gone] at found
      simp at found
    · rw [keptAt, Option.some.injEq] at found
      subst found
      exact ⟨source, call, _, callAt, rfl, nonempty, holds, suppliers.1,
        suppliers.2⟩
  · intro delivery member
    split_ifs at member with complete
    · simp only [List.map_cons, List.map_nil, List.mem_singleton] at member
      rw [member]
      exact intact_delivery fits callAt suppliers.2
    · exact absurd member List.not_mem_nil

/-- A datagram that erases the entry of its id, or leaves everything as it is,
keeps every entry owned. -/
theorem Owned.step_other
    (owned : traced.Owned senders)
    (reassemblyTimeoutMs : Int)
    (source : CallId)
    {data : ByteString}
    {now : Int}
    {entry : PartialMessage}
    (found : traced.buffer (FragmentHeader.ofBytes data).messageId = some entry)
    {next : ReassemblyBuffer}
    (processed : traced.buffer.processFragment data now = .ok (next, []))
    (unchanged : next (FragmentHeader.ofBytes data).messageId = none ∨
      (next = traced.buffer ∧
        (FragmentHeader.ofBytes data).fragmentNum.toNat ∈
          entry.receivedFragments)) :
    ∃ after, traced.step reassemblyTimeoutMs (.datagram source data now) =
        .ok (after, []) ∧ after.Owned senders := by
  refine ⟨_, by rw [step, processed]; rfl, ?_⟩
  have validNext := ReassemblyBuffer.processFragment_valid owned.valid processed
  apply owned.update validNext
  · intro other different
    exact ReassemblyBuffer.processFragment_frame owned.valid processed different
  · intro kept keptAt
    rcases unchanged with gone | ⟨rfl, present⟩
    · rw [gone] at keptAt
      simp at keptAt
    · have sameSuppliers : traced.suppliersAfter source data =
          traced.suppliers (FragmentHeader.ofBytes data).messageId := by
        simp [suppliersAfter, found, present]
      rw [sameSuppliers]
      exact owned.owner _ kept keptAt

/-- An unmixed arrival keeps every entry owned by one call and delivers only
intact messages. -/
theorem Owned.step
    (fits : ∀ sender ∈ senders, sender.Fits)
    (owned : traced.Owned senders)
    (reassemblyTimeoutMs : Int)
    {arrival : Arrival}
    (sentBy : arrival.SentBy senders)
    (unmixed : traced.Unmixed arrival) :
    ∃ next emitted,
      traced.step reassemblyTimeoutMs arrival = .ok (next, emitted) ∧
        next.Owned senders ∧
        ∀ delivery ∈ emitted, delivery.Intact senders := by
  cases arrival with
  | cleanup now =>
      refine ⟨_, [], rfl, ⟨ReassemblyBuffer.cleanupStaleMessages_valid
        owned.valid reassemblyTimeoutMs now, ?_⟩, by simp⟩
      intro messageId entry found
      exact owned.owner messageId entry
        (ReassemblyBuffer.some_of_cleanupStaleMessages found)
  | datagram source data now =>
      obtain ⟨call, fragNum, callAt, inside, rfl⟩ := sentBy.exists_call fits
      cases found : traced.buffer call.messageId with
      | none =>
          apply owned.step_own fits reassemblyTimeoutMs callAt inside now
            (Or.inl ⟨rfl, found⟩)
          intro entry foundEntry
          rw [found] at foundEntry
          simp at foundEntry
      | some entry =>
          obtain ⟨owner, ownCall, held, ownerAt, sameId, nonempty, holds,
            supplied, only⟩ := owned.owner call.messageId entry found
          by_cases agrees : entry.totalFragments = call.fragmentCount
          · by_cases present : fragNum ∈ entry.receivedFragments
            · have processed := PublishCall.process_duplicate owned.valid found
                agrees inside present now
              obtain ⟨next, stepped, ownedNext⟩ := owned.step_other
                reassemblyTimeoutMs source (by simpa using found) processed
                (Or.inr ⟨rfl, by
                  rwa [PublishCall.fragmentNum_datagram inside]⟩)
              exact ⟨next, [], stepped, ownedNext, by simp⟩
            · -- Storing the fragment: the entry's supplier is this very call.
              have sameSource : owner = source := by
                obtain ⟨supplier, member⟩ := List.exists_mem_of_ne_nil _ supplied
                rw [← only supplier member]
                apply unmixed entry (by simpa using found) (by simpa using agrees)
                · rwa [PublishCall.fragmentNum_datagram inside]
                · rwa [PublishCall.messageId_datagram]
              subst sameSource
              have sameCall := ownerAt.eq callAt sameId
              subst sameCall
              exact owned.step_own fits reassemblyTimeoutMs callAt inside now
                (Or.inr ⟨nonempty, entry, found, holds⟩)
                (fun _ _ => ⟨supplied, only⟩)
          · have processed := PublishCall.process_inconsistent owned.valid found
              agrees fragNum now
            obtain ⟨next, stepped, ownedNext⟩ := owned.step_other
              reassemblyTimeoutMs source (by simpa using found) processed
              (Or.inl (by simp))
            exact ⟨next, [], stepped, ownedNext, by simp⟩

end TracedBuffer

/-- Whatever the senders publish and however their datagrams arrive, a run that
never stores a fragment next to fragments of another call delivers only whole
messages of single publish calls. -/
theorem unmixed_deliveries_intact
    {senders : List Sender}
    (fits : ∀ sender ∈ senders, sender.Fits)
    (reassemblyTimeoutMs : Int)
    {arrivals : List Arrival}
    (sent : ∀ arrival ∈ arrivals, arrival.SentBy senders)
    (unmixed : EachStep (TracedBuffer.step reassemblyTimeoutMs)
      TracedBuffer.Unmixed TracedBuffer.empty arrivals) :
    ∃ final deliveries,
      run (TracedBuffer.step reassemblyTimeoutMs) TracedBuffer.empty arrivals =
          .ok (final, deliveries) ∧
        run (ReassemblyBuffer.step reassemblyTimeoutMs) ReassemblyBuffer.empty
            (arrivals.map Arrival.event) =
          .ok (final.buffer, deliveries.map TracedDelivery.delivery) ∧
        ∀ delivery ∈ deliveries, delivery.Intact senders := by
  have conditions : EachStep (TracedBuffer.step reassemblyTimeoutMs)
      (fun traced arrival => arrival.SentBy senders ∧ traced.Unmixed arrival)
      TracedBuffer.empty arrivals :=
    unmixed.and_forall sent
  obtain ⟨final, deliveries, ran, _, intact⟩ := Run.run_ok_of_eachStep
    (fun traced arrival owned condition =>
      TracedBuffer.Owned.step fits owned reassemblyTimeoutMs condition.1
        condition.2)
    TracedBuffer.empty_owned conditions
  exact ⟨final, deliveries, ran,
    Run.run_map (TracedBuffer.step_erases reassemblyTimeoutMs) ran, intact⟩

/-! ## Two senders that number a message alike -/

/-- Two senders under different names, each with one message of two fragments:
both messages draw id zero. -/
def collidingSenders : List Sender :=
  [⟨[65], 20, 3, true,
      [⟨[66], some [1, 2, 3, 4, 5, 6, 7], fun _ => true⟩]⟩,
    ⟨[67], 20, 3, true,
      [⟨[66], some [11, 12, 13, 14, 15, 16, 17], fun _ => true⟩]⟩]

theorem collidingSenders_fits : ∀ sender ∈ collidingSenders, sender.Fits := by
  intro sender member
  simp only [collidingSenders, List.mem_cons, List.not_mem_nil,
    or_false] at member
  rcases member with rfl | rfl
  all_goals
    refine ⟨by norm_num, ?_, ?_⟩
    all_goals
      intro request member
      rw [List.mem_singleton] at member
      subst member
    · refine ⟨⟨by simp [Sender.publisher, Publisher.create], ?_⟩, by decide⟩
      intro serialized same
      rw [← Option.some.inj same]
      simp
    · decide

/-- The message of the first sender arrives with its second fragment first, and the
message of the second sender arrives after it. -/
def oneAfterTheOther : List Arrival :=
  [.datagram ⟨0, 0⟩ [0, 0, 0, 0, 1, 0, 2, 0, 0, 0, 0, 0, 6, 7] 10,
    .datagram ⟨0, 0⟩ [0, 0, 0, 0, 0, 0, 2, 0, 3, 0, 0, 0, 65, 47, 66, 1, 2, 3, 4, 5] 20,
    .datagram ⟨1, 0⟩ [0, 0, 0, 0, 0, 0, 2, 0, 3, 0, 0, 0, 67, 47, 66, 11, 12, 13, 14,
      15] 30,
    .datagram ⟨1, 0⟩ [0, 0, 0, 0, 1, 0, 2, 0, 0, 0, 0, 0, 16, 17] 40]

/-- Both messages have id zero, and both are delivered intact. -/
theorem unmixed_deliveries_intact_one_after_the_other :
    ∃ final,
      run (TracedBuffer.step 1000) TracedBuffer.empty oneAfterTheOther =
          .ok (final,
            [⟨⟨[65, 47, 66], [1, 2, 3, 4, 5, 6, 7]⟩, [⟨0, 0⟩, ⟨0, 0⟩]⟩,
              ⟨⟨[67, 47, 66], [11, 12, 13, 14, 15, 16, 17]⟩, [⟨1, 0⟩, ⟨1, 0⟩]⟩]) ∧
        ∀ delivery ∈
            ([⟨⟨[65, 47, 66], [1, 2, 3, 4, 5, 6, 7]⟩, [⟨0, 0⟩, ⟨0, 0⟩]⟩,
              ⟨⟨[67, 47, 66], [11, 12, 13, 14, 15, 16, 17]⟩, [⟨1, 0⟩, ⟨1, 0⟩]⟩] :
                List TracedDelivery),
          delivery.Intact collidingSenders := by
  have sent : ∀ arrival ∈ oneAfterTheOther, arrival.SentBy collidingSenders := by
    intro arrival member
    simp only [oneAfterTheOther, List.mem_cons, List.not_mem_nil, or_false] at member
    rcases member with rfl | rfl | rfl | rfl
    all_goals exact ⟨_, _, _, rfl, rfl, rfl, by decide⟩
  have unmixed : EachStep (TracedBuffer.step 1000) TracedBuffer.Unmixed
      TracedBuffer.empty oneAfterTheOther := by
    decide +kernel
  have delivered : ∃ final,
      run (TracedBuffer.step 1000) TracedBuffer.empty oneAfterTheOther =
        .ok (final,
          [⟨⟨[65, 47, 66], [1, 2, 3, 4, 5, 6, 7]⟩, [⟨0, 0⟩, ⟨0, 0⟩]⟩,
            ⟨⟨[67, 47, 66], [11, 12, 13, 14, 15, 16, 17]⟩, [⟨1, 0⟩, ⟨1, 0⟩]⟩]) :=
    ⟨_, rfl⟩
  obtain ⟨final, delivered⟩ := delivered
  obtain ⟨reached, deliveries, ran, _, intact⟩ :=
    unmixed_deliveries_intact collidingSenders_fits 1000 sent unmixed
  obtain ⟨rfl, rfl⟩ := Prod.mk.inj (Except.ok.inj (ran.symm.trans delivered))
  exact ⟨reached, delivered, intact⟩

/-- The first fragment of one sender's message and the second fragment of the
other's are delivered as one message, which nobody published. -/
theorem colliding_senders_mix :
    (∀ arrival ∈
        ([.datagram ⟨0, 0⟩ [0, 0, 0, 0, 0, 0, 2, 0, 3, 0, 0, 0, 65, 47, 66, 1, 2,
            3, 4, 5] 10,
          .datagram ⟨1, 0⟩ [0, 0, 0, 0, 1, 0, 2, 0, 0, 0, 0, 0, 16, 17] 20] :
            List Arrival), arrival.SentBy collidingSenders) ∧
      ∃ final,
        run (TracedBuffer.step 1000) TracedBuffer.empty
            [.datagram ⟨0, 0⟩ [0, 0, 0, 0, 0, 0, 2, 0, 3, 0, 0, 0, 65, 47, 66, 1,
                2, 3, 4, 5] 10,
              .datagram ⟨1, 0⟩ [0, 0, 0, 0, 1, 0, 2, 0, 0, 0, 0, 0, 16, 17]
                20] =
          .ok (final, [⟨⟨[65, 47, 66], [1, 2, 3, 4, 5, 16, 17]⟩,
            [⟨0, 0⟩, ⟨1, 0⟩]⟩]) ∧
        ¬TracedDelivery.Intact collidingSenders
          ⟨⟨[65, 47, 66], [1, 2, 3, 4, 5, 16, 17]⟩, [⟨0, 0⟩, ⟨1, 0⟩]⟩ := by
  refine ⟨?_, _, rfl, ?_⟩
  · intro arrival member
    simp only [List.mem_cons, List.not_mem_nil, or_false] at member
    rcases member with rfl | rfl
    · exact ⟨_, _, _, rfl, rfl, rfl, by decide⟩
    · exact ⟨_, _, _, rfl, rfl, rfl, by decide⟩
  · rintro ⟨source, sender, request, serialized, _, _, _, _, only⟩
    have first := only ⟨0, 0⟩ (by simp)
    have second := only ⟨1, 0⟩ (by simp)
    rw [← first] at second
    simp at second

end PubSub
end StarterCpp
