import StarterCpp.PubSub.Reassembly

/-!
# Which publish calls stay inside their buffers

A publish call is in order when it makes no access outside a buffer and no
division by zero, can make its packet buffer, and either sends nothing and returns
false or sends datagrams that fit the MTU, announce the topic's length and carry the
whole message.  The constructor checks no MTU and `publish` no topic, and a refused
fragment ends a message that has begun; the exact condition is given here.
-/

namespace StarterCpp
namespace PubSub

/-- The vectors that can be made: none of `2 ^ 63` bytes or more, and of the shorter
ones those that the memory has room for. -/
structure Memory where
  allocates : ℕ → Bool
  bounded : ∀ size, allocates size = true → size < 2 ^ 63

/-- How a call of `publish` ends that does not return. -/
inductive PublishFault
  | access (fault : MemoryFault)
  /-- `std::length_error` or `std::bad_alloc` -/
  | allocation
  deriving DecidableEq, Repr

namespace Publisher

/-- `publish` up to `std::vector<uint8_t> packet(_mtu)`, which throws if there is no such
vector. -/
def publishIn (self : Publisher) (memory : Memory) (request : PublishRequest) :
    Except PublishFault (Publisher × PublishOutcome) :=
  if self.socket < 0 ∨ self.running = false then .ok (self, ⟨false, []⟩)
  else
    match request.serialized with
    | none => .ok (self, ⟨false, []⟩)
    | some serialized => do
        let numFragments ← (self.numFragmentsCalc
          (namespaced self.name request.topic).length serialized.length).mapError .access
        if 65535 < numFragments then pure (self, ⟨false, []⟩)
        else if memory.allocates self.mtu then (self.publish request).mapError .access
        else throw .allocation

end Publisher

/-- What a call of `publish` has put on the wire is a message in order: datagrams
within the MTU, of which the first announces and carries the whole topic, and whose
payload parts are the message. -/
structure PublishOutcome.Carries
    (outcome : PublishOutcome)
    (mtu : ℕ)
    (namespacedTopic serialized : ByteString) : Prop where
  withinMtu : ∀ data ∈ outcome.sent, data.length ≤ mtu
  topic : ∀ data, outcome.sent.head? = some data →
    (FragmentHeader.ofBytes data).topicLen.toNat = namespacedTopic.length ∧
      (data.drop FragmentHeader.size).take namespacedTopic.length =
        namespacedTopic
  payload : (outcome.sent.map ReassemblyBuffer.contentOf).flatten = serialized

/-- A call of `publish` is in order: it stays inside its buffers, and either
sends nothing and returns false or carries its message. -/
def PublishesInOrder
    (memory : Memory)
    (publisher : Publisher)
    (request : PublishRequest) : Prop :=
  ∃ next outcome, publisher.publishIn memory request = .ok (next, outcome) ∧
    ((outcome.returned = false ∧ outcome.sent = []) ∨
      ∃ serialized, request.serialized = some serialized ∧
        outcome.Carries publisher.mtu
          (namespaced publisher.name request.topic) serialized)

namespace PublishCall

variable {call : PublishCall} {request : PublishRequest}

/-- The payload parts on the wire are those of the fragments up to the one that
`sendto` refuses. -/
theorem contents_sent :
    (publishOutcome request (some call)).sent.map ReassemblyBuffer.contentOf =
      ((List.range call.fragmentCount).takeWhile request.sendto).map call.content := by
  rw [publishOutcome, List.map_map]
  apply List.map_congr_left
  intro fragNum taken
  have accepted : (List.range call.fragmentCount).takeWhile request.sendto <+:
      List.range call.fragmentCount :=
    List.takeWhile_prefix request.sendto
  exact contentOf_datagram (List.mem_range.mp (accepted.subset taken))

/-- Every fragment after the first has some of the payload. -/
theorem content_ne_nil
    {fragNum : ℕ}
    (later : fragNum < call.laterFragments) :
    call.content (fragNum + 1) ≠ [] := by
  have start := call.offset_lt_serialized later
  have positive := call.maxPayload_pos
  apply List.ne_nil_of_length_pos
  simp only [content, piece, Nat.succ_ne_zero, if_false, List.nil_append,
    Pieces.piece_succ, List.length_take, List.length_drop]
  omega

/-- The fragments that `sendto` accepts carry the whole payload only if they are all
of them. -/
theorem accepted_of_flatten
    (first : request.sendto 0 = true)
    (whole : (((List.range call.fragmentCount).takeWhile request.sendto).map
      call.content).flatten = call.wirePayload)
    {fragNum : ℕ}
    (inside : fragNum < call.fragmentCount) :
    request.sendto fragNum = true := by
  by_contra refused
  obtain ⟨later, rfl⟩ : ∃ later, fragNum = later + 1 := by
    cases fragNum with
    | zero => exact absurd first refused
    | succ later => exact ⟨later, rfl⟩
  let rest := (List.range call.fragmentCount).dropWhile request.sendto
  have split : (List.range call.fragmentCount).takeWhile request.sendto ++ rest =
      List.range call.fragmentCount :=
    List.takeWhile_append_dropWhile
  have unsent : later + 1 ∈ rest := by
    have member : later + 1 ∈ List.range call.fragmentCount := List.mem_range.mpr inside
    rw [← split] at member
    refine (List.mem_append.mp member).resolve_left fun taken => ?_
    exact refused (List.mem_takeWhile_imp taken)
  have nothing : (rest.map call.content).flatten = [] := by
    have both := call.flatten_content
    rw [← split, List.map_append, List.flatten_append, whole] at both
    simpa using both
  have empty := List.flatten_eq_nil_iff.mp nothing _ (List.mem_map_of_mem unsent)
  exact content_ne_nil (Nat.lt_of_succ_lt_succ inside) empty

/-- Once `sendto` accepts the first fragment, it is on the wire first. -/
theorem head?_sent
    (first : request.sendto 0 = true) :
    (publishOutcome request (some call)).sent.head? = some (call.datagram 0) := by
  rw [publishOutcome, fragmentCount, List.range_succ_eq_map, List.takeWhile_cons,
    if_pos first]
  rfl

/-- When `sendto` refuses the first fragment, nothing is sent. -/
theorem publishOutcome_of_refused
    (refused : request.sendto 0 = false) :
    publishOutcome request (some call) = ⟨false, []⟩ := by
  simp [publishOutcome, fragmentCount, List.range_succ_eq_map, refused]

/-- A call all of whose fragments are accepted carries its message, if the topic fits
its length field. -/
theorem carries
    (short : call.namespacedTopic.length ≤ 65535)
    (accepted : ∀ fragNum < call.fragmentCount, request.sendto fragNum = true) :
    (publishOutcome request (some call)).Carries call.mtu call.namespacedTopic
      call.serialized := by
  have uncut : call.namespacedTopic.length % 65536 =
      call.namespacedTopic.length := Nat.mod_eq_of_lt (by omega)
  have payload : call.wirePayload = call.serialized := by
    simp [wirePayload, uncut]
  constructor
  case withinMtu =>
    intro data sent
    obtain ⟨fragNum, _, rfl⟩ := mem_sent sent
    exact call.length_datagram_le fragNum
  case topic =>
    intro data first
    rw [head?_sent (accepted 0 call.fragmentCount_pos), Option.some.injEq] at first
    obtain rfl := first
    refine ⟨by rw [topicLen_datagram, uncut], ?_⟩
    rw [drop_datagram]
    simp [body]
  case payload =>
    have all : (List.range call.fragmentCount).takeWhile request.sendto =
        List.range call.fragmentCount :=
      List.takeWhile_eq_self_iff.mpr fun fragNum member =>
        accepted fragNum (List.mem_range.mp member)
    rw [contents_sent, all, call.flatten_content, payload]

/-- What a call puts on the wire carries its message only if the topic fits its length
field and `sendto` accepts all fragments. -/
theorem accepted_of_carries
    (first : request.sendto 0 = true)
    (carried : (publishOutcome request (some call)).Carries call.mtu
      call.namespacedTopic call.serialized) :
    call.namespacedTopic.length ≤ 65535 ∧
      ∀ fragNum < call.fragmentCount, request.sendto fragNum = true := by
  have short : call.namespacedTopic.length ≤ 65535 := by
    have announced := (carried.topic _ (head?_sent first)).1
    rw [topicLen_datagram] at announced
    omega
  have payload : call.wirePayload = call.serialized := by
    simp [wirePayload, Nat.mod_eq_of_lt (by omega : call.namespacedTopic.length < 65536)]
  refine ⟨short, fun fragNum inside => accepted_of_flatten first ?_ inside⟩
  rw [← contents_sent, carried.payload, payload]

/-- A call that draws a message id sends nothing or carries its message exactly when
`sendto` refuses the first fragment, or the topic fits its length field and no fragment
is refused. -/
theorem sends_or_carries_iff :
    ((publishOutcome request (some call)).returned = false ∧
          (publishOutcome request (some call)).sent = [] ∨
        (publishOutcome request (some call)).Carries call.mtu call.namespacedTopic
          call.serialized) ↔
      request.sendto 0 = false ∨ call.namespacedTopic.length ≤ 65535 ∧
        ∀ fragNum < call.fragmentCount, request.sendto fragNum = true := by
  cases first : request.sendto 0 with
  | false => simp [publishOutcome_of_refused first]
  | true =>
      have sends : (publishOutcome request (some call)).sent ≠ [] := by
        intro empty
        have head := (head?_sent first : (publishOutcome request (some call)).sent.head? = _)
        rw [empty] at head
        cases head
      constructor
      · rintro (⟨_, empty⟩ | carried)
        · exact absurd empty sends
        · exact .inr (accepted_of_carries first carried)
      · rintro (refused | ⟨short, accepted⟩)
        · cases refused
        · exact .inr (carries short accepted)

end PublishCall

/-- The message has a fragment of a number, counted from zero. -/
def HasFragment (mtu topicSize totalPayloadSize fragNum : ℕ) : Prop :=
  fragNum * (mtu - FragmentHeader.size) < topicSize + totalPayloadSize

instance (mtu topicSize totalPayloadSize fragNum : ℕ) :
    Decidable (HasFragment mtu topicSize totalPayloadSize fragNum) :=
  inferInstanceAs (Decidable (_ < _))

/-- The message takes more fragments than the header can number. -/
def TooManyFragments (mtu topicSize totalPayloadSize : ℕ) : Prop :=
  HasFragment mtu topicSize totalPayloadSize 65535

instance (mtu topicSize totalPayloadSize : ℕ) :
    Decidable (TooManyFragments mtu topicSize totalPayloadSize) :=
  inferInstanceAs (Decidable (HasFragment _ _ _ _))

theorem hasFragment_iff
    {mtu topicSize totalPayloadSize : ℕ}
    (topicPositive : 0 < topicSize)
    (topicFits : topicSize ≤ mtu - FragmentHeader.size)
    (fragNum : ℕ) :
    fragNum < laterFragmentsOf (mtu - FragmentHeader.size) topicSize
        totalPayloadSize + 1 ↔
      HasFragment mtu topicSize totalPayloadSize fragNum := by
  unfold HasFragment laterFragmentsOf
  have positive : 0 < mtu - FragmentHeader.size := by omega
  rw [Nat.lt_add_one_iff, Nat.le_div_iff_mul_le positive]
  cases fragNum with
  | zero => omega
  | succ fragNum =>
      have beyond : mtu - FragmentHeader.size ≤
          (fragNum + 1) * (mtu - FragmentHeader.size) :=
        Nat.le_mul_of_pos_left _ fragNum.succ_pos
      omega

namespace Publisher

variable {publisher : Publisher} {request : PublishRequest}

/-- A topic that does not fit is never reported as taking too many fragments:
the wrapped space takes nearly any payload. -/
theorem numFragmentsCalc_of_unfit
    (wellFormed : publisher.WellFormed)
    {topicSize totalPayloadSize : ℕ}
    (topicBounded : topicSize < 2 ^ 63)
    (totalBounded : totalPayloadSize < 2 ^ 63)
    (unfit : ¬topicSize ≤ publisher.mtu - FragmentHeader.size) :
    ∃ count, publisher.numFragmentsCalc topicSize totalPayloadSize =
      .ok count ∧ count ≤ 65535 := by
  have bounded := wellFormed.mtu_lt
  have maxPayload := wellFormed.maxPayload_eq
  have headerSize : FragmentHeader.size = 12 := rfl
  unfold numFragmentsCalc firstFragPayloadSpace
  by_cases long : sizeSub publisher.maxPayloadPerFragment topicSize <
      totalPayloadSize
  · -- Only an MTU below the header size leaves less space than a payload.
    have nearlyAll : 2 ^ 63 < publisher.maxPayloadPerFragment := by
      unfold sizeSub at long maxPayload
      omega
    have quotient : sizeSub (sizeAdd (sizeSub totalPayloadSize
        (sizeSub publisher.maxPayloadPerFragment topicSize))
          publisher.maxPayloadPerFragment) 1 /
            publisher.maxPayloadPerFragment < 2 := by
      apply Nat.div_lt_of_lt_mul
      have wrapped : sizeSub (sizeAdd (sizeSub totalPayloadSize
          (sizeSub publisher.maxPayloadPerFragment topicSize))
            publisher.maxPayloadPerFragment) 1 < 2 ^ 64 :=
        Nat.mod_lt _ (by decide)
      omega
    rw [if_pos long]
    simp only [if_neg (show publisher.maxPayloadPerFragment ≠ 0 by omega)]
    refine ⟨_, rfl, ?_⟩
    rw [sizeAdd_of_lt (by omega)]
    omega
  · rw [if_neg long]
    exact ⟨1, rfl, by decide⟩

/-- A call on an open publisher whose topic does not fit the MTU writes out of
range. -/
theorem publish_faults
    (wellFormed : publisher.WellFormed)
    (sized : request.Sized publisher)
    (opened : ¬(publisher.socket < 0 ∨ publisher.running = false))
    {serialized : ByteString}
    (payload : request.serialized = some serialized)
    (unfit : ¬(namespaced publisher.name request.topic).length ≤
      publisher.mtu - FragmentHeader.size) :
    publisher.publish request = .error .outOfRange := by
  have totalBounded := sized.serialized_lt serialized payload
  obtain ⟨count, counted, few⟩ := numFragmentsCalc_of_unfit wellFormed
    sized.topic_lt totalBounded unfit
  have positive := numFragmentsCalc_ne_zero totalBounded counted
  obtain ⟨more, rfl⟩ := Nat.exists_eq_succ_of_ne_zero positive
  have faulted := publisher.fillFragment_unfit
    (namespaced publisher.name request.topic) serialized
    publisher.messageIdCounter (more + 1)
    (by simpa using unfit :
      ¬_ ≤ (List.replicate publisher.mtu (0 : UInt8)).length - _)
  rw [publish, if_neg opened, payload]
  change (publisher.numFragmentsCalc _ _ >>= _) = _
  rw [counted]
  change (if 65535 < more + 1 then _ else _) = _
  rw [if_neg (Nat.not_lt.mpr few), sendFragments, faulted]
  rfl

variable {memory : Memory}

/-- A call that is closed sends nothing. -/
theorem publishesInOrder_of_closed
    (closed : publisher.socket < 0 ∨ publisher.running = false) :
    PublishesInOrder memory publisher request :=
  ⟨publisher, ⟨false, []⟩, if_pos closed, Or.inl ⟨rfl, rfl⟩⟩

/-- A call whose message does not serialize sends nothing. -/
theorem publishesInOrder_of_unserialized
    (serializes : request.serialized = none) :
    PublishesInOrder memory publisher request := by
  refine ⟨publisher, ⟨false, []⟩, ?_, Or.inl ⟨rfl, rfl⟩⟩
  rw [publishIn, serializes]
  exact ite_self _

/-- What is left to do once the fragments are counted. -/
theorem publishIn_of_counted
    (opened : ¬(publisher.socket < 0 ∨ publisher.running = false))
    {payload : ByteString}
    (serializes : request.serialized = some payload)
    {count : ℕ}
    (counted : publisher.numFragmentsCalc
      (namespaced publisher.name request.topic).length payload.length = .ok count) :
    publisher.publishIn memory request =
      if 65535 < count then .ok (publisher, ⟨false, []⟩)
      else if memory.allocates publisher.mtu then
        (publisher.publish request).mapError .access
      else .error .allocation := by
  rw [publishIn, if_neg opened, serializes]
  change ((publisher.numFragmentsCalc _ _).mapError PublishFault.access >>= _) = _
  rw [counted]
  change (if 65535 < count then _ else _) = _
  split_ifs <;> rfl

/-- A call that draws a message id is in order exactly when its packet buffer can be
made and what it sends is nothing or its message. -/
theorem publishesInOrder_of_published
    {call : PublishCall}
    (ofRequest : call.OfRequest publisher request)
    (left : publisher.publishIn memory request =
      if memory.allocates publisher.mtu then
        (publisher.publish request).mapError .access
      else .error .allocation)
    (published : publisher.publish request =
      .ok ({ publisher with
        messageIdCounter := publisher.messageIdCounter + 1 },
          publishOutcome request (some call))) :
    PublishesInOrder memory publisher request ↔
      memory.allocates publisher.mtu = true ∧
        (request.sendto 0 = false ∨
          (namespaced publisher.name request.topic).length ≤ 65535 ∧
            ∀ fragNum < call.fragmentCount, request.sendto fragNum = true) := by
  have topicEq : call.namespacedTopic =
      namespaced publisher.name request.topic := by
    rw [PublishCall.namespacedTopic, ofRequest.name_eq, ofRequest.topic_eq]
  rw [← topicEq, ← PublishCall.sends_or_carries_iff, topicEq, ofRequest.mtu_eq]
  cases allocated : memory.allocates publisher.mtu with
  | false =>
      rw [allocated] at left
      simp [PublishesInOrder, left]
  | true =>
      have ran : publisher.publishIn memory request =
          .ok ({ publisher with
            messageIdCounter := publisher.messageIdCounter + 1 },
              publishOutcome request (some call)) := by
        rw [left, allocated, published]
        rfl
      simp [PublishesInOrder, ran, ofRequest.serialized_eq]

/-- On an open publisher, a call whose message serializes and whose topic does not fit
the first fragment is not in order. -/
theorem not_publishesInOrder_of_unfit
    (wellFormed : publisher.WellFormed)
    (opened : ¬(publisher.socket < 0 ∨ publisher.running = false))
    (sized : request.Sized publisher)
    {payload : ByteString}
    (serializes : request.serialized = some payload)
    (unfit : ¬(namespaced publisher.name request.topic).length ≤
      publisher.mtu - FragmentHeader.size) :
    ¬PublishesInOrder memory publisher request := by
  obtain ⟨count, counted, few⟩ := numFragmentsCalc_of_unfit wellFormed sized.topic_lt
    (sized.serialized_lt payload serializes) unfit
  have faulted := publish_faults wellFormed sized opened serializes unfit
  rintro ⟨next, outcome, published, _⟩
  rw [publishIn_of_counted opened serializes counted, if_neg (Nat.not_lt.mpr few),
    faulted] at published
  split_ifs at published
  cases published

/-- On an open publisher, a call whose message serializes is in order exactly when
the topic fits the first fragment and either no fragment numbering holds the message
or the packet buffer can be made and the message is refused at once or carried. -/
theorem publishesInOrder_of_opened
    (wellFormed : publisher.WellFormed)
    (opened : ¬(publisher.socket < 0 ∨ publisher.running = false))
    (sized : request.Sized publisher)
    {payload : ByteString}
    (serializes : request.serialized = some payload) :
    PublishesInOrder memory publisher request ↔
      (namespaced publisher.name request.topic).length + FragmentHeader.size ≤
          publisher.mtu ∧
        (TooManyFragments publisher.mtu
            (namespaced publisher.name request.topic).length payload.length ∨
          memory.allocates publisher.mtu = true ∧
            (request.sendto 0 = false ∨
              (namespaced publisher.name request.topic).length ≤ 65535 ∧
                ∀ fragNum, HasFragment publisher.mtu
                    (namespaced publisher.name request.topic).length payload.length
                      fragNum → request.sendto fragNum = true)) := by
  have topicPositive : 0 < (namespaced publisher.name request.topic).length := by simp
  by_cases fits : (namespaced publisher.name request.topic).length ≤
      publisher.mtu - FragmentHeader.size
  · have behind : (namespaced publisher.name request.topic).length +
        FragmentHeader.size ≤ publisher.mtu := by omega
    rw [and_iff_right behind]
    have fitting : request.Fits publisher := ⟨sized, fits⟩
    have counted := Fits.numFragmentsCalc_eq wellFormed fitting serializes
    have numbered : ∀ fragNum, fragNum < laterFragmentsOf _ _ payload.length + 1 ↔
        HasFragment _ _ _ fragNum :=
      hasFragment_iff topicPositive fits
    have left : publisher.publishIn memory request = _ :=
      publishIn_of_counted opened serializes counted
    by_cases many : 65535 < laterFragmentsOf (publisher.mtu - FragmentHeader.size)
        (namespaced publisher.name request.topic).length payload.length + 1
    · refine iff_of_true ?_ (.inl ((numbered 65535).mp many))
      rw [if_pos many] at left
      exact ⟨publisher, ⟨false, []⟩, left, Or.inl ⟨rfl, rfl⟩⟩
    · have notMany : ¬TooManyFragments publisher.mtu
          (namespaced publisher.name request.topic).length payload.length :=
        fun tooMany => many ((numbered 65535).mpr tooMany)
      rw [or_iff_right notMany]
      rw [if_neg many] at left
      obtain ⟨call, ofRequest, _, callCount, published⟩ :=
        publish_call wellFormed fitting opened serializes counted (Nat.not_lt.mp many)
      rw [publishesInOrder_of_published ofRequest left published, callCount]
      simp only [numbered]
  · refine iff_of_false ?_ (fun condition => ?_)
    · exact not_publishesInOrder_of_unfit wellFormed opened sized serializes fits
    · omega

/-- A call of `publish` is in order exactly when the constructor failed, the message
does not serialize, or the topic fits the first fragment and either the message takes
too many fragments, or the packet buffer can be made and `sendto` refuses the first
fragment, or the topic fits its length field and `sendto` refuses none. -/
theorem publishesInOrder_iff
    (memory : Memory)
    (name : ByteString)
    {mtu : ℕ}
    (mtu_lt : mtu < 2 ^ 64)
    (socket : Int)
    (addressValid : Bool)
    (counter : UInt32)
    (request : PublishRequest)
    (topic_lt : (namespaced name request.topic).length < 2 ^ 63)
    (serialized_lt : ∀ payload, request.serialized = some payload →
      payload.length < 2 ^ 63) :
    PublishesInOrder memory
        { create name mtu socket addressValid with messageIdCounter := counter }
        request ↔
      socket < 0 ∨ addressValid = false ∨
        ∀ payload, request.serialized = some payload →
          (namespaced name request.topic).length + FragmentHeader.size ≤ mtu ∧
            (TooManyFragments mtu (namespaced name request.topic).length
                payload.length ∨
              memory.allocates mtu = true ∧
                (request.sendto 0 = false ∨
                  (namespaced name request.topic).length ≤ 65535 ∧
                    ∀ fragNum, HasFragment mtu (namespaced name request.topic).length
                        payload.length fragNum → request.sendto fragNum = true)) := by
  let publisher : Publisher :=
    { create name mtu socket addressValid with messageIdCounter := counter }
  have wellFormed : publisher.WellFormed := ⟨mtu_lt, rfl⟩
  by_cases closed : socket < 0 ∨ addressValid = false
  · have shut : publisher.socket < 0 ∨ publisher.running = false := by
      rcases closed with failed | invalid
      · exact Or.inl (by simp [publisher, create, failed])
      · exact Or.inr (by simp [publisher, create, invalid])
    exact iff_of_true (publishesInOrder_of_closed shut) (by tauto)
  · have opened : ¬(publisher.socket < 0 ∨ publisher.running = false) := by
      obtain ⟨created, valid⟩ := not_or.mp closed
      have addressTrue : addressValid = true := by simpa using valid
      simp [publisher, create, addressTrue, created, Int.not_lt.mp created]
    rw [← or_assoc, or_iff_right closed]
    cases serializes : request.serialized with
    | none => exact iff_of_true (publishesInOrder_of_unserialized serializes) (by simp)
    | some payload =>
        simp only [Option.some.injEq, forall_eq']
        have sized : request.Sized publisher := ⟨topic_lt, serialized_lt⟩
        exact publishesInOrder_of_opened wellFormed opened sized serializes

/-- A memory with room for every vector that the standard library allows. -/
def ampleMemory : Memory where
  allocates := fun size => size < 2 ^ 63
  bounded := by simp

/-- The wire carries a message whose topic fits behind the header. -/
theorem publishesInOrder_iff_fitting :
    PublishesInOrder ampleMemory
      { create [112] 1400 3 true with messageIdCounter := 7 }
      ⟨[116], some [1, 2, 3], fun _ => true⟩ := by
  refine (publishesInOrder_iff ampleMemory [112] (by decide) 3 true 7
    ⟨[116], some [1, 2, 3], fun _ => true⟩ (by decide) ?_).mpr ?_
  · rintro payload ⟨⟩
    decide
  · refine Or.inr (Or.inr ?_)
    rintro payload ⟨⟩
    refine ⟨by decide, .inr ⟨by decide, .inr ⟨by decide, fun _ _ => rfl⟩⟩⟩

/-- With the default MTU, a topic of that length is written past the packet
buffer. -/
theorem publish_overruns_packet :
    (create [112] 1400 3 true).publish
        ⟨List.replicate 1400 116, some [1], fun _ => true⟩ =
          .error .outOfRange ∧
      ¬PublishesInOrder ampleMemory (create [112] 1400 3 true)
        ⟨List.replicate 1400 116, some [1], fun _ => true⟩ := by
  have topicSize : (namespaced [112] (List.replicate 1400 116)).length = 1402 := by
    rw [length_namespaced, List.length_replicate]
    rfl
  have wellFormed := create_wellFormed [112] (by decide : 1400 < 2 ^ 64) 3 true
  have sized : PublishRequest.Sized
      ⟨List.replicate 1400 116, some [1], fun _ => true⟩
        (create [112] 1400 3 true) := by
    refine ⟨topicSize.trans_lt (by decide), ?_⟩
    rintro serialized ⟨⟩
    decide
  have unfit : ¬(namespaced (create [112] 1400 3 true).name
      (List.replicate 1400 116)).length ≤
        (create [112] 1400 3 true).mtu - FragmentHeader.size := by
    intro fits
    exact absurd (topicSize.symm.trans_le fits) (by decide)
  exact ⟨publish_faults wellFormed sized (by decide) rfl unfit,
    not_publishesInOrder_of_unfit wellFormed (by decide) sized rfl unfit⟩

end Publisher

end PubSub
end StarterCpp
