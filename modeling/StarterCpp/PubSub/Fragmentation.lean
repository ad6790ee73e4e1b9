import StarterCpp.PubSub.Publisher
import Mathlib.Data.List.TakeWhile
import Mathlib.Tactic.Linarith

/-!
# What a publish call puts on the wire

A publish call whose namespaced topic fits the MTU cuts its payload into a
short first piece, behind the topic, and equal later pieces.  The send loop of
the publisher emits exactly these datagrams, in order, up to the first one that
`sendto` refuses, and its buffer accesses stay in range.
-/

namespace StarterCpp
namespace PubSub

theorem sizeSub_of_le
    {left right : ℕ}
    (ordered : right ≤ left)
    (bounded : left < 2 ^ 64) :
    sizeSub left right = left - right := by
  unfold sizeSub
  omega

theorem sizeAdd_of_lt
    {left right : ℕ}
    (bounded : left + right < 2 ^ 64) :
    sizeAdd left right = left + right :=
  Nat.mod_eq_of_lt bounded

@[simp] theorem length_namespaced (name topic : ByteString) :
    (namespaced name topic).length = name.length + topic.length + 1 := by
  simp only [namespaced, List.length_append, List.length_cons]
  omega

/-- A copy that fits keeps the buffer's length, and everything up to its end is
the old prefix followed by the copied bytes. -/
theorem writeBytes_ok
    (buffer bytes : ByteString)
    (offset : ℕ)
    (fits : offset + bytes.length ≤ buffer.length) :
    ∃ written, writeBytes buffer offset bytes = .ok written ∧
      written.length = buffer.length ∧
      written.take (offset + bytes.length) = buffer.take offset ++ bytes := by
  refine ⟨_, if_pos fits, ?_, ?_⟩
  · simp only [List.length_append, List.length_take, List.length_drop]
    omega
  · apply List.take_left'
    simp only [List.length_append, List.length_take]
    omega

/-- Fragments after the first one that a payload needs, in exact arithmetic. -/
def laterFragmentsOf (maxPayload topicSize totalPayloadSize : ℕ) : ℕ :=
  (totalPayloadSize - (maxPayload - topicSize) + maxPayload - 1) / maxPayload

/-- The two-regime size arithmetic of the source counts the fragments of every
topic that fits: neither its subtraction nor its rounding sum wraps. -/
theorem Publisher.numFragmentsCalc_eq
    {publisher : Publisher}
    {topicSize totalPayloadSize : ℕ}
    (topicPositive : 0 < topicSize)
    (topicFits : topicSize ≤ publisher.maxPayloadPerFragment)
    (maxBounded : publisher.maxPayloadPerFragment < 2 ^ 64)
    (topicBounded : topicSize < 2 ^ 63)
    (totalBounded : totalPayloadSize < 2 ^ 63) :
    publisher.numFragmentsCalc topicSize totalPayloadSize =
      .ok (laterFragmentsOf publisher.maxPayloadPerFragment topicSize
        totalPayloadSize + 1) := by
  have maxPositive : 0 < publisher.maxPayloadPerFragment := by omega
  have space : publisher.firstFragPayloadSpace topicSize =
      publisher.maxPayloadPerFragment - topicSize :=
    sizeSub_of_le topicFits maxBounded
  unfold numFragmentsCalc laterFragmentsOf
  rw [space]
  by_cases long :
      publisher.maxPayloadPerFragment - topicSize < totalPayloadSize
  · have remaining : sizeSub totalPayloadSize
          (publisher.maxPayloadPerFragment - topicSize) =
        totalPayloadSize - (publisher.maxPayloadPerFragment - topicSize) :=
      sizeSub_of_le long.le (by omega)
    have rounding : sizeSub (sizeAdd (totalPayloadSize -
          (publisher.maxPayloadPerFragment - topicSize))
            publisher.maxPayloadPerFragment) 1 =
        totalPayloadSize - (publisher.maxPayloadPerFragment - topicSize) +
          publisher.maxPayloadPerFragment - 1 := by
      rw [sizeAdd_of_lt (by omega)]
      exact sizeSub_of_le (by omega) (by omega)
    have quotient := Nat.div_le_self (totalPayloadSize -
      (publisher.maxPayloadPerFragment - topicSize) +
        publisher.maxPayloadPerFragment - 1) publisher.maxPayloadPerFragment
    rw [if_pos long]
    simp only [remaining, rounding, if_neg maxPositive.ne']
    rw [sizeAdd_of_lt (by omega), Nat.add_comm]
  · rw [if_neg long, Nat.div_eq_of_lt (by omega)]

/-- A publish call that reaches the send loop, with the message id it drew: its
topic fits behind the header, its sizes are sizes of C++ strings, and it needs
no more fragments than the header can number. -/
structure PublishCall where
  name : ByteString
  mtu : ℕ
  topic : ByteString
  serialized : ByteString
  messageId : UInt32
  mtu_lt : mtu < 2 ^ 64
  topic_lt : (namespaced name topic).length < 2 ^ 63
  serialized_lt : serialized.length < 2 ^ 63
  topicFits : (namespaced name topic).length ≤ mtu - FragmentHeader.size
  fragmentsFit : laterFragmentsOf (mtu - FragmentHeader.size)
    (namespaced name topic).length serialized.length < 65535

namespace PublishCall

variable (call : PublishCall)

/-- The topic as the wire carries it in front of the payload. -/
def namespacedTopic : ByteString := namespaced call.name call.topic

/-- Payload bytes of a fragment that carries no topic. -/
def maxPayload : ℕ := call.mtu - FragmentHeader.size

/-- Payload bytes of the first fragment. -/
def firstSpace : ℕ := call.maxPayload - call.namespacedTopic.length

/-- Fragments after the first one. -/
def laterFragments : ℕ :=
  laterFragmentsOf call.maxPayload call.namespacedTopic.length
    call.serialized.length

/-- Fragments of the message. -/
def fragmentCount : ℕ := call.laterFragments + 1

/-- Payload bytes of one fragment. -/
def piece (fragNum : ℕ) : ByteString :=
  Pieces.piece call.firstSpace call.maxPayload call.serialized fragNum

/-- What follows the header of one fragment. -/
def body (fragNum : ℕ) : ByteString :=
  (if fragNum = 0 then call.namespacedTopic else []) ++ call.piece fragNum

/-- One datagram of the message. -/
def datagram (fragNum : ℕ) : ByteString :=
  (Publisher.header call.messageId call.fragmentCount
    call.namespacedTopic.length fragNum).toBytes ++ call.body fragNum

/-- Payload bytes that the fragments before a given one carry. -/
def offset : ℕ → ℕ
  | 0 => 0
  | fragNum + 1 =>
      min call.serialized.length (call.firstSpace + fragNum * call.maxPayload)

theorem namespacedTopic_pos : 0 < call.namespacedTopic.length := by
  simp [namespacedTopic]

theorem topic_le_maxPayload :
    call.namespacedTopic.length ≤ call.maxPayload :=
  call.topicFits

theorem maxPayload_pos : 0 < call.maxPayload :=
  lt_of_lt_of_le call.namespacedTopic_pos call.topic_le_maxPayload

theorem maxPayload_add_size : call.maxPayload + FragmentHeader.size = call.mtu := by
  have positive := call.maxPayload_pos
  unfold maxPayload at positive ⊢
  omega

theorem firstSpace_add_topic :
    call.firstSpace + call.namespacedTopic.length = call.maxPayload := by
  have fits := call.topic_le_maxPayload
  unfold firstSpace
  omega

theorem fragmentCount_pos : 0 < call.fragmentCount := Nat.succ_pos _

theorem fragmentCount_le : call.fragmentCount ≤ 65535 := call.fragmentsFit

/-- The fragments have room for the whole payload. -/
theorem serialized_le_covered :
    call.serialized.length ≤
      call.firstSpace + call.laterFragments * call.maxPayload := by
  have positive := call.maxPayload_pos
  have rounded := Nat.lt_mul_div_succ
    (call.serialized.length - call.firstSpace + call.maxPayload - 1) positive
  change call.serialized.length ≤ call.firstSpace +
    (call.serialized.length - call.firstSpace + call.maxPayload - 1) /
      call.maxPayload * call.maxPayload
  rw [Nat.mul_succ, Nat.mul_comm] at rounded
  omega

/-- Every later fragment starts inside the payload. -/
theorem offset_lt_serialized
    {fragNum : ℕ}
    (later : fragNum < call.laterFragments) :
    call.firstSpace + fragNum * call.maxPayload < call.serialized.length := by
  have positive := call.maxPayload_pos
  have counted : (fragNum + 1) * call.maxPayload ≤
      call.serialized.length - call.firstSpace + call.maxPayload - 1 :=
    (Nat.le_div_iff_mul_le positive).mp later
  rw [Nat.succ_mul] at counted
  omega

/-- The pieces of all fragments concatenate to the serialized message. -/
theorem flatten_pieces :
    ((List.range call.fragmentCount).map call.piece).flatten =
      call.serialized :=
  Pieces.flatten_pieces_of_covering call.serialized_le_covered

/-- The next offset counts the piece that the fragment takes. -/
theorem offset_succ
    {fragNum : ℕ}
    (inside : fragNum < call.fragmentCount) :
    call.offset (fragNum + 1) =
      call.offset fragNum + (call.piece fragNum).length := by
  cases fragNum with
  | zero => simp [offset, piece, Nat.min_comm]
  | succ fragNum =>
      have start := call.offset_lt_serialized (Nat.lt_of_succ_lt_succ inside)
      simp only [offset, piece, Pieces.piece_succ, List.length_take,
        List.length_drop, Nat.succ_mul]
      omega

/-- A datagram is never longer than the MTU. -/
theorem length_datagram_le (fragNum : ℕ) :
    (call.datagram fragNum).length ≤ call.mtu := by
  have total := call.maxPayload_add_size
  have first := call.firstSpace_add_topic
  cases fragNum with
  | zero =>
      simp only [datagram, body, piece, Pieces.piece_zero, List.length_append,
        FragmentHeader.length_toBytes, List.length_take, if_true]
      omega
  | succ fragNum =>
      simp only [datagram, body, piece, Pieces.piece_succ, List.length_append,
        FragmentHeader.length_toBytes, List.length_take, Nat.succ_ne_zero,
        if_false, List.length_nil]
      omega

end PublishCall

/-- The publisher on which a call is made, as `publish` finds it. -/
structure PublishCall.MadeOn (call : PublishCall) (publisher : Publisher) : Prop where
  name_eq : publisher.name = call.name
  mtu_eq : publisher.mtu = call.mtu
  maxPayload_eq : publisher.maxPayloadPerFragment = call.maxPayload

namespace PublishCall

variable {call : PublishCall} {publisher : Publisher}

theorem MadeOn.firstFragPayloadSpace_eq (made : call.MadeOn publisher) :
    publisher.firstFragPayloadSpace call.namespacedTopic.length =
      call.firstSpace := by
  have bounded : call.maxPayload < 2 ^ 64 :=
    lt_of_le_of_lt (Nat.sub_le _ _) call.mtu_lt
  rw [Publisher.firstFragPayloadSpace, made.maxPayload_eq,
    sizeSub_of_le call.topic_le_maxPayload bounded]
  rfl

/-- Reading inside a buffer. -/
theorem readBytes_ok
    {buffer : ByteString}
    {start count : ℕ}
    (fits : start + count ≤ buffer.length) :
    readBytes buffer start count = .ok ((buffer.drop start).take count) :=
  if_pos fits

/-- The first iteration of the send loop stays in range and builds the datagram
that carries the topic. -/
theorem MadeOn.fillFragment_zero
    (made : call.MadeOn publisher)
    {packet : ByteString}
    (packetLength : packet.length = call.mtu) :
    ∃ filled, filled.length = call.mtu ∧
      publisher.fillFragment call.namespacedTopic call.serialized
          call.messageId call.fragmentCount 0 packet 0 =
        .ok (filled, call.offset 1, call.datagram 0) := by
  have total := call.maxPayload_add_size
  have first := call.firstSpace_add_topic
  let head := (Publisher.header call.messageId call.fragmentCount
    call.namespacedTopic.length 0).toBytes
  have headLength : head.length = FragmentHeader.size :=
    FragmentHeader.length_toBytes _
  let part := call.serialized.take
    (min call.serialized.length call.firstSpace)
  have partLength : part.length =
      min call.serialized.length call.firstSpace := by
    simp [part]
  obtain ⟨packet₁, wrote₁, length₁, prefix₁⟩ :=
    writeBytes_ok packet head 0 (by omega)
  obtain ⟨packet₂, wrote₂, length₂, prefix₂⟩ :=
    writeBytes_ok packet₁ call.namespacedTopic FragmentHeader.size (by omega)
  obtain ⟨packet₃, wrote₃, length₃, prefix₃⟩ :=
    writeBytes_ok packet₂ part
      (FragmentHeader.size + call.namespacedTopic.length) (by omega)
  have readPart : readBytes call.serialized 0
      (min call.serialized.length call.firstSpace) = .ok part :=
    readBytes_ok (by omega)
  have contents : packet₃.take
      (FragmentHeader.size + call.namespacedTopic.length + part.length) =
        call.datagram 0 := by
    have headPrefix : packet₁.take FragmentHeader.size = head := by
      simpa [headLength] using prefix₁
    have partEq : part = call.piece 0 := by
      simp [part, piece, List.take_eq_take_iff, Nat.min_comm]
    rw [prefix₃, prefix₂, headPrefix, partEq]
    simp [datagram, body, head]
  have readAll : readBytes packet₃ 0
      (FragmentHeader.size + call.namespacedTopic.length +
        min call.serialized.length call.firstSpace) =
        .ok (call.datagram 0) := by
    rw [readBytes_ok (by omega), List.drop_zero, ← partLength, contents]
  refine ⟨packet₃, by omega, ?_⟩
  simp only [Publisher.fillFragment, made.firstFragPayloadSpace_eq]
  change (writeBytes packet 0 head >>= _) = _
  rw [wrote₁]
  change (writeBytes packet₁ FragmentHeader.size call.namespacedTopic >>= _) = _
  rw [wrote₂]
  change (readBytes call.serialized 0 _ >>= _) = _
  rw [readPart]
  change (writeBytes packet₂ _ part >>= _) = _
  rw [wrote₃]
  change (readBytes packet₃ 0 _ >>= _) = _
  rw [readAll]
  simp [offset, bind, Except.bind, pure, Except.pure]

/-- Every later iteration of the send loop stays in range and builds the datagram
of its fragment. -/
theorem MadeOn.fillFragment_succ
    (made : call.MadeOn publisher)
    {fragNum : ℕ}
    (inside : fragNum < call.laterFragments)
    {packet : ByteString}
    (packetLength : packet.length = call.mtu) :
    ∃ filled, filled.length = call.mtu ∧
      publisher.fillFragment call.namespacedTopic call.serialized
          call.messageId call.fragmentCount (fragNum + 1) packet
          (call.offset (fragNum + 1)) =
        .ok (filled, call.offset (fragNum + 2), call.datagram (fragNum + 1)) := by
  have total := call.maxPayload_add_size
  have serializedBound := call.serialized_lt
  have start := call.offset_lt_serialized inside
  have advance := call.offset_succ (Nat.succ_lt_succ inside)
  have offsetEq : call.offset (fragNum + 1) =
      call.firstSpace + fragNum * call.maxPayload := by
    simp only [offset]
    omega
  let head := (Publisher.header call.messageId call.fragmentCount
    call.namespacedTopic.length (fragNum + 1)).toBytes
  have headLength : head.length = FragmentHeader.size :=
    FragmentHeader.length_toBytes _
  have remaining : sizeSub call.serialized.length (call.offset (fragNum + 1)) =
      call.serialized.length - call.offset (fragNum + 1) :=
    sizeSub_of_le (by omega) (by omega)
  have partLength : (call.piece (fragNum + 1)).length =
      min (call.serialized.length - call.offset (fragNum + 1))
        call.maxPayload := by
    rw [offsetEq, piece, Pieces.piece_succ, List.length_take, List.length_drop,
      Nat.min_comm]
  obtain ⟨packet₁, wrote₁, length₁, prefix₁⟩ :=
    writeBytes_ok packet head 0 (by omega)
  obtain ⟨packet₂, wrote₂, length₂, prefix₂⟩ :=
    writeBytes_ok packet₁ (call.piece (fragNum + 1)) FragmentHeader.size
      (by omega)
  have readPart : readBytes call.serialized (call.offset (fragNum + 1))
      (min (call.serialized.length - call.offset (fragNum + 1))
        call.maxPayload) = .ok (call.piece (fragNum + 1)) := by
    rw [readBytes_ok (by omega), offsetEq, piece, Pieces.piece_succ]
    simp [List.take_eq_take_iff, Nat.min_comm]
  have readAll : readBytes packet₂ 0
      (FragmentHeader.size +
        min (call.serialized.length - call.offset (fragNum + 1))
          call.maxPayload) = .ok (call.datagram (fragNum + 1)) := by
    have headPrefix : packet₁.take FragmentHeader.size = head := by
      simpa [headLength] using prefix₁
    rw [readBytes_ok (by omega), List.drop_zero, ← partLength, prefix₂,
      headPrefix]
    simp [datagram, body, head]
  refine ⟨packet₂, by omega, ?_⟩
  simp only [Publisher.fillFragment, remaining, made.maxPayload_eq]
  change (writeBytes packet 0 head >>= _) = _
  rw [wrote₁]
  change (readBytes call.serialized _ _ >>= _) = _
  rw [readPart]
  change (writeBytes packet₁ FragmentHeader.size _ >>= _) = _
  rw [wrote₂]
  change (readBytes packet₂ 0 _ >>= _) = _
  rw [readAll, advance, partLength]
  rfl

/-- One iteration of the send loop stays in range and builds the datagram of its
fragment. -/
theorem MadeOn.fillFragment_eq
    (made : call.MadeOn publisher)
    {fragNum : ℕ}
    (inside : fragNum < call.fragmentCount)
    {packet : ByteString}
    (packetLength : packet.length = call.mtu) :
    ∃ filled, filled.length = call.mtu ∧
      publisher.fillFragment call.namespacedTopic call.serialized
          call.messageId call.fragmentCount fragNum packet
          (call.offset fragNum) =
        .ok (filled, call.offset (fragNum + 1), call.datagram fragNum) := by
  cases fragNum with
  | zero => exact made.fillFragment_zero packetLength
  | succ fragNum =>
      exact made.fillFragment_succ (Nat.lt_of_succ_lt_succ inside) packetLength

/-- The send loop from a fragment on emits the datagrams up to the first one
that `sendto` refuses. -/
theorem MadeOn.sendFragments_eq
    (made : call.MadeOn publisher)
    (sendto : ℕ → Bool)
    {remaining fragNum : ℕ}
    (counted : fragNum + remaining = call.fragmentCount)
    {packet : ByteString}
    (packetLength : packet.length = call.mtu) :
    publisher.sendFragments call.namespacedTopic call.serialized call.messageId
        call.fragmentCount sendto remaining fragNum packet
        (call.offset fragNum) =
      .ok ⟨(List.range' fragNum remaining).all sendto,
        ((List.range' fragNum remaining).takeWhile sendto).map
          call.datagram⟩ := by
  induction remaining generalizing fragNum packet with
  | zero => rfl
  | succ remaining inductionHypothesis =>
      have inside : fragNum < call.fragmentCount := by omega
      obtain ⟨filled, filledLength, filledEq⟩ :=
        made.fillFragment_eq inside packetLength
      have countedNext : fragNum + 1 + remaining = call.fragmentCount := by
        omega
      have rest := inductionHypothesis countedNext filledLength
      unfold Publisher.sendFragments
      rw [filledEq]
      cases accepted : sendto fragNum with
      | false =>
          simp [accepted, List.range'_succ, bind, Except.bind, pure,
            Except.pure]
      | true =>
          simp only [bind, Except.bind, pure, Except.pure, if_true, rest]
          simp [accepted, List.range'_succ]

end PublishCall

/-! ## Whole publish calls -/

/-- What `publish` yields for a call that reached the send loop or for one that
returned before it. -/
def publishOutcome (request : PublishRequest) :
    Option PublishCall → PublishOutcome
  | none => ⟨false, []⟩
  | some call =>
      ⟨(List.range call.fragmentCount).all request.sendto,
        ((List.range call.fragmentCount).takeWhile request.sendto).map
          call.datagram⟩

/-- What a call sends are fragments of it. -/
theorem mem_sent
    {request : PublishRequest}
    {call : PublishCall}
    {data : ByteString}
    (sent : data ∈ (publishOutcome request (some call)).sent) :
    ∃ fragNum, fragNum < call.fragmentCount ∧ data = call.datagram fragNum := by
  simp only [publishOutcome, List.mem_map] at sent
  obtain ⟨fragNum, taken, rfl⟩ := sent
  have inRange := (List.takeWhile_prefix request.sendto).subset taken
  exact ⟨fragNum, List.mem_range.mp inRange, rfl⟩

/-- When `sendto` accepts everything, a call sends all its fragments. -/
theorem publishOutcome_of_accepted
    {request : PublishRequest}
    (accepted : ∀ fragNum, request.sendto fragNum = true)
    (call : PublishCall) :
    publishOutcome request (some call) =
      ⟨true, (List.range call.fragmentCount).map call.datagram⟩ := by
  have whole : (List.range call.fragmentCount).takeWhile request.sendto =
      List.range call.fragmentCount :=
    List.takeWhile_eq_self_iff.mpr fun fragNum _ => accepted fragNum
  simp [publishOutcome, whole, accepted]

/-- A call that reports failure left a fragment unsent. -/
theorem unsent_of_failed
    {request : PublishRequest}
    {call : PublishCall}
    (failed : (publishOutcome request (some call)).returned = false) :
    ∃ fragNum, fragNum < call.fragmentCount ∧
      (publishOutcome request (some call)).sent[fragNum]? = none := by
  obtain ⟨refusedNum, member, refused⟩ := List.all_eq_false.mp failed
  have isPrefix : (List.range call.fragmentCount).takeWhile request.sendto <+:
      List.range call.fragmentCount :=
    List.takeWhile_prefix request.sendto
  have fewer : ((List.range call.fragmentCount).takeWhile
      request.sendto).length < call.fragmentCount := by
    by_contra long
    have whole := isPrefix.eq_of_length_le (by simpa using long)
    exact refused (List.takeWhile_eq_self_iff.mp whole refusedNum member)
  exact ⟨_, fewer, by simp [publishOutcome]⟩

/-- A publisher as its constructor leaves it, up to its message counter. -/
structure Publisher.WellFormed (publisher : Publisher) : Prop where
  mtu_lt : publisher.mtu < 2 ^ 64
  maxPayload_eq :
    publisher.maxPayloadPerFragment = sizeSub publisher.mtu FragmentHeader.size

namespace Publisher.WellFormed

variable {publisher : Publisher}

/-- An MTU with room for a topic makes the payload size an exact difference. -/
theorem maxPayload_eq_sub
    (wellFormed : publisher.WellFormed)
    {topicSize : ℕ}
    (topicPositive : 0 < topicSize)
    (topicFits : topicSize ≤ publisher.mtu - FragmentHeader.size) :
    publisher.maxPayloadPerFragment = publisher.mtu - FragmentHeader.size := by
  rw [wellFormed.maxPayload_eq]
  exact sizeSub_of_le (by omega) wellFormed.mtu_lt

end Publisher.WellFormed

/-- A request whose strings are no longer than a `std::string` can be. -/
structure PublishRequest.Sized (request : PublishRequest) (publisher : Publisher) :
    Prop where
  topic_lt : (namespaced publisher.name request.topic).length < 2 ^ 63
  serialized_lt : ∀ serialized, request.serialized = some serialized →
    serialized.length < 2 ^ 63

/-- A request whose namespaced topic fits the first fragment. -/
structure PublishRequest.Fits (request : PublishRequest) (publisher : Publisher) :
    Prop extends request.Sized publisher where
  topicFits : (namespaced publisher.name request.topic).length ≤
    publisher.mtu - FragmentHeader.size

/-- The call that a request becomes on a publisher: same name, topic and
payload, and the message id that the counter held. -/
structure PublishCall.OfRequest
    (call : PublishCall) (publisher : Publisher) (request : PublishRequest) :
    Prop where
  name_eq : call.name = publisher.name
  mtu_eq : call.mtu = publisher.mtu
  topic_eq : call.topic = request.topic
  serialized_eq : request.serialized = some call.serialized

/-- The request and the message id determine the call. -/
theorem PublishCall.OfRequest.eq
    {call other : PublishCall}
    {publisher : Publisher}
    {request otherRequest : PublishRequest}
    (ofRequest : call.OfRequest publisher request)
    (otherOfRequest : other.OfRequest publisher otherRequest)
    (sameTopic : request.topic = otherRequest.topic)
    (samePayload : request.serialized = otherRequest.serialized)
    (sameId : call.messageId = other.messageId) :
    call = other := by
  have sameSerialized : some call.serialized = some other.serialized := by
    rw [← ofRequest.serialized_eq, ← otherOfRequest.serialized_eq, samePayload]
  have topicEq : call.topic = other.topic := by
    rw [ofRequest.topic_eq, otherOfRequest.topic_eq, sameTopic]
  cases call
  cases other
  simp only [PublishCall.mk.injEq]
  exact ⟨ofRequest.name_eq.trans otherOfRequest.name_eq.symm,
    ofRequest.mtu_eq.trans otherOfRequest.mtu_eq.symm, topicEq,
    Option.some.inj sameSerialized, sameId⟩

namespace Publisher

variable {publisher : Publisher}

theorem create_wellFormed
    (name : ByteString)
    {mtu : ℕ}
    (mtu_lt : mtu < 2 ^ 64)
    (socket : Int)
    (addressValid : Bool) :
    (create name mtu socket addressValid).WellFormed :=
  ⟨mtu_lt, rfl⟩

/-- The number of fragments that the source computes for a request that fits. -/
theorem Fits.numFragmentsCalc_eq
    (wellFormed : publisher.WellFormed)
    {request : PublishRequest}
    (fits : request.Fits publisher)
    {serialized : ByteString}
    (payload : request.serialized = some serialized) :
    publisher.numFragmentsCalc (namespaced publisher.name request.topic).length
        serialized.length =
      .ok (laterFragmentsOf (publisher.mtu - FragmentHeader.size)
        (namespaced publisher.name request.topic).length
        serialized.length + 1) := by
  have topicPositive :
      0 < (namespaced publisher.name request.topic).length := by
    simp
  have maxEq := wellFormed.maxPayload_eq_sub topicPositive fits.topicFits
  have maxBounded : publisher.maxPayloadPerFragment < 2 ^ 64 := by
    have bounded := wellFormed.mtu_lt
    omega
  rw [← maxEq]
  exact Publisher.numFragmentsCalc_eq topicPositive (maxEq ▸ fits.topicFits)
    maxBounded fits.topic_lt (fits.serialized_lt serialized payload)

/-- A call of `publish` on an open publisher whose message fits the fragment
numbering draws one message id and emits the datagrams of its call. -/
theorem publish_call
    (wellFormed : publisher.WellFormed)
    {request : PublishRequest}
    (fits : request.Fits publisher)
    (opened : ¬(publisher.socket < 0 ∨ publisher.running = false))
    {serialized : ByteString}
    (payload : request.serialized = some serialized)
    {count : ℕ}
    (counted : publisher.numFragmentsCalc
      (namespaced publisher.name request.topic).length serialized.length =
        .ok count)
    (few : count ≤ 65535) :
    ∃ call : PublishCall, call.OfRequest publisher request ∧
      call.messageId = publisher.messageIdCounter ∧
      call.fragmentCount = count ∧
      publisher.publish request =
        .ok ({ publisher with
          messageIdCounter := publisher.messageIdCounter + 1 },
            publishOutcome request (some call)) := by
  have computed := Fits.numFragmentsCalc_eq wellFormed fits payload
  have countEq : laterFragmentsOf (publisher.mtu - FragmentHeader.size)
      (namespaced publisher.name request.topic).length
      serialized.length + 1 = count := by
    rw [counted, Except.ok.injEq] at computed
    exact computed.symm
  have topicPositive :
      0 < (namespaced publisher.name request.topic).length := by
    simp
  let call : PublishCall :=
    { name := publisher.name
      mtu := publisher.mtu
      topic := request.topic
      serialized := serialized
      messageId := publisher.messageIdCounter
      mtu_lt := wellFormed.mtu_lt
      topic_lt := fits.topic_lt
      serialized_lt := fits.serialized_lt serialized payload
      topicFits := fits.topicFits
      fragmentsFit := by omega }
  have made : call.MadeOn publisher :=
    ⟨rfl, rfl, wellFormed.maxPayload_eq_sub topicPositive fits.topicFits⟩
  have packetLength :
      (List.replicate publisher.mtu (0 : UInt8)).length = call.mtu :=
    List.length_replicate
  have sent := made.sendFragments_eq request.sendto
    (Nat.zero_add call.fragmentCount) packetLength
  have callCount : call.fragmentCount = count := countEq
  refine ⟨call, ⟨rfl, rfl, rfl, payload⟩, rfl, callCount, ?_⟩
  rw [← callCount] at counted few
  rw [publish, if_neg opened, payload]
  change (publisher.numFragmentsCalc _ _ >>= _) = _
  rw [counted]
  change (if 65535 < call.fragmentCount then _ else _) = _
  rw [if_neg (Nat.not_lt.mpr few)]
  change (publisher.sendFragments call.namespacedTopic call.serialized
    call.messageId call.fragmentCount request.sendto
    call.fragmentCount 0 _ (call.offset 0) >>= _) = _
  rw [sent, publishOutcome, List.range_eq_range']
  rfl

/-- A call of `publish` that fits stays in range.  Either it returns before the
send loop and leaves the publisher as it was, or it draws one message id and
emits the datagrams of its call. -/
theorem publish_cases
    (wellFormed : publisher.WellFormed)
    {request : PublishRequest}
    (fits : request.Fits publisher) :
    publisher.publish request =
        .ok (publisher, publishOutcome request none) ∨
      ∃ call : PublishCall, call.OfRequest publisher request ∧
        call.messageId = publisher.messageIdCounter ∧
        publisher.publish request =
          .ok ({ publisher with
            messageIdCounter := publisher.messageIdCounter + 1 },
              publishOutcome request (some call)) := by
  by_cases closed : publisher.socket < 0 ∨ publisher.running = false
  · left
    rw [publish, if_pos closed]
    rfl
  · cases payload : request.serialized with
    | none =>
        left
        rw [publish, if_neg closed, payload]
        rfl
    | some serialized =>
        have counted := Fits.numFragmentsCalc_eq wellFormed fits payload
        by_cases tooMany : 65535 < laterFragmentsOf
            (publisher.mtu - FragmentHeader.size)
            (namespaced publisher.name request.topic).length
            serialized.length + 1
        · left
          rw [publish, if_neg closed, payload]
          change (publisher.numFragmentsCalc _ _ >>= _) = _
          rw [counted]
          change (if 65535 < laterFragmentsOf _ _ _ + 1 then _ else _) = _
          rw [if_pos tooMany]
          rfl
        · right
          obtain ⟨call, ofRequest, drawn, _, published⟩ :=
            publish_call wellFormed fits closed payload counted
              (Nat.le_of_not_lt tooMany)
          exact ⟨call, ofRequest, drawn, published⟩

/-! ## A publisher's whole history -/

/-- One call of `publish` followed by the others. -/
theorem publishAll_cons
    {next : Publisher}
    {request : PublishRequest}
    {requests : List PublishRequest}
    {outcome : PublishOutcome}
    {outcomes : List PublishOutcome}
    (published : publisher.publish request = .ok (next, outcome))
    (rest : next.publishAll requests = .ok outcomes) :
    publisher.publishAll (request :: requests) = .ok (outcome :: outcomes) := by
  simp only [publishAll, published, rest, bind, Except.bind, pure, Except.pure]

theorem publishAll_cons_inv
    {request : PublishRequest}
    {requests : List PublishRequest}
    {outcomes : List PublishOutcome}
    (published : publisher.publishAll (request :: requests) = .ok outcomes) :
    ∃ next outcome rest, publisher.publish request = .ok (next, outcome) ∧
      next.publishAll requests = .ok rest ∧ outcomes = outcome :: rest := by
  cases first : publisher.publish request with
  | error fault => simp [publishAll, first, bind, Except.bind] at published
  | ok result =>
      obtain ⟨next, outcome⟩ := result
      cases others : next.publishAll requests with
      | error fault =>
          simp [publishAll, first, others, bind, Except.bind] at published
      | ok rest =>
          simp only [publishAll, first, others, bind, Except.bind, pure,
            Except.pure, Except.ok.injEq] at published
          exact ⟨next, outcome, rest, rfl, others, published.symm⟩

/-- How the requests of one publisher became calls: the outcomes are those of
the calls, each call carries its request, and the ids count up from the
publisher's counter over the calls that drew one. -/
structure History
    (publisher : Publisher)
    (requests : List PublishRequest)
    (outcomes : List PublishOutcome) where
  calls : List (Option PublishCall)
  outcomes_eq : outcomes =
    List.zipWith (fun call request => publishOutcome request call) calls requests
  calls_length : calls.length = requests.length
  ofRequest : ∀ (index : ℕ) (call : PublishCall),
    calls[index]? = some (some call) →
      ∃ request, requests[index]? = some request ∧
        call.OfRequest publisher request
  messageId_eq : ∀ (index : ℕ) (call : PublishCall),
    calls[index]? = some (some call) →
    call.messageId = publisher.messageIdCounter +
      UInt32.ofNat ((calls.take index).countP Option.isSome)

/-- A message needs at least one fragment. -/
theorem numFragmentsCalc_ne_zero
    {topicSize totalPayloadSize : ℕ}
    (totalBounded : totalPayloadSize < 2 ^ 63)
    {count : ℕ}
    (counted : publisher.numFragmentsCalc topicSize totalPayloadSize =
      .ok count) :
    count ≠ 0 := by
  unfold numFragmentsCalc at counted
  split_ifs at counted with long zero
  · -- The quotient stays below `2 ^ 64 - 1`: by halving, or without wrapping.
    obtain rfl := Except.ok.inj counted
    have remaining : sizeSub totalPayloadSize
        (publisher.firstFragPayloadSpace topicSize) < 2 ^ 63 := by
      rw [sizeSub_of_le long.le (by omega)]
      omega
    generalize sizeSub totalPayloadSize
      (publisher.firstFragPayloadSpace topicSize) = rest at remaining ⊢
    have bounded : sizeSub (sizeAdd rest publisher.maxPayloadPerFragment) 1 /
        publisher.maxPayloadPerFragment < 2 ^ 64 - 1 := by
      by_cases single : publisher.maxPayloadPerFragment = 1
      · rw [single, sizeAdd_of_lt (by omega), sizeSub_of_le (by omega) (by omega),
          Nat.div_one]
        omega
      · have wrapped : sizeSub (sizeAdd rest
            publisher.maxPayloadPerFragment) 1 < 2 ^ 64 :=
          Nat.mod_lt _ (by decide)
        have halved : _ ≤ sizeSub (sizeAdd rest
            publisher.maxPayloadPerFragment) 1 / 2 :=
          Nat.div_le_div_left
            (show 2 ≤ publisher.maxPayloadPerFragment by omega) (by decide)
        omega
    generalize sizeSub (sizeAdd rest publisher.maxPayloadPerFragment) 1 /
      publisher.maxPayloadPerFragment = quotient at bounded ⊢
    rw [sizeAdd_of_lt (by omega)]
    omega
  · rw [Except.ok.injEq] at counted
    omega

/-- The first fragment of a topic that does not fit is written out of range. -/
theorem fillFragment_unfit
    (namespacedTopic serialized : ByteString)
    (messageId : UInt32)
    (numFragments : ℕ)
    {packet : ByteString}
    (unfit : ¬namespacedTopic.length ≤ packet.length - FragmentHeader.size) :
    publisher.fillFragment namespacedTopic serialized messageId numFragments 0
      packet 0 = .error .outOfRange := by
  let head := (header messageId numFragments namespacedTopic.length 0).toBytes
  have headLength : head.length = FragmentHeader.size :=
    FragmentHeader.length_toBytes _
  unfold fillFragment
  change (writeBytes packet 0 head >>= _) = _
  by_cases headFits : 0 + head.length ≤ packet.length
  · obtain ⟨written, wrote, length, _⟩ := writeBytes_ok packet head 0 headFits
    rw [wrote]
    change (writeBytes written FragmentHeader.size namespacedTopic >>= _) = _
    rw [writeBytes, if_neg (by omega)]
    rfl
  · rw [writeBytes, if_neg headFits]
    rfl

/-- A call of `publish` whose topic does not fit sends nothing: it faults, or
returns before the send loop. -/
theorem publish_unfit
    {request : PublishRequest}
    (sized : request.Sized publisher)
    (unfit : ¬(namespaced publisher.name request.topic).length ≤
      publisher.mtu - FragmentHeader.size)
    {next : Publisher}
    {outcome : PublishOutcome}
    (published : publisher.publish request = .ok (next, outcome)) :
    next = publisher ∧ outcome = publishOutcome request none := by
  unfold publish at published
  by_cases closed : publisher.socket < 0 ∨ publisher.running = false
  · rw [if_pos closed, Except.ok.injEq, Prod.mk.injEq] at published
    exact ⟨published.1.symm, published.2.symm⟩
  rw [if_neg closed] at published
  cases payload : request.serialized with
  | none =>
      simp only [payload, Except.ok.injEq, Prod.mk.injEq] at published
      exact ⟨published.1.symm, published.2.symm⟩
  | some serialized =>
      simp only [payload] at published
      change (publisher.numFragmentsCalc _ _ >>= _) = _ at published
      cases counted : publisher.numFragmentsCalc
          (namespaced publisher.name request.topic).length
          serialized.length with
      | error fault =>
          rw [counted] at published
          exact absurd published (by simp [bind, Except.bind])
      | ok count =>
          rw [counted] at published
          change (if 65535 < count then _ else _) = _ at published
          by_cases tooMany : 65535 < count
          · rw [if_pos tooMany] at published
            obtain ⟨sameNext, sameOutcome⟩ :=
              Prod.mk.inj (Except.ok.inj published)
            exact ⟨sameNext.symm, sameOutcome.symm⟩
          · have positive := numFragmentsCalc_ne_zero
              (sized.serialized_lt serialized payload) counted
            obtain ⟨more, rfl⟩ := Nat.exists_eq_succ_of_ne_zero positive
            have faulted := publisher.fillFragment_unfit
              (namespaced publisher.name request.topic) serialized
              publisher.messageIdCounter (more + 1)
              (by simpa using unfit :
                ¬_ ≤ (List.replicate publisher.mtu (0 : UInt8)).length - _)
            rw [if_neg tooMany, sendFragments, faulted] at published
            exact absurd published (by simp [bind, Except.bind])

/-- A call of `publish` that stays in range either returned before the send loop
and left the publisher as it was, or drew one message id and emitted the
datagrams of its call. -/
theorem publish_inv
    (wellFormed : publisher.WellFormed)
    {request : PublishRequest}
    (sized : request.Sized publisher)
    {next : Publisher}
    {outcome : PublishOutcome}
    (published : publisher.publish request = .ok (next, outcome)) :
    (next = publisher ∧ outcome = publishOutcome request none) ∨
      ∃ call : PublishCall, call.OfRequest publisher request ∧
        call.messageId = publisher.messageIdCounter ∧
        next = { publisher with
          messageIdCounter := publisher.messageIdCounter + 1 } ∧
        outcome = publishOutcome request (some call) := by
  by_cases topicFits : (namespaced publisher.name request.topic).length ≤
      publisher.mtu - FragmentHeader.size
  · rcases publish_cases wellFormed ⟨sized, topicFits⟩ with
      returned | ⟨call, ofRequest, drawn, emitted⟩
    · rw [returned, Except.ok.injEq, Prod.mk.injEq] at published
      exact Or.inl ⟨published.1.symm, published.2.symm⟩
    · rw [emitted, Except.ok.injEq, Prod.mk.injEq] at published
      exact Or.inr ⟨call, ofRequest, drawn, published.1.symm, published.2.symm⟩
  · exact Or.inl (publish_unfit sized topicFits published)

/-- The rest of a history after a call that drew no message id. -/
def History.consNone
    {request : PublishRequest}
    {requests : List PublishRequest}
    {outcomes : List PublishOutcome}
    (history : History publisher requests outcomes) :
    History publisher (request :: requests)
      (publishOutcome request none :: outcomes) where
  calls := none :: history.calls
  outcomes_eq := by rw [List.zipWith_cons_cons, ← history.outcomes_eq]
  calls_length := by simp [history.calls_length]
  ofRequest := by
    intro index call found
    cases index with
    | zero => simp at found
    | succ index => exact history.ofRequest index call found
  messageId_eq := by
    intro index call found
    cases index with
    | zero => simp at found
    | succ index => simpa using history.messageId_eq index call found

/-- The rest of a history after a call that drew the counter's message id. -/
def History.consSome
    {request : PublishRequest}
    {requests : List PublishRequest}
    {outcomes : List PublishOutcome}
    {call : PublishCall}
    (ofRequest : call.OfRequest publisher request)
    (drawn : call.messageId = publisher.messageIdCounter)
    (history : History { publisher with
      messageIdCounter := publisher.messageIdCounter + 1 } requests outcomes) :
    History publisher (request :: requests)
      (publishOutcome request (some call) :: outcomes) where
  calls := some call :: history.calls
  outcomes_eq := by rw [List.zipWith_cons_cons, ← history.outcomes_eq]
  calls_length := by simp [history.calls_length]
  ofRequest := by
    intro index later found
    cases index with
    | zero =>
        simp only [List.getElem?_cons_zero, Option.some.injEq] at found
        subst found
        exact ⟨request, rfl, ofRequest⟩
    | succ index =>
        obtain ⟨source, sourceAt, same⟩ := history.ofRequest index later found
        exact ⟨source, sourceAt, same.name_eq, same.mtu_eq, same.topic_eq,
          same.serialized_eq⟩
  messageId_eq := by
    intro index later found
    cases index with
    | zero =>
        simp only [List.getElem?_cons_zero, Option.some.injEq] at found
        subst found
        simpa using drawn
    | succ index =>
        have later_eq := history.messageId_eq index later found
        rw [later_eq, List.take_succ_cons, List.countP_cons_of_pos rfl]
        change publisher.messageIdCounter + 1 + _ = _
        rw [UInt32.ofNat_add, UInt32.add_assoc, UInt32.add_comm 1]
        rfl

/-- Successive publish calls that stay in range have a history. -/
theorem publishAll_history
    (wellFormed : publisher.WellFormed)
    {requests : List PublishRequest}
    (sized : ∀ request ∈ requests, request.Sized publisher)
    {outcomes : List PublishOutcome}
    (published : publisher.publishAll requests = .ok outcomes) :
    Nonempty (History publisher requests outcomes) := by
  induction requests generalizing publisher outcomes with
  | nil =>
      obtain rfl := Except.ok.inj published
      exact ⟨⟨[], rfl, rfl, by simp, by simp⟩⟩
  | cons request requests inductionHypothesis =>
      have sizedHead := sized request List.mem_cons_self
      have sizedTail : ∀ later ∈ requests, later.Sized publisher :=
        fun later member => sized later (List.mem_cons_of_mem request member)
      obtain ⟨next, outcome, rest, publishedHead, publishedTail, rfl⟩ :=
        publishAll_cons_inv published
      rcases publish_inv wellFormed sizedHead publishedHead with
        ⟨rfl, rfl⟩ | ⟨call, ofRequest, drawn, nextEq, rfl⟩
      · obtain ⟨history⟩ :=
          inductionHypothesis wellFormed sizedTail publishedTail
        exact ⟨history.consNone⟩
      · have wellFormedNext : next.WellFormed := by
          rw [nextEq]
          exact ⟨wellFormed.mtu_lt, wellFormed.maxPayload_eq⟩
        have sizedNext : ∀ later ∈ requests, later.Sized next := by
          rw [nextEq]
          exact fun later member => ⟨(sizedTail later member).topic_lt,
            (sizedTail later member).serialized_lt⟩
        obtain ⟨history⟩ :=
          inductionHypothesis wellFormedNext sizedNext publishedTail
        rw [nextEq] at history
        exact ⟨history.consSome ofRequest drawn⟩

/-- Successive publish calls that fit all stay in range. -/
theorem publishAll_ok
    (wellFormed : publisher.WellFormed)
    {requests : List PublishRequest}
    (fits : ∀ request ∈ requests, request.Fits publisher) :
    ∃ outcomes, publisher.publishAll requests = .ok outcomes := by
  induction requests generalizing publisher with
  | nil => exact ⟨[], rfl⟩
  | cons request requests inductionHypothesis =>
      have fitsHead := fits request List.mem_cons_self
      have fitsTail : ∀ later ∈ requests, later.Fits publisher :=
        fun later member => fits later (List.mem_cons_of_mem request member)
      rcases publish_cases wellFormed fitsHead with
        returned | ⟨call, _, _, published⟩
      · obtain ⟨outcomes, publishedTail⟩ :=
          inductionHypothesis wellFormed fitsTail
        exact ⟨_, publishAll_cons returned publishedTail⟩
      · let next : Publisher :=
          { publisher with
            messageIdCounter := publisher.messageIdCounter + 1 }
        have wellFormedNext : next.WellFormed :=
          ⟨wellFormed.mtu_lt, wellFormed.maxPayload_eq⟩
        have fitsNext : ∀ later ∈ requests, later.Fits next :=
          fun later member => ⟨⟨(fitsTail later member).topic_lt,
            (fitsTail later member).serialized_lt⟩,
              (fitsTail later member).topicFits⟩
        obtain ⟨outcomes, publishedTail⟩ :=
          inductionHypothesis wellFormedNext fitsNext
        exact ⟨_, publishAll_cons published publishedTail⟩

namespace History

variable {requests : List PublishRequest} {outcomes : List PublishOutcome}

/-- The outcome at an index is that of the request and the call there. -/
theorem outcome_eq
    (history : History publisher requests outcomes)
    {index : ℕ}
    {outcome : PublishOutcome}
    (made : outcomes[index]? = some outcome) :
    ∃ request found, requests[index]? = some request ∧
      history.calls[index]? = some found ∧
      outcome = publishOutcome request found := by
  rw [history.outcomes_eq, List.getElem?_zipWith] at made
  cases callAt : history.calls[index]? with
  | none => simp [callAt] at made
  | some found =>
      cases requestAt : requests[index]? with
      | none => simp [callAt, requestAt] at made
      | some request =>
          simp only [callAt, requestAt, Option.some.injEq] at made
          exact ⟨request, found, rfl, rfl, made.symm⟩

/-- Every datagram that a publish call sent is a fragment of that call. -/
theorem sent_eq
    (history : History publisher requests outcomes)
    {index fragNum : ℕ}
    {outcome : PublishOutcome}
    {bytes : ByteString}
    (made : outcomes[index]? = some outcome)
    (sent : outcome.sent[fragNum]? = some bytes) :
    ∃ call, history.calls[index]? = some (some call) ∧
      fragNum < call.fragmentCount ∧ bytes = call.datagram fragNum := by
  obtain ⟨request, found, _, callAt, rfl⟩ := history.outcome_eq made
  cases found with
  | none => simp [publishOutcome] at sent
  | some call =>
      simp only [publishOutcome, List.getElem?_map,
        Option.map_eq_some_iff] at sent
      obtain ⟨number, numberAt, rfl⟩ := sent
      obtain ⟨refused, split⟩ : List.takeWhile request.sendto
          (List.range call.fragmentCount) <+: List.range call.fragmentCount :=
        List.takeWhile_prefix request.sendto
      have inRange : (List.range call.fragmentCount)[fragNum]? =
          some number := by
        obtain ⟨inside, _⟩ := List.getElem?_eq_some_iff.mp numberAt
        rw [← split, List.getElem?_append_left inside, numberAt]
      obtain ⟨inside, number_eq⟩ := List.getElem?_eq_some_iff.mp inRange
      rw [List.getElem_range] at number_eq
      rw [List.length_range] at inside
      exact ⟨call, callAt, inside, number_eq ▸ rfl⟩

/-- A later call has seen more draws of the counter than an earlier one. -/
theorem drawn_lt
    {calls : List (Option PublishCall)}
    {first second : ℕ}
    {call : PublishCall}
    (firstAt : calls[first]? = some (some call))
    (before : first < second) :
    (calls.take first).countP Option.isSome <
      (calls.take second).countP Option.isSome := by
  have step : (calls.take (first + 1)).countP Option.isSome =
      (calls.take first).countP Option.isSome + 1 := by
    rw [List.take_add_one, firstAt]
    simp
  have mono : (calls.take (first + 1)).countP Option.isSome ≤
      (calls.take second).countP Option.isSome :=
    (List.take_sublist_take_left before).countP_le
  omega

/-- Calls of one publisher that makes fewer than `2 ^ 32` calls have different
message ids. -/
theorem messageId_injective
    (history : History publisher requests outcomes)
    (few : requests.length < 2 ^ 32)
    {first second : ℕ}
    {firstCall secondCall : PublishCall}
    (firstAt : history.calls[first]? = some (some firstCall))
    (secondAt : history.calls[second]? = some (some secondCall))
    (same : firstCall.messageId = secondCall.messageId) :
    first = second := by
  have drawnBound (index : ℕ) :
      (history.calls.take index).countP Option.isSome < 2 ^ 32 := by
    have counted : (history.calls.take index).countP Option.isSome ≤
        (history.calls.take index).length := List.countP_le_length
    have taken := List.length_take_le' index history.calls
    have total := history.calls_length
    omega
  have sameDrawn : (history.calls.take first).countP Option.isSome =
      (history.calls.take second).countP Option.isSome := by
    rw [history.messageId_eq first firstCall firstAt,
      history.messageId_eq second secondCall secondAt,
      UInt32.add_right_inj] at same
    have values := congrArg UInt32.toNat same
    rw [UInt32.toNat_ofNat_of_lt' (drawnBound first),
      UInt32.toNat_ofNat_of_lt' (drawnBound second)] at values
    exact values
  rcases Nat.lt_trichotomy first second with before | equal | after
  · have strict := drawn_lt firstAt before
    omega
  · exact equal
  · have strict := drawn_lt secondAt after
    omega

end History

end Publisher
end PubSub
end StarterCpp
