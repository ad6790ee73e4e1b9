import StarterCpp.Library.Pieces
import StarterCpp.PubSub.FragmentHeader

/-!
# `HighBandwidthPublisher`

The publisher prefixes its name to the topic, splits the serialized message
over fragments that fit the MTU and hands each fragment to `sendto`.  Sizes are
`size_t` values, so their differences and sums wrap at `2 ^ 64`; the sixteen-bit
header fields truncate.  An access outside a buffer and a division by zero are
reported as faults.
-/

namespace StarterCpp
namespace PubSub

/-- Difference of two `size_t` values. -/
def sizeSub (left right : ℕ) : ℕ := (left + 2 ^ 64 - right) % 2 ^ 64

/-- Sum of two `size_t` values. -/
def sizeAdd (left right : ℕ) : ℕ := (left + right) % 2 ^ 64

/-- `memcpy` into a buffer at an offset. -/
def writeBytes (buffer : ByteString) (offset : ℕ) (bytes : ByteString) :
    Except MemoryFault ByteString :=
  if offset + bytes.length ≤ buffer.length then
    .ok (buffer.take offset ++ bytes ++ buffer.drop (offset + bytes.length))
  else .error .outOfRange

/-- The bytes read from a buffer at an offset. -/
def readBytes (buffer : ByteString) (offset count : ℕ) :
    Except MemoryFault ByteString :=
  if offset + count ≤ buffer.length then .ok ((buffer.drop offset).take count)
  else .error .outOfRange

/-- The character that joins a name and a topic. -/
def slash : UInt8 := 47

/-- `_name + "/" + topic`. -/
def namespaced (name topic : ByteString) : ByteString := name ++ slash :: topic

/-- The state of a `HighBandwidthPublisher` that `publish` reads. -/
structure Publisher where
  name : ByteString
  mtu : ℕ
  maxPayloadPerFragment : ℕ
  socket : Int
  messageIdCounter : UInt32
  running : Bool

/-- One call of `publish`: the topic, what `SerializeToString` yields, and
whether `sendto` accepts the datagram of each fragment number. -/
structure PublishRequest where
  topic : ByteString
  serialized : Option ByteString
  sendto : ℕ → Bool

/-- What a call of `publish` returns and the datagrams it put on the wire. -/
structure PublishOutcome where
  returned : Bool
  sent : List ByteString
  deriving DecidableEq, Repr

namespace Publisher

/-- The constructor, given the result of `socket` and whether the multicast
address parses. -/
def create (name : ByteString) (mtu : ℕ) (socket : Int) (addressValid : Bool) :
    Publisher where
  name := name
  mtu := mtu
  maxPayloadPerFragment := sizeSub mtu FragmentHeader.size
  socket := if socket < 0 then socket else if addressValid then socket else -1
  messageIdCounter := 0
  running := 0 ≤ socket && addressValid

/-- `firstFragPayloadSpace`: what the first fragment has left for payload. -/
def firstFragPayloadSpace (self : Publisher) (topicSize : ℕ) : ℕ :=
  sizeSub self.maxPayloadPerFragment topicSize

/-- `numFragmentsCalc`: the number of fragments a message needs. -/
def numFragmentsCalc (self : Publisher) (topicSize totalPayloadSize : ℕ) :
    Except MemoryFault ℕ :=
  if self.firstFragPayloadSpace topicSize < totalPayloadSize then
    let remaining :=
      sizeSub totalPayloadSize (self.firstFragPayloadSpace topicSize)
    let rounded :=
      sizeSub (sizeAdd remaining self.maxPayloadPerFragment) 1
    if self.maxPayloadPerFragment = 0 then .error .divisionByZero
    else .ok (sizeAdd 1 (rounded / self.maxPayloadPerFragment))
  else .ok 1

/-- The header of one fragment. -/
def header
    (messageId : UInt32)
    (numFragments topicSize fragNum : ℕ) : FragmentHeader where
  messageId := messageId
  fragmentNum := UInt16.ofNat fragNum
  totalFragments := UInt16.ofNat numFragments
  topicLen := if fragNum = 0 then UInt16.ofNat topicSize else 0
  reserved := 0

/-- One iteration of the send loop up to `sendto`: the packet buffer, the
payload offset after the fragment, and the datagram. -/
def fillFragment
    (self : Publisher)
    (namespacedTopic serialized : ByteString)
    (messageId : UInt32)
    (numFragments fragNum : ℕ)
    (packet : ByteString)
    (payloadOffset : ℕ) :
    Except MemoryFault (ByteString × ℕ × ByteString) := do
  let topicSize := namespacedTopic.length
  let packet ← writeBytes packet 0
    (header messageId numFragments topicSize fragNum).toBytes
  let packetDataOffset := FragmentHeader.size
  if fragNum = 0 then
    let packet ← writeBytes packet packetDataOffset namespacedTopic
    let packetDataOffset := packetDataOffset + topicSize
    let payloadInFirstFrag :=
      min serialized.length (self.firstFragPayloadSpace topicSize)
    let part ← readBytes serialized 0 payloadInFirstFrag
    let packet ← writeBytes packet packetDataOffset part
    let bytesToSend := FragmentHeader.size + topicSize + payloadInFirstFrag
    let datagram ← readBytes packet 0 bytesToSend
    pure (packet, payloadInFirstFrag, datagram)
  else
    let remainingPayload := sizeSub serialized.length payloadOffset
    let payloadInThisFrag := min remainingPayload self.maxPayloadPerFragment
    let part ← readBytes serialized payloadOffset payloadInThisFrag
    let packet ← writeBytes packet packetDataOffset part
    let bytesToSend := FragmentHeader.size + payloadInThisFrag
    let datagram ← readBytes packet 0 bytesToSend
    pure (packet, payloadOffset + payloadInThisFrag, datagram)

/-- The send loop from a fragment number on, with the number of fragments still
to send.  It stops at the first fragment that `sendto` refuses. -/
def sendFragments
    (self : Publisher)
    (namespacedTopic serialized : ByteString)
    (messageId : UInt32)
    (numFragments : ℕ)
    (sendto : ℕ → Bool) :
    (remaining fragNum : ℕ) → (packet : ByteString) → (payloadOffset : ℕ) →
      Except MemoryFault PublishOutcome
  | 0, _, _, _ => .ok ⟨true, []⟩
  | remaining + 1, fragNum, packet, payloadOffset => do
      let (packet, payloadOffset, datagram) ← self.fillFragment namespacedTopic
        serialized messageId numFragments fragNum packet payloadOffset
      if sendto fragNum then
        let later ← self.sendFragments namespacedTopic serialized messageId
          numFragments sendto remaining (fragNum + 1) packet payloadOffset
        pure ⟨later.returned, datagram :: later.sent⟩
      else pure ⟨false, []⟩

/-- `publish`: the publisher afterwards and the outcome of the call. -/
def publish (self : Publisher) (request : PublishRequest) :
    Except MemoryFault (Publisher × PublishOutcome) :=
  if self.socket < 0 ∨ self.running = false then .ok (self, ⟨false, []⟩)
  else
    match request.serialized with
    | none => .ok (self, ⟨false, []⟩)
    | some serialized => do
        let namespacedTopic := namespaced self.name request.topic
        let numFragments ←
          self.numFragmentsCalc namespacedTopic.length serialized.length
        if 65535 < numFragments then pure (self, ⟨false, []⟩)
        else
          let messageId := self.messageIdCounter
          let outcome ← self.sendFragments namespacedTopic serialized messageId
            numFragments request.sendto numFragments 0
            (List.replicate self.mtu 0) 0
          pure ({ self with messageIdCounter := messageId + 1 }, outcome)

/-- Successive calls of `publish` on one publisher. -/
def publishAll :
    Publisher → List PublishRequest → Except MemoryFault (List PublishOutcome)
  | _, [] => .ok []
  | self, request :: requests => do
      let (next, outcome) ← self.publish request
      let outcomes ← next.publishAll requests
      pure (outcome :: outcomes)

end Publisher
end PubSub
end StarterCpp
