import StarterCpp.Vita49.ContextPacket
import StarterCpp.Vita49.SignalDataPacket

/-!
# The stream codec

`Vita49Codec`: parsing a buffer of concatenated packets one packet at a time,
and encoding sample vectors of any length as a run of packets.
-/

namespace StarterCpp
namespace Vita49

open Scanner

/-- `ParsedPacket::Type`. -/
inductive ParsedPacketType
  | signalData
  | context
  | unknown
  deriving DecidableEq, Repr

/-- Result of parsing any single packet. -/
structure ParsedPacket (F D : Type) where
  type : ParsedPacketType := .unknown
  header : PacketHeader := {}
  samples : List (IQSample F) := []
  contextFields : ContextFields D := {}
  deriving DecidableEq, Repr

/-- The configuration of a codec. -/
structure Vita49Codec (F : Type) where
  byteOrder : ByteOrder
  scaleFactor : F

namespace Vita49Codec

section Decoding

variable {F D : Type} [FloatArithmetic F] [FloatArithmetic D]

/-- The body of `parsePacket`, with `bytesConsumed` as its output parameter. -/
def parsePacketScanner
    (codec : Vita49Codec F)
    (length : ℕ) : ByteScanner (ParsedPacket F D) := do
  require (¬ length < 4)
  let word0 ← readWord 0 codec.byteOrder
  let packetType := PacketType.ofCode ((word0 >>> 28) &&& 0xF)
  if packetType.isDataPacket then do
    let decoded ←
      SignalDataPacket.decode length codec.byteOrder codec.scaleFactor
    return {
      type := .signalData
      header := decoded.header
      samples := decoded.samples }
  else if packetType.isContextPacket then do
    let decoded ← ContextPacket.decode length codec.byteOrder
    return {
      type := .context
      header := decoded.header
      contextFields := decoded.fields }
  else do
    -- Unknown packet type: skip by the size in the first word.
    let packetSize := (word0 &&& 0xFFFF).toUInt16
    let packetBytes := packetSize.toNat * 4
    require (¬ (packetSize = 0 ∨ packetBytes > length))
    assign packetBytes
    return { type := .unknown }

/-- `Vita49Codec::parsePacket`: the packet, if any, and the value left in
`bytesConsumed`. -/
def parsePacket
    (codec : Vita49Codec F)
    (data : List UInt8)
    (bytesConsumed : ℕ) : Option (ParsedPacket F D) × ℕ :=
  let scanner : ByteScanner (ParsedPacket F D) :=
    codec.parsePacketScanner data.length
  (scanner.result (memoryOf data), scanner.output (memoryOf data) bytesConsumed)

/-- The indices that a call of `parsePacket` reads. -/
def parsePacketReads
    (D : Type)
    [FloatArithmetic D]
    (codec : Vita49Codec F)
    (data : List UInt8) : List ℕ :=
  let scanner : ByteScanner (ParsedPacket F D) :=
    codec.parsePacketScanner data.length
  scanner.reads (memoryOf data)

/-- A run of the stream loop: the packets it appends, the offset at which it
stops, and its reads, each with the offset of the packet it belongs to. -/
structure StreamRun (F D : Type) where
  results : List (ParsedPacket F D)
  offset : ℕ
  reads : List (ℕ × ℕ)

/-- The loop of `parseStream` from an offset on. -/
def parseStreamFrom
    (codec : Vita49Codec F)
    (data : List UInt8)
    (offset : ℕ) : StreamRun F D :=
  if offset < data.length then
    let remaining := data.length - offset
    if remaining < 4 then
      { results := [], offset := offset, reads := [] }
    else
      let rest := data.drop offset
      let reads := (codec.parsePacketReads D rest).map
        fun index => (offset, offset + index)
      match codec.parsePacket rest 0 with
      | (none, _) => { results := [], offset := offset, reads := reads }
      | (some packet, consumed) =>
          if consumed = 0 then
            { results := [], offset := offset, reads := reads }
          else
            let later := parseStreamFrom codec data (offset + consumed)
            { results := packet :: later.results
              offset := later.offset
              reads := reads ++ later.reads }
  else
    { results := [], offset := offset, reads := [] }
termination_by data.length - offset

/-- The whole loop, which an empty buffer does not enter. -/
def streamRun (codec : Vita49Codec F) (data : List UInt8) : StreamRun F D :=
  if data.length = 0 then
    { results := [], offset := 0, reads := [] }
  else
    codec.parseStreamFrom data 0

/-- `Vita49Codec::parseStream`. -/
def parseStream
    (codec : Vita49Codec F)
    (data : List UInt8) : List (ParsedPacket F D) :=
  (codec.streamRun data).results

end Decoding

section Encoding

variable {F D : Type} [FloatArithmetic F] [FloatArithmetic D]

/-- The loop of `encodeSignalData` from an offset on. -/
def encodeChunks
    (codec : Vita49Codec F)
    (streamId : UInt32)
    (samples : List (IQSample F))
    (tsiType : TSI)
    (tsfType : TSF)
    (intTimestamp : UInt32)
    (fracTimestamp : UInt64)
    (includeTrailer : Bool)
    (maxPerPacket : ℕ)
    (positive : maxPerPacket ≠ 0)
    (offset : ℕ)
    (pktCount : UInt8) : List UInt8 :=
  if offset < samples.length then
    let count := min maxPerPacket (samples.length - offset)
    let chunk := (samples.drop offset).take count
    let packet := SignalDataPacket.encode streamId chunk pktCount
      codec.byteOrder codec.scaleFactor tsiType tsfType intTimestamp
      fracTimestamp includeTrailer
    if packet.isEmpty then
      []
    else
      packet ++ encodeChunks codec streamId samples tsiType tsfType intTimestamp
        fracTimestamp includeTrailer maxPerPacket positive (offset + count)
        ((pktCount + 1) &&& 0xF)
  else
    []
termination_by samples.length - offset

/-- `Vita49Codec::encodeSignalData`. -/
def encodeSignalData
    (codec : Vita49Codec F)
    (streamId : UInt32)
    (samples : List (IQSample F))
    (startPacketCount : UInt8)
    (tsiType : TSI)
    (tsfType : TSF)
    (intTimestamp : UInt32)
    (fracTimestamp : UInt64)
    (includeTrailer : Bool) : List UInt8 :=
  let maxPerPacket := SignalDataPacket.maxSamplesPerPacket tsiType tsfType false
    includeTrailer
  if noRoom : maxPerPacket = 0 then
    []
  else
    let result := codec.encodeChunks streamId samples tsiType tsfType
      intTimestamp fracTimestamp includeTrailer maxPerPacket noRoom 0
      startPacketCount
    if samples.isEmpty then
      SignalDataPacket.encode streamId samples startPacketCount codec.byteOrder
        codec.scaleFactor tsiType tsfType intTimestamp fracTimestamp
        includeTrailer
    else
      result

/-- `Vita49Codec::encodeContext`. -/
def encodeContext
    (codec : Vita49Codec F)
    (streamId : UInt32)
    (fields : ContextFields D)
    (packetCount : UInt8)
    (tsiType : TSI)
    (tsfType : TSF)
    (intTimestamp : UInt32)
    (fracTimestamp : UInt64) : List UInt8 :=
  ContextPacket.encode streamId fields packetCount codec.byteOrder tsiType
    tsfType intTimestamp fracTimestamp

end Encoding

end Vita49Codec
end Vita49
end StarterCpp
