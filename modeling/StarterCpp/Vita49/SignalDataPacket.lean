import StarterCpp.Vita49.PacketHeader

/-!
# Signal data packets

`SignalDataPacket`: sixteen-bit I/Q pairs between the header and an optional
trailer.  Decoding multiplies by the inverse of the scale factor; encoding
multiplies by the scale factor, rounds, narrows and clamps.
-/

namespace StarterCpp
namespace Vita49
namespace SignalDataPacket

open Scanner

variable {F : Type} [FloatArithmetic F]

/-- `SignalDataPacket::DecodeResult`. -/
structure DecodeResult (F : Type) where
  header : PacketHeader
  samples : List (IQSample F)
  deriving DecidableEq, Repr

/-- One round of the sample loop of `decode`. -/
def decodeSample
    (order : ByteOrder)
    (headerBytes : ℕ)
    (invScale : F)
    (i : ℕ) : ByteScanner (IQSample F) := do
  let word := headerBytes + i * 4
  let iVal ← readI16 word order
  let qVal ← readI16 (word + 2) order
  return {
    real := (iVal.toInt : F) * invScale
    imag := (qVal.toInt : F) * invScale }

/-- `SignalDataPacket::decode`. -/
def decode
    (length : ℕ)
    (order : ByteOrder)
    (scaleFactor : F) : ByteScanner (DecodeResult F) := do
  require (¬ (length < 4 ∨ FloatArithmetic.isZero scaleFactor = true))
  let (header, headerBytes) ← PacketHeaderCodec.parse length order
  require (header.packetType.isDataPacket = true)
  let packetBytes := header.packetSize.toNat * 4
  let trailerBytes := if header.trailerPresent then 4 else 0
  require (¬ headerBytes + trailerBytes > packetBytes)
  let payloadBytes := packetBytes - headerBytes - trailerBytes
  let numSamples := payloadBytes / 4
  let invScale := ((1 : ℤ) : F) / scaleFactor
  let samples ←
    (List.range numSamples).mapM (decodeSample order headerBytes invScale)
  assign packetBytes
  return { header, samples }

/-- `std::lroundf`, whose result has 64 bits. -/
def lroundf (x : F) : Int64 :=
  Int64.ofInt (FloatArithmetic.round x)

/-- `std::clamp` of 32-bit integers. -/
def clamp (v lo hi : Int32) : Int32 :=
  if v < lo then lo else if hi < v then hi else v

/-- The sixteen-bit value written for one component. -/
def quantize (scaleFactor component : F) : Int16 :=
  (clamp (lroundf (component * scaleFactor)).toInt32 (-32768) 32767).toInt16

/-- The payload word of one sample. -/
def encodeSample
    (order : ByteOrder)
    (scaleFactor : F)
    (sample : IQSample F) : List UInt8 :=
  writeI16 (quantize scaleFactor sample.real) order ++
    writeI16 (quantize scaleFactor sample.imag) order

/-- The header that `encode` builds, before its size is set. -/
def encodeHeader
    (streamId : UInt32)
    (packetCount : UInt8)
    (tsiType : TSI)
    (tsfType : TSF)
    (intTimestamp : UInt32)
    (fracTimestamp : UInt64)
    (includeTrailer : Bool) : PacketHeader :=
  PacketHeaderCodec.buildHeader .ifDataWithStreamId includeTrailer streamId
    packetCount tsiType tsfType intTimestamp fracTimestamp

/-- `SignalDataPacket::encode`; a packet that would be too large is empty. -/
def encode
    (streamId : UInt32)
    (samples : List (IQSample F))
    (packetCount : UInt8)
    (order : ByteOrder)
    (scaleFactor : F)
    (tsiType : TSI)
    (tsfType : TSF)
    (intTimestamp : UInt32)
    (fracTimestamp : UInt64)
    (includeTrailer : Bool) : List UInt8 :=
  let header := encodeHeader streamId packetCount tsiType tsfType intTimestamp
    fracTimestamp includeTrailer
  let headerWords := PacketHeaderCodec.sizeInWords header
  let trailerWords := if includeTrailer then 1 else 0
  let payloadWords := samples.length
  let totalWords := headerWords + payloadWords + trailerWords
  if totalWords > MAX_PACKET_SIZE_WORDS then
    []
  else
    let header := { header with packetSize := UInt16.ofNat totalWords }
    PacketHeaderCodec.serialize header order ++
      samples.flatMap (encodeSample order scaleFactor) ++
      if includeTrailer then [0, 0, 0, 0] else []

/-- `SignalDataPacket::maxSamplesPerPacket`. -/
def maxSamplesPerPacket
    (tsiType : TSI)
    (tsfType : TSF)
    (classIdPresent includeTrailer : Bool) : ℕ :=
  let headerWords :=
    2 + (if classIdPresent then 2 else 0) +
      (if tsiType != .none then 1 else 0) +
      (if tsfType != .none then 2 else 0)
  let trailerWords := if includeTrailer then 1 else 0
  let overhead := headerWords + trailerWords
  if overhead ≥ MAX_PACKET_SIZE_WORDS then
    0
  else
    MAX_PACKET_SIZE_WORDS - overhead

end SignalDataPacket
end Vita49
end StarterCpp
