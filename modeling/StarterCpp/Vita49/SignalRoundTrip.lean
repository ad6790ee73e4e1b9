import StarterCpp.Vita49.StreamFraming

/-!
# An encoded data packet is parsed back

One encoded data packet is recognised as a packet that takes all of its bytes,
in every arithmetic with a non-zero scale factor: the three places that compute
the words around the samples agree.  Its samples come back quantized.
-/

namespace StarterCpp
namespace Vita49

open Scanner

namespace SignalDataPacket

variable {F : Type} [FloatArithmetic F]

/-- The words of a data packet around its samples. -/
def overheadWords
    (tsiType : TSI)
    (tsfType : TSF)
    (includeTrailer : Bool) : ℕ :=
  2 + (if tsiType != .none then 1 else 0) +
    (if tsfType != .none then 2 else 0) + (if includeTrailer then 1 else 0)

theorem overheadWords_le
    (tsiType : TSI)
    (tsfType : TSF)
    (includeTrailer : Bool) :
    overheadWords tsiType tsfType includeTrailer ≤ 6 := by
  unfold overheadWords
  split_ifs <;> omega

/-- A full packet has the largest size. -/
theorem maxSamplesPerPacket_eq
    (tsiType : TSI)
    (tsfType : TSF)
    (includeTrailer : Bool) :
    maxSamplesPerPacket tsiType tsfType false includeTrailer =
      MAX_PACKET_SIZE_WORDS -
        overheadWords tsiType tsfType includeTrailer := by
  have small := overheadWords_le tsiType tsfType includeTrailer
  have sameOverhead :
      2 + (if tsiType != .none then 1 else 0) +
        (if tsfType != .none then 2 else 0) + (if includeTrailer then 1 else 0) =
        overheadWords tsiType tsfType includeTrailer := rfl
  simp only [maxSamplesPerPacket, Bool.false_eq_true, if_false, Nat.add_zero,
    sameOverhead]
  rw [if_neg (by rw [MAX_PACKET_SIZE_WORDS]; omega)]

theorem maxSamplesPerPacket_ne_zero
    (tsiType : TSI)
    (tsfType : TSF)
    (includeTrailer : Bool) :
    maxSamplesPerPacket tsiType tsfType false includeTrailer ≠ 0 := by
  have small := overheadWords_le tsiType tsfType includeTrailer
  rw [maxSamplesPerPacket_eq, MAX_PACKET_SIZE_WORDS]
  omega

/-- The component that decoding makes of a sixteen-bit value. -/
def dequantize (scaleFactor : F) (raw : Int16) : F :=
  (raw.toInt : F) * (((1 : ℤ) : F) / scaleFactor)

/-- A sample after encoding and decoding. -/
def quantizedSample (scaleFactor : F) (sample : IQSample F) : IQSample F where
  real := dequantize scaleFactor (quantize scaleFactor sample.real)
  imag := dequantize scaleFactor (quantize scaleFactor sample.imag)

@[simp] theorem length_encodeSample
    (order : ByteOrder)
    (scaleFactor : F)
    (sample : IQSample F) :
    (encodeSample order scaleFactor sample).length = 4 := by
  simp [encodeSample]

theorem length_flatMap_encodeSample
    (order : ByteOrder)
    (scaleFactor : F)
    (samples : List (IQSample F)) :
    (samples.flatMap (encodeSample order scaleFactor)).length =
      samples.length * 4 := by
  simp [List.length_flatMap]

variable {memory : ℕ → UInt8} {order : ByteOrder} {scaleFactor : F}

/-- An encoded sample is decoded to the quantized sample. -/
theorem result_decodeSample
    {headerBytes i : ℕ}
    {sample : IQSample F}
    (holds : Holds memory (headerBytes + i * 4)
      (encodeSample order scaleFactor sample)) :
    (decodeSample order headerBytes (((1 : ℤ) : F) / scaleFactor) i).result
        memory =
      some (quantizedSample scaleFactor sample) := by
  rw [encodeSample, holds_append, length_writeI16] at holds
  simp only [decodeSample, result_bind, result_readI16_of_holds holds.1,
    result_readI16_of_holds holds.2, Option.bind_some, result_pure]
  rfl

/-- The sample loop decodes an encoded payload. -/
theorem result_decodeSamples
    {headerBytes start : ℕ}
    {samples : List (IQSample F)}
    (holds : Holds memory (headerBytes + start * 4)
      (samples.flatMap (encodeSample order scaleFactor))) :
    ((List.range' start samples.length).mapM
        (decodeSample order headerBytes
          (((1 : ℤ) : F) / scaleFactor))).result memory =
      some (samples.map (quantizedSample scaleFactor)) := by
  induction samples generalizing start with
  | nil => rfl
  | cons sample samples inductionHypothesis =>
      rw [List.flatMap_cons, holds_append, length_encodeSample] at holds
      have restHolds : Holds memory (headerBytes + (start + 1) * 4)
          (samples.flatMap (encodeSample order scaleFactor)) := by
        rw [Nat.succ_mul, ← Nat.add_assoc]
        exact holds.2
      rw [List.length_cons, List.range'_succ, List.mapM_cons]
      simp only [result_bind, result_decodeSample holds.1,
        inductionHypothesis restHolds, Option.bind_some, result_pure,
        List.map_cons]

variable {streamId : UInt32} {samples : List (IQSample F)}
variable {packetCount : UInt8} {tsiType : TSI} {tsfType : TSF}
variable {intTimestamp : UInt32} {fracTimestamp : UInt64}
variable {includeTrailer : Bool}

/-- The header of an encoded data packet, with its size. -/
def sentHeader
    (streamId : UInt32)
    (sampleCount : ℕ)
    (packetCount : UInt8)
    (tsiType : TSI)
    (tsfType : TSF)
    (intTimestamp : UInt32)
    (fracTimestamp : UInt64)
    (includeTrailer : Bool) : PacketHeader :=
  { encodeHeader streamId packetCount tsiType tsfType intTimestamp fracTimestamp
      includeTrailer with
    packetSize := UInt16.ofNat
      (overheadWords tsiType tsfType includeTrailer + sampleCount) }

theorem sizeInWords_encodeHeader :
    PacketHeaderCodec.sizeInWords (encodeHeader streamId packetCount tsiType
        tsfType intTimestamp fracTimestamp includeTrailer) +
      (if includeTrailer then 1 else 0) =
      overheadWords tsiType tsfType includeTrailer := rfl

/-- A packet that is not too large is its header, payload and trailer. -/
theorem encode_eq
    (fits : overheadWords tsiType tsfType includeTrailer + samples.length ≤
      MAX_PACKET_SIZE_WORDS) :
    encode streamId samples packetCount order scaleFactor tsiType tsfType
        intTimestamp fracTimestamp includeTrailer =
      PacketHeaderCodec.serialize
          (sentHeader streamId samples.length packetCount tsiType tsfType
            intTimestamp fracTimestamp includeTrailer) order ++
        samples.flatMap (encodeSample order scaleFactor) ++
        if includeTrailer then [0, 0, 0, 0] else [] := by
  have total :
      PacketHeaderCodec.sizeInWords (encodeHeader streamId packetCount tsiType
          tsfType intTimestamp fracTimestamp includeTrailer) +
        samples.length + (if includeTrailer then 1 else 0) =
        overheadWords tsiType tsfType includeTrailer + samples.length := by
    rw [Nat.add_right_comm, sizeInWords_encodeHeader]
  simp only [encode, total]
  rw [if_neg (not_lt.mpr fits)]
  rfl

theorem populated_sentHeader (sampleCount : ℕ) :
    PacketHeaderCodec.Populated (sentHeader streamId sampleCount packetCount
      tsiType tsfType intTimestamp fracTimestamp includeTrailer) :=
  PacketHeaderCodec.populated_buildHeader rfl (fun _ => rfl) _ _ _ _ _ _ _

theorem toNat_packetSize_sentHeader
    {sampleCount : ℕ}
    (fits : overheadWords tsiType tsfType includeTrailer + sampleCount ≤
      MAX_PACKET_SIZE_WORDS) :
    (sentHeader streamId sampleCount packetCount tsiType tsfType intTimestamp
        fracTimestamp includeTrailer).packetSize.toNat =
      overheadWords tsiType tsfType includeTrailer + sampleCount := by
  rw [MAX_PACKET_SIZE_WORDS] at fits
  exact UInt16.toNat_ofNat_of_lt' (Nat.lt_succ_of_le fits)

/-- The header, payload and trailer of a packet add up to its size. -/
theorem length_encode
    (fits : overheadWords tsiType tsfType includeTrailer + samples.length ≤
      MAX_PACKET_SIZE_WORDS) :
    (encode streamId samples packetCount order scaleFactor tsiType tsfType
        intTimestamp fracTimestamp includeTrailer).length =
      4 * (overheadWords tsiType tsfType includeTrailer + samples.length) := by
  have words :
      PacketHeaderCodec.sizeInWords (sentHeader streamId samples.length
          packetCount tsiType tsfType intTimestamp fracTimestamp
          includeTrailer) +
        (if includeTrailer then 1 else 0) =
        overheadWords tsiType tsfType includeTrailer := rfl
  rw [encode_eq fits, List.length_append, List.length_append,
    PacketHeaderCodec.length_serialize (populated_sentHeader samples.length),
    length_flatMap_encodeSample, PacketHeaderCodec.sizeInBytes, ← words]
  split_ifs <;> simp <;> ring

/-- A packet that holds a data header and an encoded payload is decoded. -/
theorem result_decode_of_holds
    {header : PacketHeader}
    {length : ℕ}
    (populated : PacketHeaderCodec.Populated header)
    (isData : header.packetType.isDataPacket = true)
    (nonzero : FloatArithmetic.isZero scaleFactor = false)
    (size : header.packetSize.toNat =
      PacketHeaderCodec.sizeInWords header + samples.length +
        (if header.trailerPresent then 1 else 0))
    (available : header.packetSize.toNat * 4 ≤ length)
    (headerHolds : Holds memory 0 (PacketHeaderCodec.serialize header order))
    (payloadHolds : Holds memory (PacketHeaderCodec.sizeInBytes header)
      (samples.flatMap (encodeSample order scaleFactor))) :
    (decode length order scaleFactor).result memory =
      some { header, samples := samples.map (quantizedSample scaleFactor) } := by
  have parsed := PacketHeaderCodec.result_parse_of_holds populated (by omega)
    available headerHolds
  have headerWords : 1 ≤ PacketHeaderCodec.sizeInWords header := by
    rw [PacketHeaderCodec.sizeInWords]
    omega
  have accepted :
      ¬ (length < 4 ∨ FloatArithmetic.isZero scaleFactor = true) := by
    rw [nonzero]
    rintro (short | zero)
    · omega
    · contradiction
  have trailerBytes : (if header.trailerPresent then 4 else 0) =
      (if header.trailerPresent then 1 else 0) * 4 := by
    split <;> rfl
  have room : ¬ PacketHeaderCodec.sizeInBytes header +
      (if header.trailerPresent then 4 else 0) >
        header.packetSize.toNat * 4 := by
    rw [trailerBytes, PacketHeaderCodec.sizeInBytes]
    omega
  have count :
      (header.packetSize.toNat * 4 - PacketHeaderCodec.sizeInBytes header -
        (if header.trailerPresent then 4 else 0)) / 4 = samples.length := by
    rw [trailerBytes, PacketHeaderCodec.sizeInBytes]
    omega
  have payload :
      ((List.range' 0 samples.length).mapM
        (decodeSample order (PacketHeaderCodec.sizeInBytes header)
          (((1 : ℤ) : F) / scaleFactor))).result memory = _ :=
    result_decodeSamples (by rwa [Nat.zero_mul, Nat.add_zero])
  rw [← List.range_eq_range'] at payload
  simp only [decode, result_bind, result_require, parsed, Option.bind_some,
    if_pos accepted, if_pos isData, if_pos room, count, payload,
    result_assign, result_pure]

/-- An encoded packet is decoded to its header and its quantized samples. -/
theorem result_decode_encode
    {length : ℕ}
    (nonzero : FloatArithmetic.isZero scaleFactor = false)
    (fits : overheadWords tsiType tsfType includeTrailer + samples.length ≤
      MAX_PACKET_SIZE_WORDS)
    (available :
      4 * (overheadWords tsiType tsfType includeTrailer + samples.length) ≤
        length)
    (holds : Holds memory 0
      (encode streamId samples packetCount order scaleFactor tsiType tsfType
        intTimestamp fracTimestamp includeTrailer)) :
    (decode length order scaleFactor).result memory =
      some {
        header := sentHeader streamId samples.length packetCount tsiType tsfType
          intTimestamp fracTimestamp includeTrailer
        samples := samples.map (quantizedSample scaleFactor) } := by
  rw [encode_eq fits, holds_append, holds_append] at holds
  obtain ⟨⟨headerHolds, payloadHolds⟩, -⟩ := holds
  rw [PacketHeaderCodec.length_serialize (populated_sentHeader samples.length),
    Nat.zero_add] at payloadHolds
  refine result_decode_of_holds (populated_sentHeader samples.length) rfl nonzero
    ?_ ?_ headerHolds payloadHolds
  · rw [toNat_packetSize_sentHeader fits, Nat.add_right_comm]
    rfl
  · rw [toNat_packetSize_sentHeader fits]
    omega

end SignalDataPacket

namespace Vita49Codec

open SignalDataPacket

variable {F D : Type} [FloatArithmetic F] [FloatArithmetic D]
variable {codec : Vita49Codec F}
variable {streamId : UInt32} {samples : List (IQSample F)}
variable {packetCount : UInt8} {tsiType : TSI} {tsfType : TSF}
variable {intTimestamp : UInt32} {fracTimestamp : UInt64}
variable {includeTrailer : Bool}

/-- One encoded data packet is recognised and takes all of its bytes. -/
theorem recognise_encode
    (nonzero : FloatArithmetic.isZero codec.scaleFactor = false)
    (fits : overheadWords tsiType tsfType includeTrailer + samples.length ≤
      MAX_PACKET_SIZE_WORDS) :
    (codec.recognise (encode streamId samples packetCount codec.byteOrder
        codec.scaleFactor tsiType tsfType intTimestamp fracTimestamp
        includeTrailer) : Option (ParsedPacket F D × ℕ)) =
      some ({
        type := .signalData
        header := sentHeader streamId samples.length packetCount tsiType tsfType
          intTimestamp fracTimestamp includeTrailer
        samples := samples.map (quantizedSample codec.scaleFactor) },
        (encode streamId samples packetCount codec.byteOrder codec.scaleFactor
          tsiType tsfType intTimestamp fracTimestamp includeTrailer).length) := by
  have bytes := holds_memoryOf (encode streamId samples packetCount
    codec.byteOrder codec.scaleFactor tsiType tsfType intTimestamp
    fracTimestamp includeTrailer) []
  rw [List.append_nil] at bytes
  refine recognise_of_decode_data
    (result_decode_encode nonzero fits (length_encode fits).ge bytes) ?_
  rw [length_encode fits, toNat_packetSize_sentHeader fits]

end Vita49Codec
end Vita49
end StarterCpp
