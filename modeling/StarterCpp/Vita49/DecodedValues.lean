import StarterCpp.Vita49.ContextRoundTrip
import StarterCpp.Vita49.Quantization
import StarterCpp.Vita49.SignalRoundTrip

/-!
# Decoded values are already quantized

In exact arithmetic a decoder only returns values of the fixed-point formats.
Encoding such a value writes the bits it came from, so encoding and decoding it
again changes nothing.
-/

namespace StarterCpp
namespace Vita49

open Scanner

variable {memory : ℕ → UInt8} {order : ByteOrder} {length : ℕ}

namespace SignalDataPacket

variable {scaleFactor : ℚ}

/-- A decoded component survives another encoding and decoding. -/
theorem dequantize_quantize_dequantize
    (nonzero : scaleFactor ≠ 0)
    (raw : Int16) :
    dequantize scaleFactor
        (quantize scaleFactor (dequantize scaleFactor raw)) =
      dequantize scaleFactor raw := by
  rw [dequantize, dequantize, quantize_dequantize nonzero]

theorem meets_decodeSample_settled
    (nonzero : scaleFactor ≠ 0)
    (headerBytes i : ℕ) :
    Meets memory (fun _ => True)
      (decodeSample order headerBytes (((1 : ℤ) : ℚ) / scaleFactor) i)
      fun sample => quantizedSample scaleFactor sample = sample := by
  unfold decodeSample
  refine (meets_readI16 order fun _ _ => trivial).bind fun iVal _ => ?_
  refine (meets_readI16 order fun _ _ => trivial).bind fun qVal _ =>
    Meets.pure ?_
  have realSame := dequantize_quantize_dequantize nonzero iVal
  have imagSame := dequantize_quantize_dequantize nonzero qVal
  exact congrArg₂ IQSample.mk realSame imagSame

/-- The samples of a decoded packet are quantized. -/
theorem meets_decode_settled :
    Meets memory (fun _ => True) (decode length order scaleFactor)
      fun decoded => ∀ sample ∈ decoded.samples,
        quantizedSample scaleFactor sample = sample := by
  unfold decode
  refine (Meets.require _).bind fun _ accepted => ?_
  have nonzero : scaleFactor ≠ 0 := by
    intro zero
    exact accepted (.inr (by simpa using zero))
  refine (PacketHeaderCodec.meets_parse.imp (fun _ _ => trivial)
    fun _ => id).bind fun ⟨header, headerBytes⟩ _ => ?_
  refine (Meets.require _).bind fun _ _ => (Meets.require _).bind fun _ _ => ?_
  refine (Meets.mapM fun i _ =>
    meets_decodeSample_settled nonzero headerBytes i).bind
      fun samples settled => ?_
  exact (Meets.assign _).bind fun _ _ => Meets.pure settled

end SignalDataPacket

namespace ContextPacket

section FixedPoints

/-- A decoded frequency survives another encoding and decoding. -/
theorem requantizedFreq_freqFromFixed (raw : Int64) :
    requantizedFreq (freqFromFixed raw : ℚ) = freqFromFixed raw := by
  have scaled : (freqFromFixed raw : ℚ) * (FREQ_RADIX : ℚ) = (raw.toInt : ℤ) := by
    rw [freqFromFixed, FREQ_RADIX]
    norm_num
  have same : freqToFixed (freqFromFixed raw : ℚ) = raw := by
    rw [freqToFixed, scaled, ExactArithmetic.round_eq,
      ExactArithmetic.roundHalfAway_intCast, Int64.ofInt_toInt]
  rw [requantizedFreq, same]

/-- Sixteen bits with seven fractional bits are scaled back exactly. -/
theorem round_level (val : Int16) :
    Int16.ofInt (FloatArithmetic.round
      ((val.toInt : ℚ) / (GAIN_RADIX : ℚ) * (GAIN_RADIX : ℚ))) = val := by
  have scaled : (val.toInt : ℚ) / (GAIN_RADIX : ℚ) * (GAIN_RADIX : ℚ) =
      (val.toInt : ℤ) := by
    rw [GAIN_RADIX]
    norm_num
  rw [scaled, ExactArithmetic.round_eq, ExactArithmetic.roundHalfAway_intCast,
    Int16.ofInt_toInt]

/-- A half word in the upper half of a word is taken out again. -/
theorem upperHalf (half : UInt16) :
    (((half.toUInt32 <<< 16) >>> 16) &&& 0xFFFF).toUInt16 = half := by
  have small := half.toNat_lt
  rw [← UInt16.toNat_inj, UInt32.toNat_toUInt16,
    PacketHeaderCodec.toNat_field _ 16 16 rfl rfl (by decide)]
  simp only [UInt32.toNat_shiftLeft, UInt16.toNat_toUInt32,
    UInt32.reduceToNat, Nat.reduceMod, Nat.shiftLeft_eq]
  omega

/-- A half word in the lower half of a word is taken out again. -/
theorem lowerHalf (half : UInt16) :
    (half.toUInt32 &&& 0xFFFF).toUInt16 = half := by
  have small := half.toNat_lt
  rw [← UInt16.toNat_inj, PacketHeaderCodec.toNat_low16,
    UInt16.toNat_toUInt32]
  omega

/-- A decoded reference level survives another encoding and decoding. -/
theorem requantizedLevel_refLevelFromFixed (raw : UInt32) :
    requantizedLevel (refLevelFromFixed raw : ℚ) = refLevelFromFixed raw := by
  simp only [requantizedLevel, refLevelToFixed, refLevelFromFixed, round_level,
    upperHalf, Int16.toInt16_toUInt16]

/-- A decoded gain survives another encoding and decoding. -/
theorem requantizedGain_gainFromFixed (raw : UInt32) :
    requantizedGain (gainFromFixed raw : ℚ) = gainFromFixed raw := by
  simp only [requantizedGain, gainToFixed, gainFromFixed, round_level,
    lowerHalf, Int16.toInt16_toUInt16]

end FixedPoints

theorem meets_readFreq_settled (offset : ℕ) :
    Meets memory (fun _ => True) (readFreq offset order : ByteScanner ℚ)
      fun hz => requantizedFreq hz = hz :=
  (meets_readDWord order fun _ _ => trivial).bind fun raw _ =>
    Meets.pure (requantizedFreq_freqFromFixed raw.toInt64)

/-- Decoding a field keeps the fields quantized. -/
theorem meets_decodeField_settled
    (bit offset : ℕ)
    {fields : ContextFields ℚ}
    (settled : requantized fields = fields) :
    Meets memory (fun _ => True) (decodeField order bit offset fields)
      fun decoded => requantized decoded = decoded := by
  rw [ContextFields.ext_iff] at settled
  simp only [requantized] at settled
  unfold decodeField
  split
  all_goals first
    | exact Meets.pure (by simp [requantized, settled])
    | refine (meets_readWord order fun _ _ => trivial).bind fun value _ =>
        Meets.pure ?_
      simp [requantized, settled,
        requantizedLevel_refLevelFromFixed, requantizedGain_gainFromFixed]
    | refine (meets_readFreq_settled offset).bind fun value valueSettled =>
        Meets.pure ?_
      simp [requantized, settled, valueSettled]

/-- The fields of a decoded packet are quantized. -/
theorem meets_decode_settled :
    Meets memory (fun _ => True)
      (decode length order : ByteScanner (DecodeResult ℚ))
      fun decoded => requantized decoded.fields = decoded.fields := by
  unfold decode
  refine (Meets.require _).bind fun _ _ => ?_
  refine (PacketHeaderCodec.meets_parse.imp (fun _ _ => trivial)
    fun _ => id).bind fun ⟨header, headerBytes⟩ _ => ?_
  refine (Meets.require _).bind fun _ _ => (Meets.require _).bind fun _ _ => ?_
  refine (meets_readWord order fun _ _ => trivial).bind fun cif0 _ => ?_
  have walk :
      Meets memory (fun _ => True)
        (decodeFields order cif0 (header.packetSize.toNat * 4) loopBits
          (headerBytes + 4)
          { changeIndicator := (cif0 &&& CIF0_CHANGE_INDICATOR) != 0 })
        fun fields : ContextFields ℚ => requantized fields = fields :=
    meets_decodeFields rfl fun bit offset fields settled _ =>
      meets_decodeField_settled bit offset settled
  refine walk.bind fun fields settled => ?_
  exact (Meets.assign _).bind fun _ _ => Meets.pure settled

end ContextPacket

namespace Vita49Codec

/-- Encoding and decoding changes no value of a packet. -/
structure Settled
    {F D : Type}
    [FloatArithmetic F]
    [FloatArithmetic D]
    (codec : Vita49Codec F)
    (packet : ParsedPacket F D) : Prop where
  samples : ∀ sample ∈ packet.samples,
    SignalDataPacket.quantizedSample codec.scaleFactor sample = sample
  fields :
    ContextPacket.requantized packet.contextFields = packet.contextFields

theorem meets_parsePacketScanner_settled {codec : Vita49Codec ℚ} :
    Meets memory (fun _ => True)
      (codec.parsePacketScanner length : ByteScanner (ParsedPacket ℚ ℚ))
      codec.Settled := by
  unfold parsePacketScanner
  refine (Meets.require _).bind fun _ _ => ?_
  refine (meets_readWord codec.byteOrder fun _ _ => trivial).bind
    fun word0 _ => ?_
  dsimp only
  split_ifs
  · exact SignalDataPacket.meets_decode_settled.bind
      fun _ settled => Meets.pure ⟨settled, rfl⟩
  · exact ContextPacket.meets_decode_settled.bind
      fun _ settled => Meets.pure ⟨by simp, settled⟩
  · exact (Meets.require _).bind fun _ _ =>
      (Meets.assign _).bind fun _ _ => Meets.pure ⟨by simp, rfl⟩

/-- In exact arithmetic, encoding and decoding changes no packet of a stream. -/
theorem settled_of_mem_parseStream
    (codec : Vita49Codec ℚ)
    (data : List UInt8) :
    ∀ packet ∈ (codec.parseStream data : List (ParsedPacket ℚ ℚ)),
      codec.Settled packet := by
  have settledFrames :
      ∀ frame ∈ codec.framer.frames data, codec.Settled frame.1 :=
    Framer.forall_mem_frames (fun data packet size recognised =>
      meets_parsePacketScanner_settled.result_ensured packet
        (result_of_parsePacket (recognise_eq_some.mp recognised))) data
  intro packet packetMem
  rw [(streamRun_eq_frames codec data).1] at packetMem
  obtain ⟨frame, frameMem, rfl⟩ := List.mem_map.mp packetMem
  exact settledFrames frame frameMem

end Vita49Codec
end Vita49
end StarterCpp
