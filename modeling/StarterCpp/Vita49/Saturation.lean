import StarterCpp.Vita49.Quantization
import StarterCpp.Vita49.SignalRoundTrip

/-!
# Saturation of samples

A sample is meant to be written as its rounded product, clamped to sixteen bits.
The encoder narrows the rounded product to 32 bits before it clamps it, so a
product outside 32 bits is clamped only after it has been wrapped around.  Which
products are written as they are meant to be is decided here, for every sample
vector.
-/

namespace StarterCpp
namespace Vita49

theorem round_mono {x y : ℚ} (le : x ≤ y) : round x ≤ round y := by
  rw [round_eq, round_eq]
  exact Int.floor_le_floor (by linarith)

theorem round_nonneg {x : ℚ} (nonneg : 0 ≤ x) : 0 ≤ round x := by
  have bound := round_mono nonneg
  rwa [round_zero] at bound

namespace ExactArithmetic

/-- Rounding halves away from zero is monotone. -/
theorem roundHalfAway_mono {x y : ℚ} (le : x ≤ y) :
    roundHalfAway x ≤ roundHalfAway y := by
  unfold roundHalfAway
  split_ifs with xNonneg yNonneg yNonneg
  · exact round_mono le
  · exact absurd (xNonneg.trans le) yNonneg
  · have mirrored : 0 ≤ round (-x) := round_nonneg (by linarith)
    have upper := round_nonneg yNonneg
    omega
  · exact Int.neg_le_neg (round_mono (by linarith))

end ExactArithmetic

namespace SignalDataPacket

open ExactArithmetic

/-- The rounded product of a component and the scale factor. -/
def roundedProduct (scaleFactor component : ℚ) : ℤ :=
  roundHalfAway (component * scaleFactor)

/-- A number clamped to sixteen bits. -/
def saturate (r : ℤ) : ℤ :=
  max (-32768) (min r 32767)

/-- Narrowing to 32 bits does not change what clamping makes of a number: it
lies within 32 bits, or it wraps around to a number that is clamped to the same
side. -/
def SurvivesNarrowing (r : ℤ) : Prop :=
  (-2 ^ 31 ≤ r ∧ r < 2 ^ 31) ∨
    (2 ^ 31 ≤ r ∧ 32767 ≤ r % 2 ^ 32 ∧ r % 2 ^ 32 < 2 ^ 31) ∨
    (r < -2 ^ 31 ∧ 2 ^ 31 ≤ r % 2 ^ 32 ∧ r % 2 ^ 32 ≤ 2 ^ 32 - 32768)

instance (r : ℤ) : Decidable (SurvivesNarrowing r) :=
  inferInstanceAs (Decidable (_ ∨ _ ∨ _))

/-- Wrapping to 32 bits, by the remainder. -/
theorem bmod_eq (r : ℤ) :
    r.bmod (2 ^ 32) =
      if r % 2 ^ 32 < 2 ^ 31 then r % 2 ^ 32 else r % 2 ^ 32 - 2 ^ 32 :=
  rfl

theorem saturate_bmod_iff (r : ℤ) :
    saturate (r.bmod (2 ^ 32)) = saturate r ↔ SurvivesNarrowing r := by
  rw [bmod_eq, saturate, saturate, SurvivesNarrowing]
  split_ifs <;> omega

/-- A component is written saturated exactly when its rounded product survives
the narrowing. -/
theorem quantize_eq_saturate_iff (scaleFactor component : ℚ) :
    (quantize scaleFactor component).toInt =
        saturate (roundedProduct scaleFactor component) ↔
      SurvivesNarrowing (roundedProduct scaleFactor component) := by
  rw [toInt_quantize, ← saturate_bmod_iff]
  rfl

theorem roundedProduct_mono
    {scaleFactor x y : ℚ}
    (positive : 0 < scaleFactor)
    (le : x ≤ y) :
    roundedProduct scaleFactor x ≤ roundedProduct scaleFactor y :=
  roundHalfAway_mono (mul_le_mul_of_nonneg_right le positive.le)

theorem saturate_mono {r s : ℤ} (le : r ≤ s) : saturate r ≤ saturate s := by
  rw [saturate, saturate]
  omega

/-- The sixteen bits that are meant to be written for a component. -/
def saturated (scaleFactor component : ℚ) : Int16 :=
  Int16.ofInt (saturate (roundedProduct scaleFactor component))

theorem toInt_saturated (scaleFactor component : ℚ) :
    (saturated scaleFactor component).toInt =
      saturate (roundedProduct scaleFactor component) := by
  rw [saturated]
  apply Int16.toInt_ofInt_of_le <;> rw [saturate] <;> omega

theorem quantize_eq_saturated_iff (scaleFactor component : ℚ) :
    quantize scaleFactor component = saturated scaleFactor component ↔
      SurvivesNarrowing (roundedProduct scaleFactor component) := by
  rw [← Int16.toInt_inj, toInt_saturated, quantize_eq_saturate_iff]

/-- The payload word that is meant to be written for a sample. -/
def saturatedSample
    (order : ByteOrder)
    (scaleFactor : ℚ)
    (sample : IQSample ℚ) : List UInt8 :=
  writeI16 (saturated scaleFactor sample.real) order ++
    writeI16 (saturated scaleFactor sample.imag) order

theorem writeI16_injective (order : ByteOrder) :
    Function.Injective (writeI16 · order) := by
  intro first second same
  have firstSmall := first.toUInt16.toNat_lt
  have secondSmall := second.toUInt16.toNat_lt
  have values := congrArg order.value same
  simp only [writeI16_eq, ByteOrder.value_toBytes] at values
  rw [Nat.mod_eq_of_lt (by norm_num; omega),
    Nat.mod_eq_of_lt (by norm_num; omega), UInt16.toNat_inj] at values
  rw [← Int16.toInt16_toUInt16 first, values, Int16.toInt16_toUInt16]

/-- A sample is written as it is meant to be when both components survive. -/
theorem encodeSample_eq_iff
    (order : ByteOrder)
    (scaleFactor : ℚ)
    (sample : IQSample ℚ) :
    encodeSample order scaleFactor sample =
        saturatedSample order scaleFactor sample ↔
      SurvivesNarrowing (roundedProduct scaleFactor sample.real) ∧
        SurvivesNarrowing (roundedProduct scaleFactor sample.imag) := by
  rw [encodeSample, saturatedSample, ← quantize_eq_saturated_iff,
    ← quantize_eq_saturated_iff]
  constructor
  · intro same
    have parts := List.append_inj same (by simp)
    exact ⟨writeI16_injective order parts.1, writeI16_injective order parts.2⟩
  · rintro ⟨sameReal, sameImag⟩
    rw [sameReal, sameImag]

/-- The payload is written as it is meant to be when every sample is. -/
theorem payload_eq_iff
    (order : ByteOrder)
    (scaleFactor : ℚ)
    (samples : List (IQSample ℚ)) :
    samples.flatMap (encodeSample order scaleFactor) =
        samples.flatMap (saturatedSample order scaleFactor) ↔
      ∀ sample ∈ samples,
        SurvivesNarrowing (roundedProduct scaleFactor sample.real) ∧
          SurvivesNarrowing (roundedProduct scaleFactor sample.imag) := by
  induction samples with
  | nil => simp
  | cons sample samples inductionHypothesis =>
      rw [List.flatMap_cons, List.flatMap_cons, List.forall_mem_cons,
        ← inductionHypothesis, ← encodeSample_eq_iff order]
      constructor
      · intro same
        exact List.append_inj same (by simp [saturatedSample])
      · rintro ⟨first, rest⟩
        rw [first, rest]

/-- The payload that `encode` writes behind the header. -/
def payloadOf
    (packet : List UInt8)
    (tsiType : TSI)
    (tsfType : TSF)
    (sampleCount : ℕ) : List UInt8 :=
  (packet.drop (PacketHeaderCodec.sizeInBytes
    (encodeHeader 0 0 tsiType tsfType 0 0 false))).take (4 * sampleCount)

/-- The payload of a packet that is not too large. -/
theorem payloadOf_encode
    {streamId : UInt32}
    {samples : List (IQSample ℚ)}
    {packetCount : UInt8}
    {order : ByteOrder}
    {scaleFactor : ℚ}
    {tsiType : TSI}
    {tsfType : TSF}
    {intTimestamp : UInt32}
    {fracTimestamp : UInt64}
    {includeTrailer : Bool}
    (fits : overheadWords tsiType tsfType includeTrailer + samples.length ≤
      MAX_PACKET_SIZE_WORDS) :
    payloadOf (encode streamId samples packetCount order scaleFactor tsiType
        tsfType intTimestamp fracTimestamp includeTrailer) tsiType tsfType
        samples.length = samples.flatMap (encodeSample order scaleFactor) := by
  have header :
      (PacketHeaderCodec.serialize (sentHeader streamId samples.length
        packetCount tsiType tsfType intTimestamp fracTimestamp includeTrailer)
          order).length =
        PacketHeaderCodec.sizeInBytes
          (encodeHeader 0 0 tsiType tsfType 0 0 false) :=
    PacketHeaderCodec.length_serialize (populated_sentHeader samples.length) order
  rw [payloadOf, encode_eq fits, List.append_assoc, List.drop_left' header]
  exact List.take_left' (by rw [length_flatMap_encodeSample, Nat.mul_comm])

/-- Encoding saturates every component exactly when the rounded product of every
component survives the narrowing to 32 bits.  Components that do are encoded
monotonically, and those over range as full scale of their sign. -/
theorem encode_saturates_iff
    (streamId : UInt32)
    (samples : List (IQSample ℚ))
    (packetCount : UInt8)
    (order : ByteOrder)
    (scaleFactor : ℚ)
    (tsiType : TSI)
    (tsfType : TSF)
    (intTimestamp : UInt32)
    (fracTimestamp : UInt64)
    (includeTrailer : Bool)
    (positive : 0 < scaleFactor)
    (fits : overheadWords tsiType tsfType includeTrailer + samples.length ≤
      MAX_PACKET_SIZE_WORDS) :
    (payloadOf (encode streamId samples packetCount order scaleFactor tsiType
        tsfType intTimestamp fracTimestamp includeTrailer) tsiType tsfType
        samples.length = samples.flatMap (saturatedSample order scaleFactor) ↔
      ∀ sample ∈ samples,
        SurvivesNarrowing (roundedProduct scaleFactor sample.real) ∧
          SurvivesNarrowing (roundedProduct scaleFactor sample.imag)) ∧
      (∀ x y, SurvivesNarrowing (roundedProduct scaleFactor x) →
        SurvivesNarrowing (roundedProduct scaleFactor y) → x ≤ y →
          quantize scaleFactor x ≤ quantize scaleFactor y) ∧
      (∀ x, SurvivesNarrowing (roundedProduct scaleFactor x) →
        (32767 ≤ roundedProduct scaleFactor x → quantize scaleFactor x = 32767) ∧
        (roundedProduct scaleFactor x ≤ -32768 →
          quantize scaleFactor x = -32768)) := by
  rw [payloadOf_encode fits]
  have written {x : ℚ}
      (survives : SurvivesNarrowing (roundedProduct scaleFactor x)) :=
    (quantize_eq_saturate_iff scaleFactor x).mpr survives
  refine ⟨payload_eq_iff order scaleFactor samples, ?_, ?_⟩
  · intro x y xSurvives ySurvives le
    rw [Int16.le_iff_toInt_le, written xSurvives, written ySurvives]
    exact saturate_mono (roundedProduct_mono positive le)
  · intro x survives
    constructor
    · intro high
      rw [← Int16.toInt_inj, written survives, saturate, min_eq_right high]
      rfl
    · intro low
      rw [← Int16.toInt_inj, written survives, saturate,
        max_eq_left ((min_le_left _ _).trans low)]
      rfl

/-- Two samples of which the second is over range. -/
theorem encode_saturates_iff_over_range :
    payloadOf (encode 1 [(⟨1 / 2, -3⟩ : IQSample ℚ), ⟨50000, 0⟩] 0 .bigEndian
        32768 .none .none 0 0 false) .none .none 2 =
      [0x40, 0, 0x80, 0, 0x7F, 0xFF, 0, 0] := by
  have survive : ∀ sample ∈ [(⟨1 / 2, -3⟩ : IQSample ℚ), ⟨50000, 0⟩],
      SurvivesNarrowing (roundedProduct 32768 sample.real) ∧
        SurvivesNarrowing (roundedProduct 32768 sample.imag) := by
    decide +kernel
  have payload : payloadOf (encode 1 [(⟨1 / 2, -3⟩ : IQSample ℚ), ⟨50000, 0⟩] 0
      .bigEndian 32768 .none .none 0 0 false) .none .none 2 = _ :=
    (encode_saturates_iff 1 _ 0 .bigEndian 32768 .none .none 0 0 false
      (by norm_num) (by decide)).1.mpr survive
  exact payload.trans (by decide +kernel)

/-- Under the default scale factor 65536 is written as negative full scale, and
one as positive full scale. -/
theorem encode_wraps_around :
    payloadOf (encode 1 [(⟨65536, 1⟩ : IQSample ℚ)] 0 .bigEndian 32768 .none
        .none 0 0 false) .none .none 1 = [0x80, 0, 0x7F, 0xFF] ∧
      payloadOf (encode 1 [(⟨65536, 1⟩ : IQSample ℚ)] 0 .bigEndian 32768 .none
          .none 0 0 false) .none .none 1 ≠
        [(⟨65536, 1⟩ : IQSample ℚ)].flatMap (saturatedSample .bigEndian 32768) ∧
      (1 : ℚ) ≤ 65536 ∧
      ¬ quantize (32768 : ℚ) 1 ≤ quantize (32768 : ℚ) 65536 := by
  decide +kernel

end SignalDataPacket
end Vita49
end StarterCpp
