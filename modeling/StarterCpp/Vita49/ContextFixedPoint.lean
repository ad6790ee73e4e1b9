import StarterCpp.Vita49.DecodedValues

/-!
# Context fields in their fixed-point formats

A frequency that is a whole number of steps of the 64-bit format, and a level
that is a whole number of steps of the 16-bit format, is written exactly.  A
context packet of such fields is decoded to the same fields, whichever of them
are present and whatever follows the packet.
-/

namespace StarterCpp
namespace Vita49

open Scanner

namespace ContextPacket

/-- `ContextPacket::decode` on a buffer: the result and `bytesConsumed`. -/
def decodeBuffer
    {D : Type}
    [FloatArithmetic D]
    (data : List UInt8)
    (order : ByteOrder)
    (bytesConsumed : ℕ) : Option (DecodeResult D) × ℕ :=
  ((decode data.length order).result (memoryOf data),
    (decode data.length order : ByteScanner (DecodeResult D)).output
      (memoryOf data) bytesConsumed)

/-- A number of whole steps of a fixed-point format, between two bounds. -/
def StepsBetween (radix low high : ℤ) (x : ℚ) : Prop :=
  ∃ k : ℤ, low ≤ k ∧ k ≤ high ∧ x = (k : ℚ) / (radix : ℚ)

/-- A frequency or rate with 20 fractional bits that a double holds exactly. -/
def FrequencySteps : ℚ → Prop :=
  StepsBetween FREQ_RADIX (-2 ^ 53) (2 ^ 53)

/-- A level with 7 fractional bits in sixteen bits. -/
def LevelSteps : ℚ → Prop :=
  StepsBetween GAIN_RADIX (-32768) 32767

/-- Every field that is present is a whole number of steps of its format. -/
structure FixedPointFields (fields : ContextFields ℚ) : Prop where
  bandwidth : ∀ hz ∈ fields.bandwidth, FrequencySteps hz
  ifRefFrequency : ∀ hz ∈ fields.ifRefFrequency, FrequencySteps hz
  rfFrequency : ∀ hz ∈ fields.rfFrequency, FrequencySteps hz
  rfFreqOffset : ∀ hz ∈ fields.rfFreqOffset, FrequencySteps hz
  ifBandOffset : ∀ hz ∈ fields.ifBandOffset, FrequencySteps hz
  referenceLevel : ∀ dBm ∈ fields.referenceLevel, LevelSteps dBm
  gain : ∀ dB ∈ fields.gain, LevelSteps dB
  sampleRate : ∀ hz ∈ fields.sampleRate, FrequencySteps hz

/-- A frequency of whole steps survives encoding and decoding. -/
theorem FrequencySteps.requantized {hz : ℚ} (steps : FrequencySteps hz) :
    requantizedFreq hz = hz := by
  obtain ⟨k, low, high, rfl⟩ := steps
  have held : (Int64.ofInt k).toInt = k :=
    Int64.toInt_ofInt_of_le (by omega) (by omega)
  have decoded : (k : ℚ) / (FREQ_RADIX : ℚ) = freqFromFixed (Int64.ofInt k) := by
    rw [freqFromFixed, held]
  rw [decoded, requantizedFreq_freqFromFixed]

/-- The sixteen bits of a level of whole steps. -/
theorem LevelSteps.exists_raw {level : ℚ} (steps : LevelSteps level) :
    ∃ raw : Int16, level = (raw.toInt : ℚ) / (GAIN_RADIX : ℚ) := by
  obtain ⟨k, low, high, rfl⟩ := steps
  have held : (Int16.ofInt k).toInt = k :=
    Int16.toInt_ofInt_of_le (by omega) (by omega)
  exact ⟨Int16.ofInt k, by rw [held]⟩

/-- A reference level of whole steps survives encoding and decoding. -/
theorem LevelSteps.requantizedLevel {dBm : ℚ} (steps : LevelSteps dBm) :
    requantizedLevel dBm = dBm := by
  obtain ⟨raw, rfl⟩ := steps.exists_raw
  simp only [ContextPacket.requantizedLevel, refLevelToFixed, refLevelFromFixed,
    round_level, upperHalf, Int16.toInt16_toUInt16]

/-- A gain of whole steps survives encoding and decoding. -/
theorem LevelSteps.requantizedGain {dB : ℚ} (steps : LevelSteps dB) :
    requantizedGain dB = dB := by
  obtain ⟨raw, rfl⟩ := steps.exists_raw
  simp only [ContextPacket.requantizedGain, gainToFixed, gainFromFixed,
    round_level, lowerHalf, Int16.toInt16_toUInt16]

/-- A function that fixes the value of a field leaves the field as it is. -/
theorem map_eq_self
    {α : Type}
    {function : α → α}
    {field : Option α}
    (fixed : ∀ value ∈ field, function value = value) :
    field.map function = field := by
  cases field with
  | none => rfl
  | some value => rw [Option.map_some, fixed value rfl]

/-- Fields of whole steps survive encoding and decoding. -/
theorem FixedPointFields.requantized
    {fields : ContextFields ℚ}
    (fixed : FixedPointFields fields) :
    requantized fields = fields := by
  have frequency {field : Option ℚ} (steps : ∀ hz ∈ field, FrequencySteps hz) :
      field.map requantizedFreq = field :=
    map_eq_self fun hz present => (steps hz present).requantized
  have level : fields.referenceLevel.map requantizedLevel =
      fields.referenceLevel :=
    map_eq_self fun dBm present =>
      (fixed.referenceLevel dBm present).requantizedLevel
  have gain : fields.gain.map requantizedGain = fields.gain :=
    map_eq_self fun dB present => (fixed.gain dB present).requantizedGain
  rw [ContextPacket.requantized, frequency fixed.bandwidth,
    frequency fixed.ifRefFrequency, frequency fixed.rfFrequency,
    frequency fixed.rfFreqOffset, frequency fixed.ifBandOffset, level, gain,
    frequency fixed.sampleRate]

end ContextPacket

namespace ContextCall

open ContextPacket

/-- The packet that `ContextPacket::encode` returns for the call. -/
def packet (call : ContextCall ℚ) (order : ByteOrder) : List UInt8 :=
  encode call.streamId call.fields call.packetCount order call.tsiType
    call.tsfType call.intTimestamp call.fracTimestamp

/-- What a call promises of the header of its packet. -/
structure DescribesHeader
    (call : ContextCall ℚ)
    (header : PacketHeader) : Prop where
  packetType : header.packetType = .ifContext
  streamId : header.streamId = some call.streamId
  packetCount : header.packetCount.toNat = call.packetCount.toNat % 16
  tsiType : header.tsiType = call.tsiType
  tsfType : header.tsfType = call.tsfType
  integerTimestamp : header.integerTimestamp =
    if call.tsiType = .none then none else some call.intTimestamp
  fractionalTimestamp : header.fractionalTimestamp =
    if call.tsfType = .none then none else some call.fracTimestamp

theorem describesHeader_sentHeader
    (call : ContextCall ℚ)
    (order : ByteOrder) :
    call.DescribesHeader (call.sentHeader order) where
  packetType := rfl
  streamId := rfl
  packetCount := BitFields.and_mask 4 call.packetCount.toNat
  tsiType := rfl
  tsfType := rfl
  integerTimestamp := by
    cases typeCase : call.tsiType <;>
      simp [sentHeader, header, encodeHeader, PacketHeaderCodec.buildHeader,
        typeCase]
  fractionalTimestamp := by
    cases typeCase : call.tsfType <;>
      simp [sentHeader, header, encodeHeader, PacketHeaderCodec.buildHeader,
        typeCase]

/-- The packet of a call is decoded, whatever follows it. -/
theorem result_decode_packet
    (call : ContextCall ℚ)
    (order : ByteOrder)
    (rest : List UInt8) :
    (decode (call.packet order ++ rest).length order).result
        (memoryOf (call.packet order ++ rest)) =
      some {
        header := call.sentHeader order
        fields := requantized call.fields } := by
  -- The codec only lends its byte order here.
  let codec : Vita49Codec ℚ := ⟨order, 1⟩
  have size : (call.packet order).length = 4 * call.totalWords codec.byteOrder :=
    call.length_encoded codec
  have available : 4 * call.totalWords codec.byteOrder ≤
      (call.packet order ++ rest).length := by
    rw [List.length_append]
    omega
  have holds : Holds (memoryOf (call.packet order ++ rest)) 0
      (call.encoded codec) :=
    holds_memoryOf (call.packet order) rest
  exact call.result_decode_encoded available holds

/-- The context round trip: the size field of a packet counts its words, and the
packet is decoded to the fields of the call, whatever follows it. -/
theorem context_round_trip
    (call : ContextCall ℚ)
    (order : ByteOrder)
    (fixed : FixedPointFields call.fields)
    (rest : List UInt8)
    (bytesConsumed : ℕ) :
    4 ∣ (call.packet order).length ∧
      packetSizeAt (memoryOf (call.packet order ++ rest)) order =
        (call.packet order).length / 4 ∧
      ∃ header,
        decodeBuffer (call.packet order ++ rest) order bytesConsumed =
            (some { header := header, fields := call.fields },
              (call.packet order).length) ∧
          call.DescribesHeader header := by
  have length : (call.packet order).length = 4 * call.totalWords order :=
    call.length_encoded (⟨order, 1⟩ : Vita49Codec ℚ)
  have decoded := call.result_decode_packet order rest
  have found := (meets_decode.result_ensured _ decoded).1
  have size : packetSizeAt (memoryOf (call.packet order ++ rest)) order =
      call.totalWords order := by
    rw [← found.packetSize]
    exact call.toNat_packetSize_sentHeader order
  refine ⟨?_, ?_, call.sentHeader order, ?_, call.describesHeader_sentHeader order⟩
  · rw [length]
    exact Nat.dvd_mul_right 4 _
  · rw [size, length, Nat.mul_div_cancel_left _ (by norm_num)]
  · have consumed :
        (decode (call.packet order ++ rest).length order :
          ByteScanner (DecodeResult ℚ)).output
            (memoryOf (call.packet order ++ rest)) bytesConsumed = _ :=
      reports_decode bytesConsumed
    rw [decoded, size] at consumed
    rw [decodeBuffer, decoded, consumed, fixed.requantized, length]
    rfl

/-- Three fields, two of them negative, followed by another byte. -/
theorem context_round_trip_three_fields :
    ((decodeBuffer
      (encode 7
        { changeIndicator := true
          bandwidth := some (-3 / 1048576 : ℚ)
          gain := some (-1 / 128)
          overRangeCount := some 9 }
        18 .littleEndian .utc .none 5 6 ++ [1]) .littleEndian 0).1.map
          DecodeResult.fields : Option (ContextFields ℚ)) =
      some {
        changeIndicator := true
        bandwidth := some (-3 / 1048576)
        gain := some (-1 / 128)
        overRangeCount := some 9 } := by
  obtain ⟨_, _, header, decoded, _⟩ := context_round_trip
    { streamId := 7
      fields := {
        changeIndicator := true
        bandwidth := some (-3 / 1048576)
        gain := some (-1 / 128)
        overRangeCount := some 9 }
      packetCount := 18
      tsiType := .utc
      tsfType := .none
      intTimestamp := 5
      fracTimestamp := 6 } .littleEndian
    { bandwidth := by
        rintro hz ⟨⟩
        exact ⟨-3, by norm_num, by norm_num, by norm_num [FREQ_RADIX]⟩
      ifRefFrequency := by simp
      rfFrequency := by simp
      rfFreqOffset := by simp
      ifBandOffset := by simp
      referenceLevel := by simp
      gain := by
        rintro dB ⟨⟩
        exact ⟨-1, by norm_num, by norm_num, by norm_num [GAIN_RADIX]⟩
      sampleRate := by simp } [1] 0
  exact congrArg (fun result => result.1.map DecodeResult.fields) decoded

end ContextCall
end Vita49
end StarterCpp
