import StarterCpp.Library.Pieces
import StarterCpp.Vita49.Quantization
import StarterCpp.Vita49.SignalRoundTrip

/-!
# Sample vectors of any length

The chunk loop of `encodeSignalData` is a run of single packets over equal
pieces of the samples, so the stream loop finds exactly these packets again,
with consecutive counts and the quantized samples in order.
-/

namespace StarterCpp
namespace Vita49
namespace Vita49Codec

open SignalDataPacket

variable {F : Type} [FloatArithmetic F]
variable {codec : Vita49Codec F}
variable {streamId : UInt32} {samples : List (IQSample F)}
variable {tsiType : TSI} {tsfType : TSF}
variable {intTimestamp : UInt32} {fracTimestamp : UInt64}
variable {includeTrailer : Bool}

/-- The next packet count of the chunk loop. -/
def nextCount (pktCount : UInt8) : UInt8 :=
  (pktCount + 1) &&& 0xF

/-- Packet counts are consecutive modulo sixteen. -/
theorem toNat_iterate_nextCount (pktCount : UInt8) (i : ℕ) :
    (nextCount^[i] pktCount &&& 0xF).toNat = (pktCount.toNat + i) % 16 := by
  have masked (count : UInt8) : (count &&& 0xF).toNat = count.toNat % 2 ^ 4 :=
    BitFields.and_mask 4 count.toNat
  induction i generalizing pktCount with
  | zero => exact masked pktCount
  | succ i inductionHypothesis =>
      have next : (nextCount pktCount).toNat = (pktCount.toNat + 1) % 16 := by
        rw [nextCount, masked, UInt8.toNat_add, UInt8.toNat_one]
        omega
      rw [Function.iterate_succ_apply, inductionHypothesis, next]
      omega

/-- One round of the chunk loop takes one piece off the pieces that are left. -/
theorem ceil_succ
    {length offset maxPerPacket : ℕ}
    (positive : 0 < maxPerPacket)
    (inside : offset < length) :
    (length - offset + maxPerPacket - 1) / maxPerPacket =
      (length - (offset + min maxPerPacket (length - offset)) +
        maxPerPacket - 1) / maxPerPacket + 1 := by
  rcases le_total maxPerPacket (length - offset) with full | last
  · rw [Nat.min_eq_left full, ← Nat.add_div_right _ positive]
    congr 1
    omega
  · rw [Nat.min_eq_right last]
    have noneLeft : (length - (offset + (length - offset)) + maxPerPacket - 1) /
        maxPerPacket = 0 := by
      apply Nat.div_eq_of_lt
      omega
    rw [noneLeft]
    apply Nat.div_eq_of_lt_le <;> omega

/-- The chunk loop is the concatenation of the packets of equal pieces. -/
theorem encodeChunks_eq
    {maxPerPacket : ℕ}
    (positive : maxPerPacket ≠ 0)
    (fits : overheadWords tsiType tsfType includeTrailer + maxPerPacket ≤
      MAX_PACKET_SIZE_WORDS)
    (offset : ℕ)
    (pktCount : UInt8) :
    codec.encodeChunks streamId samples tsiType tsfType intTimestamp
        fracTimestamp includeTrailer maxPerPacket positive offset pktCount =
      ((List.range
        ((samples.length - offset + maxPerPacket - 1) / maxPerPacket)).map
          fun i => encode streamId
            ((samples.drop (offset + i * maxPerPacket)).take maxPerPacket)
            (nextCount^[i] pktCount) codec.byteOrder codec.scaleFactor tsiType
            tsfType intTimestamp fracTimestamp includeTrailer).flatten := by
  fun_induction encodeChunks codec streamId samples tsiType tsfType intTimestamp
    fracTimestamp includeTrailer maxPerPacket positive offset pktCount with
  | case1 offset pktCount inside count chunk packet empty =>
      have chunkFits :
          overheadWords tsiType tsfType includeTrailer + chunk.length ≤
            MAX_PACKET_SIZE_WORDS := by
        rw [List.length_take]
        omega
      have noBytes : packet.length = 0 := by
        rw [List.isEmpty_iff.mp empty, List.length_nil]
      have someBytes : packet.length = _ := length_encode chunkFits
      have overhead : 2 ≤ overheadWords tsiType tsfType includeTrailer := by
        rw [overheadWords]
        omega
      omega
  | case2 offset pktCount inside count chunk packet nonempty
      inductionHypothesis =>
      have pieces :
          (samples.length - offset + maxPerPacket - 1) / maxPerPacket =
            (samples.length - (offset + count) + maxPerPacket - 1) /
              maxPerPacket + 1 :=
        ceil_succ (Nat.pos_of_ne_zero positive) inside
      have chunkEq :
          chunk = (samples.drop (offset + 0 * maxPerPacket)).take
            maxPerPacket := by
        rw [Nat.zero_mul, Nat.add_zero, List.take_eq_take_min,
          List.length_drop]
      rw [inductionHypothesis, pieces, List.range_succ_eq_map, List.map_cons,
        List.flatten_cons, ← chunkEq, List.map_map]
      congr 2
      apply List.map_congr_left
      intro i inRange
      have full : count = maxPerPacket := by
        rw [List.mem_range] at inRange
        by_contra notFull
        have last : samples.length - (offset + count) = 0 := by omega
        rw [last, Nat.zero_add, Nat.div_eq_of_lt (by omega)] at inRange
        contradiction
      rw [Function.comp_apply, full, Nat.succ_mul, Nat.add_assoc offset,
        Nat.add_comm maxPerPacket]
      rfl
  | case3 offset pktCount outside =>
      have noPieces :
          (samples.length - offset + maxPerPacket - 1) / maxPerPacket = 0 := by
        apply Nat.div_eq_of_lt
        omega
      rw [noPieces]
      rfl

end Vita49Codec

/-- The arguments of a call of `encodeSignalData`. -/
structure SignalCall (F : Type) where
  streamId : UInt32
  samples : List (IQSample F)
  startPacketCount : UInt8
  tsiType : TSI
  tsfType : TSF
  intTimestamp : UInt32
  fracTimestamp : UInt64
  includeTrailer : Bool

namespace SignalCall

open SignalDataPacket Vita49Codec

section Splitting

variable {F : Type}

/-- How many samples a full packet of the call holds. -/
def maxPerPacket (call : SignalCall F) : ℕ :=
  maxSamplesPerPacket call.tsiType call.tsfType false call.includeTrailer

/-- How many packets the call makes: an empty vector makes one. -/
def packetTotal (call : SignalCall F) : ℕ :=
  if call.samples.isEmpty then 1
  else (call.samples.length + call.maxPerPacket - 1) / call.maxPerPacket

/-- The samples of one packet. -/
def piece (call : SignalCall F) (i : ℕ) : List (IQSample F) :=
  Pieces.piece call.maxPerPacket call.maxPerPacket call.samples i

theorem overhead_add_maxPerPacket (call : SignalCall F) :
    overheadWords call.tsiType call.tsfType call.includeTrailer +
      call.maxPerPacket = MAX_PACKET_SIZE_WORDS := by
  have small :=
    overheadWords_le call.tsiType call.tsfType call.includeTrailer
  rw [maxPerPacket, maxSamplesPerPacket_eq, MAX_PACKET_SIZE_WORDS]
  omega

theorem maxPerPacket_pos (call : SignalCall F) : 0 < call.maxPerPacket :=
  Nat.pos_of_ne_zero (maxSamplesPerPacket_ne_zero _ _ _)

theorem piece_eq (call : SignalCall F) (i : ℕ) :
    call.piece i =
      (call.samples.drop (i * call.maxPerPacket)).take call.maxPerPacket :=
  Pieces.piece_uniform _ _ i

theorem piece_fits (call : SignalCall F) (i : ℕ) :
    overheadWords call.tsiType call.tsfType call.includeTrailer +
      (call.piece i).length ≤ MAX_PACKET_SIZE_WORDS := by
  have full := call.overhead_add_maxPerPacket
  rw [piece_eq, List.length_take]
  omega

theorem packetTotal_pos (call : SignalCall F) : 0 < call.packetTotal := by
  have positive := call.maxPerPacket_pos
  unfold packetTotal
  split
  · exact Nat.one_pos
  · rename_i nonempty
    rw [List.isEmpty_iff] at nonempty
    have someSample := List.length_pos_iff.mpr nonempty
    exact Nat.div_pos (by omega) positive

/-- The packets cover the samples. -/
theorem length_le_packetTotal_mul (call : SignalCall F) :
    call.samples.length ≤ call.packetTotal * call.maxPerPacket := by
  have positive := call.maxPerPacket_pos
  unfold packetTotal
  split
  · rename_i empty
    simp [List.isEmpty_iff.mp empty]
  · have split := Nat.div_add_mod
      (call.samples.length + call.maxPerPacket - 1) call.maxPerPacket
    have small := Nat.mod_lt
      (call.samples.length + call.maxPerPacket - 1) positive
    rw [Nat.mul_comm] at split
    omega

/-- The samples of the packets are the samples of the call. -/
theorem flatten_pieces (call : SignalCall F) :
    ((List.range call.packetTotal).map call.piece).flatten = call.samples := by
  have covering := call.length_le_packetTotal_mul
  have positive := call.packetTotal_pos
  obtain ⟨count, isSucc⟩ := Nat.exists_eq_succ_of_ne_zero positive.ne'
  rw [isSucc]
  apply Pieces.flatten_pieces_of_covering
  rw [isSucc, Nat.succ_mul] at covering
  omega

/-- Every packet but the last is full. -/
theorem length_piece_of_not_last
    {call : SignalCall F}
    {i : ℕ}
    (notLast : i + 1 < call.packetTotal) :
    (call.piece i).length = call.maxPerPacket := by
  have positive := call.maxPerPacket_pos
  have inside : (i + 1) * call.maxPerPacket ≤ call.samples.length := by
    unfold packetTotal at notLast
    split at notLast
    · omega
    · have atLeast : (i + 2) * call.maxPerPacket ≤
          call.samples.length + call.maxPerPacket - 1 :=
        (Nat.le_div_iff_mul_le positive).mp notLast
      rw [Nat.succ_mul] at atLeast
      omega
  rw [piece_eq, List.length_take, List.length_drop]
  rw [Nat.succ_mul] at inside
  omega

end Splitting

section Packets

variable {F D : Type} [FloatArithmetic F] {codec : Vita49Codec F}

/-- The bytes the call returns. -/
def encoded (call : SignalCall F) (codec : Vita49Codec F) : List UInt8 :=
  codec.encodeSignalData call.streamId call.samples call.startPacketCount
    call.tsiType call.tsfType call.intTimestamp call.fracTimestamp
    call.includeTrailer

/-- The bytes of one packet. -/
def pieceBytes
    (call : SignalCall F)
    (codec : Vita49Codec F)
    (i : ℕ) : List UInt8 :=
  encode call.streamId (call.piece i) (nextCount^[i] call.startPacketCount)
    codec.byteOrder codec.scaleFactor call.tsiType call.tsfType
    call.intTimestamp call.fracTimestamp call.includeTrailer

/-- One packet as it is parsed back. -/
def sentPacket
    (call : SignalCall F)
    (codec : Vita49Codec F)
    (i : ℕ) : ParsedPacket F D where
  type := .signalData
  header := sentHeader call.streamId (call.piece i).length
    (nextCount^[i] call.startPacketCount) call.tsiType call.tsfType
    call.intTimestamp call.fracTimestamp call.includeTrailer
  samples := (call.piece i).map (quantizedSample codec.scaleFactor)

theorem length_pieceBytes
    (call : SignalCall F)
    (codec : Vita49Codec F)
    (i : ℕ) :
    (call.pieceBytes codec i).length =
      4 * (overheadWords call.tsiType call.tsfType call.includeTrailer +
        (call.piece i).length) :=
  length_encode (call.piece_fits i)

/-- The encoder returns the concatenation of its packets. -/
theorem encoded_eq (call : SignalCall F) (codec : Vita49Codec F) :
    call.encoded codec =
      ((List.range call.packetTotal).map (call.pieceBytes codec)).flatten := by
  have someRoom : maxSamplesPerPacket call.tsiType call.tsfType false
      call.includeTrailer ≠ 0 := maxSamplesPerPacket_ne_zero _ _ _
  unfold encoded encodeSignalData
  simp only [dif_neg someRoom]
  by_cases empty : call.samples.isEmpty = true
  · rw [if_pos empty, packetTotal, if_pos empty]
    have noSamples := List.isEmpty_iff.mp empty
    simp [pieceBytes, piece, noSamples]
  · rw [if_neg empty, packetTotal, if_neg empty,
      encodeChunks_eq someRoom call.overhead_add_maxPerPacket.le]
    simp only [Nat.sub_zero, Nat.zero_add]
    congr 1
    apply List.map_congr_left
    intro i _
    rw [pieceBytes, piece_eq]
    rfl

/-- The packets of a call carry its quantized samples in order. -/
theorem samples_sentPackets (call : SignalCall F) (codec : Vita49Codec F) :
    ((List.range call.packetTotal).map
        (call.sentPacket codec : ℕ → ParsedPacket F D)).flatMap
          ParsedPacket.samples =
      call.samples.map (quantizedSample codec.scaleFactor) := by
  rw [List.flatMap_map]
  conv_rhs => rw [← call.flatten_pieces]
  rw [List.map_flatten, List.map_map, ← List.flatMap_def]
  rfl

variable [FloatArithmetic D]

/-- The stream loop finds the packets of a call and consumes all its bytes. -/
theorem frames_encoded
    (call : SignalCall F)
    (nonzero : FloatArithmetic.isZero codec.scaleFactor = false) :
    codec.framer.frames (call.encoded codec) =
        (List.range call.packetTotal).map
          (fun i => ((call.sentPacket codec i : ParsedPacket F D),
            (call.pieceBytes codec i).length)) ∧
      (codec.framer : Framer UInt8 (ParsedPacket F D)).consumed
        (call.encoded codec) = (call.encoded codec).length := by
  rw [encoded_eq]
  exact Framer.frames_flatten_single fun i _ =>
    recognise_encode nonzero (call.piece_fits i)

theorem parseStream_encoded
    (call : SignalCall F)
    (nonzero : FloatArithmetic.isZero codec.scaleFactor = false) :
    codec.parseStream (call.encoded codec) =
      (List.range call.packetTotal).map
        (call.sentPacket codec : ℕ → ParsedPacket F D) := by
  rw [(streamRun_eq_frames codec _).1, (call.frames_encoded nonzero).1,
    List.map_map]
  rfl

theorem streamRun_encoded
    (call : SignalCall F)
    (nonzero : FloatArithmetic.isZero codec.scaleFactor = false) :
    (codec.streamRun (call.encoded codec) : StreamRun F D).offset =
      (call.encoded codec).length := by
  rw [(streamRun_eq_frames codec _).2, (call.frames_encoded nonzero).2]

end Packets

section ExactSamples

/-- What a call promises of its packet with a given index: the packet as it is
parsed, and its own bytes. -/
structure DescribesPacket
    (call : SignalCall ℚ)
    (i : ℕ)
    (bytes : List UInt8)
    (packet : ParsedPacket ℚ ℚ) : Prop where
  type : packet.type = .signalData
  packetCount :
    packet.header.packetCount.toNat = (call.startPacketCount.toNat + i) % 16
  streamId : packet.header.streamId = some call.streamId
  integerTimestamp : packet.header.integerTimestamp =
    if call.tsiType = .none then none else some call.intTimestamp
  fractionalTimestamp : packet.header.fractionalTimestamp =
    if call.tsfType = .none then none else some call.fracTimestamp
  sizeBound : packet.header.packetSize.toNat ≤ 65535
  sizeBytes : packet.header.packetSize.toNat = bytes.length / 4
  wholeWords : 4 ∣ bytes.length
  full : i + 1 < call.packetTotal → packet.samples.length = call.maxPerPacket

theorem describesPacket_sentPacket
    (call : SignalCall ℚ)
    (codec : Vita49Codec ℚ)
    (i : ℕ) :
    call.DescribesPacket i (call.pieceBytes codec i)
      (call.sentPacket codec i) where
  type := rfl
  packetCount := toNat_iterate_nextCount call.startPacketCount i
  streamId := rfl
  integerTimestamp := by
    cases typeCase : call.tsiType <;>
      simp [sentPacket, sentHeader, encodeHeader, PacketHeaderCodec.buildHeader,
        typeCase]
  fractionalTimestamp := by
    cases typeCase : call.tsfType <;>
      simp [sentPacket, sentHeader, encodeHeader, PacketHeaderCodec.buildHeader,
        typeCase]
  sizeBound := Nat.le_of_lt_succ (UInt16.toNat_lt _)
  sizeBytes := by
    rw [length_pieceBytes, Nat.mul_div_cancel_left _ (by norm_num)]
    exact toNat_packetSize_sentHeader (call.piece_fits i)
  wholeWords := by
    rw [length_pieceBytes]
    exact Nat.dvd_mul_right 4 _
  full := by
    intro notLast
    rw [sentPacket, List.length_map]
    exact length_piece_of_not_last notLast

/-- A sample within 32 bits is decoded to its clamped components. -/
theorem quantizedSample_of_small
    {scaleFactor : ℚ}
    {sample : IQSample ℚ}
    (realSmall : |sample.real * scaleFactor| ≤ 2 ^ 30)
    (imagSmall : |sample.imag * scaleFactor| ≤ 2 ^ 30) :
    quantizedSample scaleFactor sample =
      { real := clampedValue scaleFactor sample.real
        imag := clampedValue scaleFactor sample.imag } := by
  have component {x : ℚ} (small : |x * scaleFactor| ≤ 2 ^ 30) :
      dequantize scaleFactor (quantize scaleFactor x) =
        clampedValue scaleFactor x := by
    rw [dequantize, toInt_quantize_of_small small, clampedValue, Int.cast_one,
      mul_one_div]
  rw [quantizedSample, component realSmall, component imagSmall]

/-- The signal round trip: what `encodeSignalData` returns is parsed whole into
the packets it promises, and their samples are, in order, the clamped samples of
the call.  Only an empty vector makes a packet without samples. -/
theorem signal_round_trip
    (codec : Vita49Codec ℚ)
    (call : SignalCall ℚ)
    (nonzero : codec.scaleFactor ≠ 0)
    (bounded : ∀ sample ∈ call.samples,
      |sample.real * codec.scaleFactor| ≤ 2 ^ 30 ∧
        |sample.imag * codec.scaleFactor| ≤ 2 ^ 30) :
    (codec.streamRun (call.encoded codec) : StreamRun ℚ ℚ).offset =
        (call.encoded codec).length ∧
      (call.samples ≠ [] →
        (codec.parseStream (call.encoded codec) :
            List (ParsedPacket ℚ ℚ)).length =
          (call.samples.length + call.maxPerPacket - 1) / call.maxPerPacket) ∧
      (call.samples = [] →
        (codec.parseStream (call.encoded codec) :
          List (ParsedPacket ℚ ℚ)).length = 1) ∧
      (codec.parseStream (call.encoded codec) :
          List (ParsedPacket ℚ ℚ)).flatMap ParsedPacket.samples =
        call.samples.map (fun sample => {
          real := clampedValue codec.scaleFactor sample.real
          imag := clampedValue codec.scaleFactor sample.imag }) ∧
      ∃ pieces : List (List UInt8 × ParsedPacket ℚ ℚ),
        call.encoded codec = (pieces.map Prod.fst).flatten ∧
        codec.parseStream (call.encoded codec) = pieces.map Prod.snd ∧
        ∀ i piece, pieces[i]? = some piece →
          codec.parsePacket piece.1 0 = (some piece.2, piece.1.length) ∧
          call.DescribesPacket i piece.1 piece.2 := by
  have scaleNonzero : FloatArithmetic.isZero codec.scaleFactor = false := by
    simpa using nonzero
  have parsed : (codec.parseStream (call.encoded codec) :
      List (ParsedPacket ℚ ℚ)) = _ :=
    call.parseStream_encoded scaleNonzero
  refine ⟨call.streamRun_encoded scaleNonzero, ?_, ?_, ?_, ?_⟩
  · intro nonempty
    rw [parsed, List.length_map, List.length_range, packetTotal,
      if_neg (by rwa [List.isEmpty_iff])]
  · intro empty
    rw [parsed, List.length_map, List.length_range, packetTotal,
      if_pos (by rwa [List.isEmpty_iff])]
  · rw [parsed, samples_sentPackets]
    exact List.map_congr_left fun sample sampleMem =>
      quantizedSample_of_small (bounded sample sampleMem).1
        (bounded sample sampleMem).2
  · refine ⟨(List.range call.packetTotal).map fun i =>
      (call.pieceBytes codec i, call.sentPacket codec i), ?_, ?_, ?_⟩
    · rw [encoded_eq, List.map_map]
      rfl
    · rw [parsed, List.map_map]
      rfl
    · intro i piece atIndex
      rw [List.getElem?_map, Option.map_eq_some_iff] at atIndex
      obtain ⟨index, ranged, rfl⟩ := atIndex
      obtain ⟨inRange, isIndex⟩ := List.getElem?_eq_some_iff.mp ranged
      rw [List.getElem_range] at isIndex
      subst isIndex
      exact ⟨recognise_eq_some.mp (recognise_encode scaleNonzero
        (call.piece_fits i)), call.describesPacket_sentPacket codec i⟩

/-- More samples than a packet takes, each with its real part beyond full scale. -/
def longCall : SignalCall ℚ where
  streamId := 7
  samples := List.replicate 70000 ⟨3, -1 / 2⟩
  startPacketCount := 17
  tsiType := .utc
  tsfType := .realTime
  intTimestamp := 5
  fracTimestamp := 6
  includeTrailer := true

/-- The vector is split in two packets, and all samples come back clamped. -/
theorem signal_round_trip_long_call :
    ((⟨.bigEndian, 32768⟩ : Vita49Codec ℚ).parseStream
        (longCall.encoded ⟨.bigEndian, 32768⟩) : List (ParsedPacket ℚ ℚ)).length = 2 ∧
      ((⟨.bigEndian, 32768⟩ : Vita49Codec ℚ).parseStream
          (longCall.encoded ⟨.bigEndian, 32768⟩) :
          List (ParsedPacket ℚ ℚ)).flatMap ParsedPacket.samples =
        List.replicate 70000 ⟨32767 / 32768, -1 / 2⟩ := by
  have bounded : ∀ sample ∈ longCall.samples,
      |sample.real * 32768| ≤ 2 ^ 30 ∧ |sample.imag * 32768| ≤ 2 ^ 30 := by
    intro sample member
    rw [List.eq_of_mem_replicate member]
    decide +kernel
  have length : longCall.samples.length = 70000 := List.length_replicate
  have nonempty : longCall.samples ≠ [] :=
    List.ne_nil_of_length_pos (by rw [length]; decide)
  have roundTrip := signal_round_trip ⟨.bigEndian, 32768⟩ longCall (by norm_num) bounded
  refine ⟨(roundTrip.2.1 nonempty).trans ?_, roundTrip.2.2.2.1.trans ?_⟩
  · rw [length]
    decide +kernel
  · have clamped : ({
        real := clampedValue 32768 3
        imag := clampedValue 32768 (-1 / 2) } : IQSample ℚ) =
          ⟨32767 / 32768, -1 / 2⟩ := by
      decide +kernel
    rw [longCall, List.map_replicate, clamped]

end ExactSamples

end SignalCall
end Vita49
end StarterCpp
