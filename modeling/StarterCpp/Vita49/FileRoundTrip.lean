import StarterCpp.Vita49.DecodedValues
import StarterCpp.Vita49.StreamComposition

/-!
# The re-encode pass of the file tool

`doRoundTrip` of the file tool parses a file, encodes every data and context
packet again and drops the others.  The result is parsed whole, carries the same
samples and the same context fields, and is a normal form: encoding its packets
once more restores it byte for byte.
-/

namespace StarterCpp
namespace Vita49
namespace FileCodec

open Vita49Codec

section Model

variable {F D : Type} [FloatArithmetic F] [FloatArithmetic D]

/-- The body of the re-encode loop: the bytes appended for one packet. -/
def reencodePacket
    (codec : Vita49Codec F)
    (pkt : ParsedPacket F D) : List UInt8 :=
  match pkt.type with
  | .signalData =>
      let sid := pkt.header.streamId.getD 0
      codec.encodeSignalData sid pkt.samples pkt.header.packetCount
        pkt.header.tsiType pkt.header.tsfType
        (pkt.header.integerTimestamp.getD 0)
        (pkt.header.fractionalTimestamp.getD 0)
        pkt.header.trailerPresent
  | .context =>
      let sid := pkt.header.streamId.getD 0
      codec.encodeContext sid pkt.contextFields pkt.header.packetCount
        pkt.header.tsiType pkt.header.tsfType
        (pkt.header.integerTimestamp.getD 0)
        (pkt.header.fractionalTimestamp.getD 0)
  | .unknown => []

/-- The re-encode loop of `doRoundTrip`. -/
def reencode
    (codec : Vita49Codec F)
    (packets : List (ParsedPacket F D)) : List UInt8 :=
  packets.flatMap (reencodePacket codec)

/-- The samples of the data packets, as `doRoundTrip` collects them. -/
def allSamples (packets : List (ParsedPacket F D)) : List (IQSample F) :=
  packets.flatMap fun pkt => if pkt.type = .signalData then pkt.samples else []

/-- The fields of the context packets. -/
def allContextFields (packets : List (ParsedPacket F D)) :
    List (ContextFields D) :=
  packets.flatMap fun pkt =>
    if pkt.type = .context then [pkt.contextFields] else []

/-- The codec of the file tool, in exact arithmetic. -/
def fileCodec : Vita49Codec ℚ where
  byteOrder := .bigEndian
  scaleFactor := (DEFAULT_SCALE_FACTOR : ℚ)

end Model

section Calls

variable {F D : Type}

/-- The call that encodes a data packet again. -/
def signalCall (pkt : ParsedPacket F D) : SignalCall F where
  streamId := pkt.header.streamId.getD 0
  samples := pkt.samples
  startPacketCount := pkt.header.packetCount
  tsiType := pkt.header.tsiType
  tsfType := pkt.header.tsfType
  intTimestamp := pkt.header.integerTimestamp.getD 0
  fracTimestamp := pkt.header.fractionalTimestamp.getD 0
  includeTrailer := pkt.header.trailerPresent

/-- The call that encodes a context packet again. -/
def contextCall (pkt : ParsedPacket F D) : ContextCall D where
  streamId := pkt.header.streamId.getD 0
  fields := pkt.contextFields
  packetCount := pkt.header.packetCount
  tsiType := pkt.header.tsiType
  tsfType := pkt.header.tsfType
  intTimestamp := pkt.header.integerTimestamp.getD 0
  fracTimestamp := pkt.header.fractionalTimestamp.getD 0

variable [FloatArithmetic F] [FloatArithmetic D] {codec : Vita49Codec F}

/-- The packets that are parsed from the bytes of one packet encoded again. -/
def packetsAfter
    (codec : Vita49Codec F)
    (pkt : ParsedPacket F D) : List (ParsedPacket F D) :=
  match pkt.type with
  | .signalData =>
      (List.range (signalCall pkt).packetTotal).map
        ((signalCall pkt).sentPacket codec)
  | .context => [(contextCall pkt).sentPacket codec.byteOrder]
  | .unknown => []

/-- What is appended for one packet is parsed whole. -/
theorem frames_reencodePacket
    (nonzero : FloatArithmetic.isZero codec.scaleFactor = false)
    (pkt : ParsedPacket F D) :
    (codec.framer.frames (reencodePacket codec pkt)).map Prod.fst =
        packetsAfter codec pkt ∧
      (codec.framer : Framer UInt8 (ParsedPacket F D)).consumed
        (reencodePacket codec pkt) = (reencodePacket codec pkt).length := by
  unfold reencodePacket packetsAfter
  split
  · obtain ⟨found, whole⟩ :
        codec.framer.frames ((signalCall pkt).encoded codec) =
            (List.range (signalCall pkt).packetTotal).map
              (fun i => (((signalCall pkt).sentPacket codec i :
                ParsedPacket F D), _)) ∧ _ :=
      (signalCall pkt).frames_encoded nonzero
    refine ⟨(congrArg (List.map Prod.fst) found).trans ?_, whole⟩
    rw [List.map_map]
    rfl
  · obtain ⟨found, whole⟩ := (contextCall pkt).frames_encoded codec
    exact ⟨congrArg (List.map Prod.fst) found, whole⟩
  · simp

/-- The output of the pass is parsed whole, packet by packet. -/
theorem parseStream_reencode
    (nonzero : FloatArithmetic.isZero codec.scaleFactor = false)
    (packets : List (ParsedPacket F D)) :
    codec.parseStream (reencode codec packets) =
        packets.flatMap (packetsAfter codec) ∧
      (codec.streamRun (reencode codec packets) : StreamRun F D).offset =
        (reencode codec packets).length := by
  have whole : ∀ piece ∈ packets.map (reencodePacket codec),
      (codec.framer : Framer UInt8 (ParsedPacket F D)).consumed piece =
        piece.length := by
    intro piece pieceMem
    obtain ⟨pkt, -, rfl⟩ := List.mem_map.mp pieceMem
    exact (frames_reencodePacket nonzero pkt).2
  obtain ⟨found, consumed⟩ := Framer.frames_flatten whole []
  have asFlatten : reencode codec packets =
      (packets.map (reencodePacket codec)).flatten := by
    rw [reencode, List.flatMap_def]
  rw [List.append_nil, ← asFlatten] at found consumed
  rw [(streamRun_eq_frames codec _).1, (streamRun_eq_frames codec _).2]
  constructor
  · rw [found, Framer.frames_nil, List.append_nil, List.map_flatMap,
      List.flatMap_map]
    apply List.flatMap_congr
    intro pkt _
    exact (frames_reencodePacket nonzero pkt).1
  · rw [consumed, Framer.consumed_nil, Nat.add_zero]

end Calls

section NormalForm

variable {F D : Type} [FloatArithmetic F] {codec : Vita49Codec F}

/-- Building a header again from the fields it was given restores it. -/
theorem buildHeader_again
    (packetType : PacketType)
    (includeTrailer : Bool)
    (streamId : UInt32)
    (packetCount : UInt8)
    (tsiType : TSI)
    (tsfType : TSF)
    (intTimestamp : UInt32)
    (fracTimestamp : UInt64) :
    PacketHeaderCodec.buildHeader packetType includeTrailer streamId
        (packetCount &&& 0xF) tsiType tsfType
        ((if tsiType != .none then some intTimestamp else none).getD 0)
        ((if tsfType != .none then some fracTimestamp else none).getD 0) =
      PacketHeaderCodec.buildHeader packetType includeTrailer streamId
        packetCount tsiType tsfType intTimestamp fracTimestamp := by
  have masked : packetCount &&& 0xF &&& 0xF = packetCount &&& 0xF := by
    rw [UInt8.and_assoc, UInt8.and_self]
  cases tsiType <;> cases tsfType <;>
    simp [PacketHeaderCodec.buildHeader, masked]

/-- An encoded data packet depends on the count and timestamps through its
header. -/
theorem encode_signal_congr
    {streamId : UInt32}
    {samples : List (IQSample F)}
    {packetCount otherCount : UInt8}
    {order : ByteOrder}
    {scaleFactor : F}
    {tsiType : TSI}
    {tsfType : TSF}
    {intTimestamp otherInt : UInt32}
    {fracTimestamp otherFrac : UInt64}
    {includeTrailer : Bool}
    (sameHeader :
      SignalDataPacket.encodeHeader streamId packetCount tsiType tsfType
          intTimestamp fracTimestamp includeTrailer =
        SignalDataPacket.encodeHeader streamId otherCount tsiType tsfType
          otherInt otherFrac includeTrailer) :
    SignalDataPacket.encode streamId samples packetCount order scaleFactor
        tsiType tsfType intTimestamp fracTimestamp includeTrailer =
      SignalDataPacket.encode streamId samples otherCount order scaleFactor
        tsiType tsfType otherInt otherFrac includeTrailer := by
  simp only [SignalDataPacket.encode, sameHeader]

/-- An encoded context packet depends on the count and timestamps through its
header. -/
theorem encode_context_congr
    {D : Type}
    [FloatArithmetic D]
    {streamId : UInt32}
    {fields : ContextFields D}
    {packetCount otherCount : UInt8}
    {order : ByteOrder}
    {tsiType : TSI}
    {tsfType : TSF}
    {intTimestamp otherInt : UInt32}
    {fracTimestamp otherFrac : UInt64}
    (sameHeader :
      ContextPacket.encodeHeader streamId packetCount tsiType tsfType
          intTimestamp fracTimestamp =
        ContextPacket.encodeHeader streamId otherCount tsiType tsfType otherInt
          otherFrac) :
    ContextPacket.encode streamId fields packetCount order tsiType tsfType
        intTimestamp fracTimestamp =
      ContextPacket.encode streamId fields otherCount order tsiType tsfType
        otherInt otherFrac := by
  simp only [ContextPacket.encode, sameHeader]

/-- A call whose samples fit one packet makes one packet. -/
theorem encoded_of_le_maxPerPacket
    {call : SignalCall F}
    (fits : call.samples.length ≤ call.maxPerPacket) :
    call.encoded codec =
      SignalDataPacket.encode call.streamId call.samples call.startPacketCount
        codec.byteOrder codec.scaleFactor call.tsiType call.tsfType
        call.intTimestamp call.fracTimestamp call.includeTrailer := by
  have positive := call.maxPerPacket_pos
  have one : call.packetTotal = 1 := by
    unfold SignalCall.packetTotal
    split
    · rfl
    · rename_i nonempty
      rw [List.isEmpty_iff] at nonempty
      have someSample := List.length_pos_iff.mpr nonempty
      apply Nat.div_eq_of_lt_le <;> omega
  have whole : call.piece 0 = call.samples := by
    rw [SignalCall.piece_eq, Nat.zero_mul, List.drop_zero,
      List.take_of_length_le fits]
  rw [SignalCall.encoded_eq, one, List.range_one, List.map_singleton,
    List.flatten_singleton, SignalCall.pieceBytes, whole]
  rfl

variable {D : Type} [FloatArithmetic D] {pkt : ParsedPacket F D}

/-- The samples of a piece are settled with those of the packet. -/
theorem piece_settled
    (settled : codec.Settled pkt)
    (i : ℕ) :
    ((signalCall pkt).piece i).map
        (SignalDataPacket.quantizedSample codec.scaleFactor) =
      (signalCall pkt).piece i := by
  refine (List.map_congr_left fun sample sampleMem => ?_).trans (List.map_id _)
  rw [SignalCall.piece_eq] at sampleMem
  exact settled.samples sample
    (List.mem_of_mem_drop (List.mem_of_mem_take sampleMem))

/-- Encoding a packet of a call again restores its bytes. -/
theorem reencodePacket_sentPacket_signal
    (settled : codec.Settled pkt)
    (i : ℕ) :
    reencodePacket codec
        ((signalCall pkt).sentPacket codec i : ParsedPacket F D) =
      (signalCall pkt).pieceBytes codec i := by
  have sameSamples := piece_settled settled i
  generalize signalCall pkt = call at sameSamples ⊢
  have fits : ((call.piece i).map
      (SignalDataPacket.quantizedSample codec.scaleFactor)).length ≤
        call.maxPerPacket := by
    rw [List.length_map, SignalCall.piece_eq, List.length_take]
    exact Nat.min_le_left _ _
  have resent :
      (signalCall (call.sentPacket codec i : ParsedPacket F D)).encoded codec =
        _ :=
    encoded_of_le_maxPerPacket fits
  apply resent.trans
  change SignalDataPacket.encode call.streamId ((call.piece i).map
    (SignalDataPacket.quantizedSample codec.scaleFactor)) _ _ _ _ _ _ _ _ = _
  rw [sameSamples]
  exact encode_signal_congr (buildHeader_again .ifDataWithStreamId
    call.includeTrailer call.streamId (nextCount^[i] call.startPacketCount)
    call.tsiType call.tsfType call.intTimestamp call.fracTimestamp)

/-- Encoding the packet of a context call again restores its bytes. -/
theorem reencodePacket_sentPacket_context
    (settled : codec.Settled pkt) :
    reencodePacket codec
        ((contextCall pkt).sentPacket codec.byteOrder : ParsedPacket F D) =
      (contextCall pkt).encoded codec := by
  have sameFields : ContextPacket.requantized (contextCall pkt).fields =
      (contextCall pkt).fields := settled.fields
  generalize contextCall pkt = call at sameFields ⊢
  change ContextPacket.encode call.streamId
    (ContextPacket.requantized call.fields) _ _ _ _ _ _ = _
  rw [sameFields]
  exact encode_context_congr (buildHeader_again .ifContext false call.streamId
    call.packetCount call.tsiType call.tsfType call.intTimestamp
    call.fracTimestamp)

/-- Encoding the packets of a packet encoded again restores its bytes. -/
theorem reencode_packetsAfter (settled : codec.Settled pkt) :
    reencode codec (packetsAfter codec pkt) = reencodePacket codec pkt := by
  cases kind : pkt.type with
  | signalData =>
      have asCall : reencodePacket codec pkt =
          (signalCall pkt).encoded codec := by
        rw [reencodePacket, kind]
        rfl
      rw [asCall, packetsAfter, kind, reencode, List.flatMap_map,
        SignalCall.encoded_eq, ← List.flatMap_def]
      exact List.flatMap_congr fun i _ =>
        reencodePacket_sentPacket_signal settled i
  | context =>
      have asCall : reencodePacket codec pkt =
          (contextCall pkt).encoded codec := by
        rw [reencodePacket, kind]
        rfl
      rw [asCall, packetsAfter, kind, reencode, List.flatMap_singleton]
      exact reencodePacket_sentPacket_context settled
  | unknown =>
      rw [reencodePacket, packetsAfter, kind]
      rfl

/-- Encoding a packet again keeps its samples. -/
theorem allSamples_packetsAfter (settled : codec.Settled pkt) :
    allSamples (packetsAfter codec pkt) =
      if pkt.type = .signalData then pkt.samples else [] := by
  cases kind : pkt.type with
  | signalData =>
      have sameSamples :
          (signalCall pkt).samples.map
              (SignalDataPacket.quantizedSample codec.scaleFactor) =
            (signalCall pkt).samples :=
        (List.map_congr_left settled.samples).trans (List.map_id _)
      have sent : ((List.range (signalCall pkt).packetTotal).map
          ((signalCall pkt).sentPacket codec :
            ℕ → ParsedPacket F D)).flatMap ParsedPacket.samples = _ :=
        (signalCall pkt).samples_sentPackets codec
      rw [packetsAfter, kind, allSamples, if_pos rfl]
      rw [List.flatMap_map] at sent ⊢
      exact sent.trans sameSamples
  | context =>
      rw [packetsAfter, kind]
      rfl
  | unknown =>
      rw [packetsAfter, kind]
      rfl

/-- Encoding a packet again keeps its context fields. -/
theorem allContextFields_packetsAfter (settled : codec.Settled pkt) :
    allContextFields (packetsAfter codec pkt) =
      if pkt.type = .context then [pkt.contextFields] else [] := by
  cases kind : pkt.type with
  | signalData =>
      rw [packetsAfter, kind, allContextFields, List.flatMap_map]
      exact List.flatMap_eq_nil_iff.mpr fun i _ => rfl
  | context =>
      rw [packetsAfter, kind]
      exact congrArg (fun fields => [fields]) settled.fields
  | unknown =>
      rw [packetsAfter, kind]
      rfl

end NormalForm

section ExactFile

theorem fileCodec_nonzero :
    FloatArithmetic.isZero fileCodec.scaleFactor = false := by
  simp [fileCodec, DEFAULT_SCALE_FACTOR]

/-- The packets that `doRoundTrip` decodes. -/
def decodedPackets (data : List UInt8) : List (ParsedPacket ℚ ℚ) :=
  fileCodec.parseStream data

/-- The bytes that `doRoundTrip` encodes again. -/
def reEncoded (data : List UInt8) : List UInt8 :=
  reencode fileCodec (decodedPackets data)

/-- The re-encode pass on any file: its output is parsed whole, with the samples
and the context fields of the file, and the pass restores its own output. -/
theorem reEncoded_normal_form (data : List UInt8) :
    (fileCodec.streamRun (reEncoded data) : StreamRun ℚ ℚ).offset =
        (reEncoded data).length ∧
      allSamples (decodedPackets (reEncoded data)) =
        allSamples (decodedPackets data) ∧
      allContextFields (decodedPackets (reEncoded data)) =
        allContextFields (decodedPackets data) ∧
      reEncoded (reEncoded data) = reEncoded data := by
  have settled : ∀ pkt ∈ decodedPackets data, fileCodec.Settled pkt :=
    settled_of_mem_parseStream fileCodec data
  obtain ⟨parsed, whole⟩ :
      decodedPackets (reEncoded data) = _ ∧ _ :=
    parseStream_reencode fileCodec_nonzero (decodedPackets data)
  refine ⟨whole, ?_, ?_, ?_⟩
  · rw [parsed, allSamples, List.flatMap_assoc, allSamples]
    apply List.flatMap_congr
    intro pkt pktMem
    exact allSamples_packetsAfter (settled pkt pktMem)
  · rw [parsed, allContextFields, List.flatMap_assoc, allContextFields]
    apply List.flatMap_congr
    intro pkt pktMem
    exact allContextFields_packetsAfter (settled pkt pktMem)
  · have again : reEncoded (reEncoded data) =
        reencode fileCodec (decodedPackets (reEncoded data)) := rfl
    rw [again, parsed, reencode, List.flatMap_assoc, reEncoded, reencode]
    apply List.flatMap_congr
    intro pkt pktMem
    exact reencode_packetsAfter (settled pkt pktMem)

end ExactFile

end FileCodec
end Vita49
end StarterCpp
