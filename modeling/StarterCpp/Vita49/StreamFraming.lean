import StarterCpp.Library.Framing
import StarterCpp.Vita49.PacketBounds

/-!
# The stream loop is a framing

`parsePacket` recognises a packet from the bytes of the packet alone, so it is a
framer in the sense of the framing library, and the loop of `parseStream` is the
loop of that framer.  The reads of a run and the tiling of the buffer by the
accepted packets are properties of the same loop.
-/

namespace StarterCpp
namespace Vita49
namespace Vita49Codec

open Scanner

variable {F D : Type} [FloatArithmetic F] [FloatArithmetic D]

section Packet

variable {codec : Vita49Codec F} {memory : ℕ → UInt8} {length : ℕ}

theorem meets_parsePacketScanner :
    Meets memory (InPacket memory codec.byteOrder length)
      (codec.parsePacketScanner length : ByteScanner (ParsedPacket F D))
      fun _ => PacketFits memory codec.byteOrder length := by
  unfold parsePacketScanner
  refine (Meets.require _).bind fun _ longEnough => ?_
  refine (meets_readWord0 longEnough).bind fun word0 isWord0 => ?_
  subst isWord0
  dsimp only
  split_ifs
  · exact SignalDataPacket.meets_decode.bind
      fun _ found => Meets.pure found.1.fits
  · exact ContextPacket.meets_decode.bind
      fun _ found => Meets.pure found.1.fits
  · refine (Meets.require _).bind fun _ accepted => ?_
    refine (Meets.assign _).bind fun _ _ => Meets.pure ?_
    rw [← UInt16.toNat_inj, toNat_sizeField, UInt16.toNat_zero] at accepted
    exact ⟨by omega, by omega⟩

theorem reports_parsePacketScanner :
    Reports memory
      (codec.parsePacketScanner length : ByteScanner (ParsedPacket F D))
      (4 * packetSizeAt memory codec.byteOrder) := by
  unfold parsePacketScanner
  refine Reports.silent_bind (Silent.require _) fun _ _ => ?_
  refine Reports.silent_bind (silent_readWord _ _) fun word0 isWord0 => ?_
  rw [result_readWord0, Option.some.injEq] at isWord0
  subst isWord0
  dsimp only
  split_ifs
  · exact SignalDataPacket.reports_decode.bind_pure _
  · exact ContextPacket.reports_decode.bind_pure _
  · refine Reports.silent_bind (Silent.require _) fun _ _ => ?_
    rw [toNat_sizeField, Nat.mul_comm 4]
    exact Reports.assign_pure _

theorem result_parsePacketScanner_congr
    {other : ℕ}
    (covers : Covers memory codec.byteOrder length)
    (otherCovers : Covers memory codec.byteOrder other) :
    (codec.parsePacketScanner length :
        ByteScanner (ParsedPacket F D)).result memory =
      (codec.parsePacketScanner other).result memory := by
  have untruncated (available : ℕ)
      (enough : ¬ available < packetSizeAt memory codec.byteOrder * 4) :
      ((word0At memory codec.byteOrder &&& 0xFFFF).toUInt16 = 0 ∨
        (word0At memory codec.byteOrder &&& 0xFFFF).toUInt16.toNat * 4 >
          available) ↔
        (word0At memory codec.byteOrder &&& 0xFFFF).toUInt16 = 0 :=
    or_iff_left (by rwa [toNat_sizeField])
  simp only [parsePacketScanner, result_bind, result_require, result_readWord0,
    Option.bind_some, if_pos covers.notShort, if_pos otherCovers.notShort]
  split_ifs
  · simp only [result_bind,
      SignalDataPacket.result_decode_congr covers otherCovers]
  · simp only [result_bind, ContextPacket.result_decode_congr covers otherCovers]
  · simp only [result_bind, result_require,
      untruncated length covers.notTruncated,
      untruncated other otherCovers.notTruncated]

/-- What the data decoder decodes is returned as signal data. -/
theorem result_of_decode_data
    {decoded : SignalDataPacket.DecodeResult F}
    (returned :
      (SignalDataPacket.decode length codec.byteOrder
        codec.scaleFactor).result memory = some decoded) :
    (codec.parsePacketScanner length :
        ByteScanner (ParsedPacket F D)).result memory =
      some {
        type := .signalData
        header := decoded.header
        samples := decoded.samples } := by
  obtain ⟨found, isData⟩ :=
    SignalDataPacket.meets_decode.result_ensured decoded returned
  rw [found.packetType, PacketHeaderCodec.parseWord0] at isData
  simp only [parsePacketScanner, result_bind, result_require, result_readWord0,
    Option.bind_some, if_pos found.fits.covers.notShort, if_pos isData,
    returned, result_pure]

/-- What the context decoder decodes is returned as context. -/
theorem result_of_decode_context
    {decoded : ContextPacket.DecodeResult D}
    (returned :
      (ContextPacket.decode length codec.byteOrder).result memory =
        some decoded) :
    (codec.parsePacketScanner length :
        ByteScanner (ParsedPacket F D)).result memory =
      some {
        type := .context
        header := decoded.header
        contextFields := decoded.fields } := by
  obtain ⟨found, isContext⟩ :=
    ContextPacket.meets_decode.result_ensured decoded returned
  rw [found.packetType, PacketHeaderCodec.parseWord0] at isContext
  have notData := PacketType.isDataPacket_of_isContextPacket isContext
  simp only [parsePacketScanner, result_bind, result_require, result_readWord0,
    Option.bind_some, if_pos found.fits.covers.notShort, notData,
    if_pos isContext, returned, result_pure, Bool.false_eq_true, if_false]

end Packet

section Buffer

variable {codec : Vita49Codec F} {data : List UInt8} {bytesConsumed size : ℕ}
variable {packet : ParsedPacket F D}

/-- The announced size of the packet at the start of a buffer, in words. -/
def packetSizeOf (codec : Vita49Codec F) (data : List UInt8) : ℕ :=
  packetSizeAt (memoryOf data) codec.byteOrder

/-- `bytesConsumed` is the packet's size after a success and is left alone
after a failure. -/
theorem parsePacket_snd (codec : Vita49Codec F) (data : List UInt8) :
    (codec.parsePacket data bytesConsumed :
        Option (ParsedPacket F D) × ℕ).2 =
      (codec.parsePacket data bytesConsumed :
        Option (ParsedPacket F D) × ℕ).1.elim bytesConsumed
          fun _ => 4 * codec.packetSizeOf data :=
  reports_parsePacketScanner bytesConsumed

theorem size_of_parsePacket
    (parsed : codec.parsePacket data bytesConsumed = (some packet, size)) :
    size = 4 * codec.packetSizeOf data := by
  have reported : (codec.parsePacket data bytesConsumed :
      Option (ParsedPacket F D) × ℕ).2 = _ := parsePacket_snd codec data
  rwa [parsed] at reported

theorem result_of_parsePacket
    (parsed : codec.parsePacket data bytesConsumed = (some packet, size)) :
    (codec.parsePacketScanner data.length).result (memoryOf data) =
      some packet :=
  congrArg Prod.fst parsed

theorem fits_of_parsePacket
    (parsed : codec.parsePacket data bytesConsumed = (some packet, size)) :
    PacketFits (memoryOf data) codec.byteOrder data.length :=
  meets_parsePacketScanner.result_ensured packet (result_of_parsePacket parsed)

theorem memoryOf_take_append
    {index : ℕ}
    (rest : List UInt8)
    (inside : index < size)
    (available : size ≤ data.length) :
    memoryOf (data.take size ++ rest) index = memoryOf data index := by
  have inData : index < data.length := inside.trans_le available
  have inTake : index < (data.take size).length := by
    rw [List.length_take]
    omega
  simp only [memoryOf, List.getD_eq_getElem?_getD,
    List.getElem?_append_left inTake, List.getElem?_take_of_lt inside]

/-- A packet is recognised by its own bytes, whatever follows them. -/
theorem parsePacket_take_append
    (parsed : codec.parsePacket data bytesConsumed = (some packet, size))
    (rest : List UInt8)
    (before : ℕ) :
    codec.parsePacket (data.take size ++ rest) before = (some packet, size) := by
  have fits := fits_of_parsePacket parsed
  have sizeEq : size = 4 * packetSizeAt (memoryOf data) codec.byteOrder :=
    size_of_parsePacket parsed
  have positive := fits.positive
  have available : size ≤ data.length := sizeEq ▸ fits.available
  have sameCell (index : ℕ) (inside : index < size) :
      memoryOf (data.take size ++ rest) index = memoryOf data index :=
    memoryOf_take_append rest inside available
  have sameSize :
      packetSizeAt (memoryOf (data.take size ++ rest)) codec.byteOrder =
        packetSizeAt (memoryOf data) codec.byteOrder := by
    have sameWindow :
        window (memoryOf (data.take size ++ rest)) 0 4 =
          window (memoryOf data) 0 4 := by
      apply List.map_congr_left
      intro index inWord
      apply sameCell
      rw [List.mem_range] at inWord
      omega
    rw [packetSizeAt, packetSizeAt, word0At, word0At, sameWindow]
  have longEnough : size ≤ (data.take size ++ rest).length := by
    rw [List.length_append, List.length_take]
    omega
  have covers (length : ℕ) (enough : size ≤ length) :
      Covers (memoryOf (data.take size ++ rest)) codec.byteOrder length := by
    constructor
    · omega
    · rw [sameSize]
      omega
  have sameResult :
      (codec.parsePacketScanner data.length).result
          (memoryOf (data.take size ++ rest)) =
        (some packet : Option (ParsedPacket F D)) := by
    rw [← result_of_parsePacket parsed]
    apply result_eq_of_agree
    intro index isRead
    apply sameCell
    have inPacket :=
      (meets_parsePacketScanner.reads_allowed index isRead).inPacket
    omega
  have succeeded :
      (codec.parsePacket (data.take size ++ rest) before :
        Option (ParsedPacket F D) × ℕ).1 = some packet := by
    rw [← sameResult]
    exact result_parsePacketScanner_congr (covers _ longEnough)
      (covers _ available)
  apply Prod.ext succeeded
  rw [parsePacket_snd, succeeded, packetSizeOf, sameSize]
  exact sizeEq.symm

/-- The packet at the start of a buffer with its size. -/
def recognise
    (codec : Vita49Codec F)
    (data : List UInt8) : Option (ParsedPacket F D × ℕ) :=
  match codec.parsePacket data 0 with
  | (some packet, size) => some (packet, size)
  | (none, _) => none

theorem recognise_eq_some :
    codec.recognise data = some (packet, size) ↔
      codec.parsePacket data 0 = (some packet, size) := by
  unfold recognise
  split <;> simp_all

theorem recognise_eq_none :
    (codec.recognise data : Option (ParsedPacket F D × ℕ)) = none ↔
      (codec.parsePacket data 0 : Option (ParsedPacket F D) × ℕ).1 = none := by
  unfold recognise
  split <;> simp_all

theorem recognise_of_result
    (returned : (codec.parsePacketScanner data.length).result (memoryOf data) =
      some packet) :
    codec.recognise data = some (packet, 4 * codec.packetSizeOf data) := by
  have accepted : (codec.parsePacket data 0 :
      Option (ParsedPacket F D) × ℕ).1 = some packet := returned
  rw [recognise_eq_some]
  apply Prod.ext accepted
  rw [parsePacket_snd, accepted]
  rfl

/-- A buffer that is exactly one decodable data packet. -/
theorem recognise_of_decode_data
    {decoded : SignalDataPacket.DecodeResult F}
    (returned :
      (SignalDataPacket.decode data.length codec.byteOrder
        codec.scaleFactor).result (memoryOf data) = some decoded)
    (exact : 4 * decoded.header.packetSize.toNat = data.length) :
    (codec.recognise data : Option (ParsedPacket F D × ℕ)) =
      some ({
        type := .signalData
        header := decoded.header
        samples := decoded.samples }, data.length) := by
  have found :=
    (SignalDataPacket.meets_decode.result_ensured decoded returned).1
  rw [recognise_of_result (result_of_decode_data returned), ← exact,
    found.packetSize, packetSizeOf]

/-- A buffer that is exactly one decodable context packet. -/
theorem recognise_of_decode_context
    {decoded : ContextPacket.DecodeResult D}
    (returned :
      (ContextPacket.decode data.length codec.byteOrder).result
        (memoryOf data) = some decoded)
    (exact : 4 * decoded.header.packetSize.toNat = data.length) :
    (codec.recognise data : Option (ParsedPacket F D × ℕ)) =
      some ({
        type := .context
        header := decoded.header
        contextFields := decoded.fields }, data.length) := by
  have found :=
    (ContextPacket.meets_decode.result_ensured decoded returned).1
  rw [recognise_of_result (result_of_decode_context returned), ← exact,
    found.packetSize, packetSizeOf]

/-- `parsePacket` is a framer. -/
def framer (codec : Vita49Codec F) : Framer UInt8 (ParsedPacket F D) where
  parse := codec.recognise
  size_pos := by
    intro data packet size recognised
    rw [recognise_eq_some] at recognised
    have positive := (fits_of_parsePacket recognised).positive
    rw [size_of_parsePacket recognised, packetSizeOf]
    omega
  size_le := by
    intro data packet size recognised
    rw [recognise_eq_some] at recognised
    rw [size_of_parsePacket recognised]
    exact (fits_of_parsePacket recognised).available
  parse_take_append := by
    intro data packet size rest recognised
    rw [recognise_eq_some] at recognised ⊢
    exact parsePacket_take_append recognised rest 0

end Buffer

section Stream

variable {codec : Vita49Codec F} {data : List UInt8}

/-- A buffer shorter than a word holds no packet. -/
theorem recognise_of_short (short : data.length < 4) :
    (codec.recognise data : Option (ParsedPacket F D × ℕ)) = none := by
  rw [recognise_eq_none]
  simp [parsePacket, parsePacketScanner, short]

/-- From every offset the loop appends the packets that the framer cuts off the
rest of the buffer. -/
theorem parseStreamFrom_eq_frames (codec : Vita49Codec F) (offset : ℕ) :
    (codec.parseStreamFrom data offset : StreamRun F D).results =
        (codec.framer.frames (data.drop offset)).map Prod.fst ∧
      (codec.parseStreamFrom data offset : StreamRun F D).offset =
        offset + (codec.framer : Framer UInt8 (ParsedPacket F D)).consumed
          (data.drop offset) := by
  have stopped (offset : ℕ)
      (stuck : (codec.recognise (data.drop offset) :
        Option (ParsedPacket F D × ℕ)) = none) :
      ([] : List (ParsedPacket F D)) =
          (codec.framer.frames (data.drop offset)).map Prod.fst ∧
        offset = offset +
          (codec.framer : Framer UInt8 (ParsedPacket F D)).consumed
            (data.drop offset) := by
    rw [Framer.frames_of_none stuck, Framer.consumed_of_none stuck]
    exact ⟨rfl, rfl⟩
  fun_induction @parseStreamFrom F D _ _ codec data offset with
  | case1 offset inside remaining short =>
      exact stopped offset (recognise_of_short (by rw [List.length_drop]; exact short))
  | case2 offset inside remaining long rest reads left call =>
      refine stopped offset (recognise_eq_none.mpr ?_)
      rw [call]
  | case3 offset inside remaining long rest reads packet call =>
      have positive : 0 < codec.packetSizeOf rest :=
        (fits_of_parsePacket call).positive
      have noProgress : 0 = 4 * codec.packetSizeOf rest :=
        size_of_parsePacket call
      omega
  | case4 offset inside remaining long rest reads packet consumed call progress
      later inductionHypothesis =>
      have recognised := recognise_eq_some.mpr call
      obtain ⟨laterResults, laterOffset⟩ := inductionHypothesis
      rw [← List.drop_drop] at laterResults laterOffset
      constructor
      · rw [Framer.frames_of_some recognised]
        exact congrArg (List.cons packet) laterResults
      · rw [Framer.consumed_of_some recognised, ← Nat.add_assoc]
        exact laterOffset
  | case5 offset outside =>
      refine stopped offset (recognise_of_short ?_)
      rw [List.length_drop]
      omega

/-- A run of the loop is a run of the framer. -/
theorem streamRun_eq_frames (codec : Vita49Codec F) (data : List UInt8) :
    (codec.parseStream data : List (ParsedPacket F D)) =
        (codec.framer.frames data).map Prod.fst ∧
      (codec.streamRun data : StreamRun F D).offset =
        (codec.framer : Framer UInt8 (ParsedPacket F D)).consumed data := by
  unfold parseStream streamRun
  split
  · rename_i empty
    rw [List.eq_nil_of_length_eq_zero empty, Framer.frames_nil,
      Framer.consumed_nil]
    exact ⟨rfl, rfl⟩
  · have whole :
        (codec.parseStreamFrom data 0 : StreamRun F D).results = _ ∧ _ :=
      parseStreamFrom_eq_frames codec 0
    rwa [List.drop_zero, Nat.zero_add] at whole

/-- Consecutive packets accepted from one offset of a buffer to another. -/
inductive Tiles (codec : Vita49Codec F) (data : List UInt8) :
    ℕ → List (ParsedPacket F D) → ℕ → Prop
  | stop (offset : ℕ) : Tiles codec data offset [] offset
  | packet
      {offset stop : ℕ}
      {packet : ParsedPacket F D}
      {packets : List (ParsedPacket F D)}
      (accepted : codec.parsePacket (data.drop offset) 0 =
        (some packet, 4 * codec.packetSizeOf (data.drop offset)))
      (nonempty : 4 ≤ 4 * codec.packetSizeOf (data.drop offset))
      (inBuffer :
        offset + 4 * codec.packetSizeOf (data.drop offset) ≤ data.length)
      (rest : Tiles codec data
        (offset + 4 * codec.packetSizeOf (data.drop offset)) packets stop) :
      Tiles codec data offset (packet :: packets) stop

/-- A read that the buffer and the packet it belongs to allow. -/
structure ReadAllowed
    (codec : Vita49Codec F)
    (data : List UInt8)
    (offset index : ℕ) : Prop where
  inBuffer : index < data.length
  notBefore : offset ≤ index
  inPacket : index < offset + 4 ∨
    index < offset + 4 * codec.packetSizeOf (data.drop offset)

theorem readAllowed_of_mem
    {offset index : ℕ}
    (inside : offset < data.length)
    (isRead : index ∈ codec.parsePacketReads D (data.drop offset)) :
    codec.ReadAllowed data offset (offset + index) := by
  have allowed := meets_parsePacketScanner.reads_allowed index isRead
  have inBuffer := allowed.inBuffer
  have inPacket := allowed.inPacket
  rw [List.length_drop] at inBuffer
  refine ⟨by omega, by omega, ?_⟩
  rw [packetSizeOf]
  omega

/-- The packets a run appends tile the buffer from where the run starts to
where it stops, and every read belongs to the packet at the end of some of
these tiles. -/
theorem tiles_parseStreamFrom (codec : Vita49Codec F) (offset : ℕ) :
    Tiles codec data offset
        (codec.parseStreamFrom data offset : StreamRun F D).results
        (codec.parseStreamFrom data offset : StreamRun F D).offset ∧
      ∀ access ∈ (codec.parseStreamFrom data offset : StreamRun F D).reads,
        codec.ReadAllowed data access.1 access.2 ∧
          ∃ before,
            before <+: (codec.parseStreamFrom data offset :
              StreamRun F D).results ∧
            Tiles codec data offset before access.1 := by
  have here (offset : ℕ) (inside : offset < data.length)
      (packets : List (ParsedPacket F D)) :
      ∀ access ∈ (codec.parsePacketReads D (data.drop offset)).map
          (fun index => (offset, offset + index)),
        codec.ReadAllowed data access.1 access.2 ∧
          ∃ before, before <+: packets ∧
            Tiles codec data offset before access.1 := by
    intro access isRead
    obtain ⟨index, indexRead, rfl⟩ := List.mem_map.mp isRead
    exact ⟨readAllowed_of_mem inside indexRead, [], List.nil_prefix, .stop offset⟩
  fun_induction @parseStreamFrom F D _ _ codec data offset with
  | case1 offset inside remaining short => exact ⟨.stop offset, by simp⟩
  | case2 offset inside remaining long rest reads left call =>
      exact ⟨.stop offset, here offset inside []⟩
  | case3 offset inside remaining long rest reads packet call =>
      exact ⟨.stop offset, here offset inside []⟩
  | case4 offset inside remaining long rest reads packet consumed call progress
      later inductionHypothesis =>
      obtain ⟨laterTiles, laterReads⟩ := inductionHypothesis
      have fits := fits_of_parsePacket call
      have size : consumed = 4 * codec.packetSizeOf (data.drop offset) :=
        size_of_parsePacket call
      have available : consumed ≤ (data.drop offset).length :=
        size ▸ fits.available
      have positive : 0 < codec.packetSizeOf (data.drop offset) := fits.positive
      rw [List.length_drop] at available
      have tile {packets : List (ParsedPacket F D)} {stop : ℕ}
          (tail : Tiles codec data (offset + consumed) packets stop) :
          Tiles codec data offset (packet :: packets) stop := by
        subst size
        exact .packet call (by omega) (by omega) tail
      refine ⟨tile laterTiles, ?_⟩
      intro access isRead
      rcases List.mem_append.mp isRead with first | rest
      · exact here offset inside _ access first
      · obtain ⟨allowed, before, isPrefix, tiles⟩ := laterReads access rest
        exact ⟨allowed, packet :: before, (List.prefix_cons_inj _).mpr isPrefix,
          tile tiles⟩
  | case5 offset outside => exact ⟨.stop offset, by simp⟩

theorem length_le_of_tiles
    {offset stop : ℕ}
    {packets : List (ParsedPacket F D)}
    (tiles : Tiles codec data offset packets stop) :
    offset + 4 * packets.length ≤ stop := by
  induction tiles with
  | stop offset => simp
  | packet accepted nonempty inBuffer rest inductionHypothesis =>
      rw [List.length_cons]
      omega

/-- Parsing is safe on every buffer: the loop stops after at most one round for
each four bytes, every byte it reads is in the buffer and belongs to the packet
being read, the accepted packets tile a prefix of the buffer, and a call of
`parsePacket` that returns nothing leaves `bytesConsumed` as it was. -/
theorem parseStream_safe (codec : Vita49Codec F) (data : List UInt8) :
    (∀ access ∈ (codec.streamRun data : StreamRun F D).reads,
        codec.ReadAllowed data access.1 access.2 ∧
          ∃ before,
            before <+: (codec.parseStream data : List (ParsedPacket F D)) ∧
            Tiles codec data 0 before access.1) ∧
      Tiles codec data 0 (codec.parseStream data : List (ParsedPacket F D))
        (codec.streamRun data : StreamRun F D).offset ∧
      4 * (codec.parseStream data : List (ParsedPacket F D)).length ≤
        (codec.streamRun data : StreamRun F D).offset ∧
      (codec.streamRun data : StreamRun F D).offset ≤ data.length ∧
      ∀ buffer bytesConsumed,
        (codec.parsePacket buffer bytesConsumed :
          Option (ParsedPacket F D) × ℕ).1 = none →
        (codec.parsePacket buffer bytesConsumed :
          Option (ParsedPacket F D) × ℕ).2 = bytesConsumed := by
  have tiling :
      Tiles codec data 0 (codec.parseStream data : List (ParsedPacket F D))
          (codec.streamRun data : StreamRun F D).offset ∧
        ∀ access ∈ (codec.streamRun data : StreamRun F D).reads,
          codec.ReadAllowed data access.1 access.2 ∧
            ∃ before,
              before <+: (codec.parseStream data :
                List (ParsedPacket F D)) ∧
              Tiles codec data 0 before access.1 := by
    unfold parseStream streamRun
    split
    · exact ⟨.stop 0, by simp⟩
    · exact tiles_parseStreamFrom codec 0
  refine ⟨tiling.2, tiling.1, ?_, ?_, ?_⟩
  · have bound := length_le_of_tiles tiling.1
    rwa [Nat.zero_add] at bound
  · rw [(streamRun_eq_frames codec data).2]
    exact Framer.consumed_le _ data
  · intro buffer bytesConsumed failed
    rw [parsePacket_snd, failed]
    rfl

end Stream

end Vita49Codec
end Vita49
end StarterCpp
