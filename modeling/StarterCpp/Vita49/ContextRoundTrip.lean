import StarterCpp.Vita49.StreamFraming

/-!
# An encoded context packet is parsed back

The encoder writes one block for each field that is present, and sets its bit;
the decoder walks the bits and reads the same blocks at the same offsets.  Both
are described by one table from bits to blocks, and the walk is an induction
over the bits, for whichever fields are present.
-/

namespace StarterCpp
namespace Vita49
namespace ContextPacket

open Scanner

variable {D : Type} [FloatArithmetic D]

section Table

/-- The bits of the fields that both directions support. -/
def fieldBits : List ℕ :=
  [30, 29, 28, 27, 26, 25, 24, 23, 22, 21]

/-- The bytes that the encoder writes for a bit, if its field is present. -/
def blockBytes
    (fields : ContextFields D)
    (order : ByteOrder)
    (bit : ℕ) : Option (List UInt8) :=
  match bit with
  | 30 => fields.referencePointId.map (writeWord · order)
  | 29 => fields.bandwidth.map (writeFreq order)
  | 28 => fields.ifRefFrequency.map (writeFreq order)
  | 27 => fields.rfFrequency.map (writeFreq order)
  | 26 => fields.rfFreqOffset.map (writeFreq order)
  | 25 => fields.ifBandOffset.map (writeFreq order)
  | 24 => fields.referenceLevel.map
      fun dBm => writeWord (refLevelToFixed dBm) order
  | 23 => fields.gain.map fun dB => writeWord (gainToFixed dB) order
  | 22 => fields.overRangeCount.map (writeWord · order)
  | 21 => fields.sampleRate.map (writeFreq order)
  | _ => none

/-- The blocks of the encoder, bit by bit. -/
theorem fieldBlocks_eq (fields : ContextFields D) (order : ByteOrder) :
    fieldBlocks fields order =
      fieldBits.map fun bit => ⟨cif0Mask bit, blockBytes fields order bit⟩ :=
  rfl

theorem loopBits_eq : loopBits = fieldBits ++ [20, 19, 18, 17, 16, 15] := rfl

/-- A frequency after encoding and decoding. -/
def requantizedFreq (hz : D) : D :=
  freqFromFixed (freqToFixed hz)

/-- A reference level after encoding and decoding. -/
def requantizedLevel (dBm : D) : D :=
  refLevelFromFixed (refLevelToFixed dBm)

/-- A gain after encoding and decoding. -/
def requantizedGain (dB : D) : D :=
  gainFromFixed (gainToFixed dB)

/-- The fields after encoding and decoding. -/
def requantized (fields : ContextFields D) : ContextFields D :=
  { fields with
    bandwidth := fields.bandwidth.map requantizedFreq
    ifRefFrequency := fields.ifRefFrequency.map requantizedFreq
    rfFrequency := fields.rfFrequency.map requantizedFreq
    rfFreqOffset := fields.rfFreqOffset.map requantizedFreq
    ifBandOffset := fields.ifBandOffset.map requantizedFreq
    referenceLevel := fields.referenceLevel.map requantizedLevel
    gain := fields.gain.map requantizedGain
    sampleRate := fields.sampleRate.map requantizedFreq }

/-- Take one field over from other fields. -/
def copyField
    (source : ContextFields D)
    (bit : ℕ)
    (target : ContextFields D) : ContextFields D :=
  match bit with
  | 30 => { target with referencePointId := source.referencePointId }
  | 29 => { target with bandwidth := source.bandwidth }
  | 28 => { target with ifRefFrequency := source.ifRefFrequency }
  | 27 => { target with rfFrequency := source.rfFrequency }
  | 26 => { target with rfFreqOffset := source.rfFreqOffset }
  | 25 => { target with ifBandOffset := source.ifBandOffset }
  | 24 => { target with referenceLevel := source.referenceLevel }
  | 23 => { target with gain := source.gain }
  | 22 => { target with overRangeCount := source.overRangeCount }
  | 21 => { target with sampleRate := source.sampleRate }
  | _ => target

end Table

section Blocks

variable {memory : ℕ → UInt8} {order : ByteOrder}

theorem length_writeFreq (order : ByteOrder) (hz : D) :
    (writeFreq order hz).length = 8 :=
  length_writeDWord _ _

/-- A written frequency is read back in its fixed-point precision. -/
theorem result_readFreq
    {offset : ℕ}
    {hz : D}
    (holds : Holds memory offset (writeFreq order hz)) :
    (readFreq offset order : ByteScanner D).result memory =
      some (requantizedFreq hz) := by
  simp only [readFreq, result_bind, result_readDWord_of_holds holds,
    Option.bind_some, result_pure]
  rfl

theorem blockBytes_of_unsupported
    {fields : ContextFields D}
    {bit : ℕ}
    (unsupported : bit ∉ fieldBits) :
    blockBytes fields order bit = none := by
  unfold blockBytes
  split
  all_goals first
    | rfl
    | exact absurd (by decide) unsupported

/-- A block has the size of the table. -/
theorem length_of_blockBytes
    {fields : ContextFields D}
    {bit : ℕ}
    {bytes : List UInt8}
    (present : blockBytes fields order bit = some bytes) :
    0 < cif0FieldSizeWords bit ∧
      bytes.length = (cif0FieldSizeWords bit).toNat * 4 ∧
      bytes.length ≤ 8 := by
  unfold blockBytes at present
  split at present
  all_goals first
    | contradiction
    | obtain ⟨value, -, rfl⟩ := Option.map_eq_some_iff.mp present
      simp [cif0FieldSizeWords, length_writeFreq]

/-- A block is decoded to the requantized field. -/
theorem result_decodeField
    {fields : ContextFields D}
    {bit offset : ℕ}
    {bytes : List UInt8}
    (present : blockBytes fields order bit = some bytes)
    (holds : Holds memory offset bytes)
    (target : ContextFields D) :
    (decodeField order bit offset target).result memory =
      some (copyField (requantized fields) bit target) := by
  unfold blockBytes at present
  split at present
  all_goals first
    | contradiction
    | obtain ⟨value, isValue, rfl⟩ := Option.map_eq_some_iff.mp present
      first
        | simp [decodeField, result_readWord_of_holds holds, copyField,
            requantized, requantizedLevel, requantizedGain, isValue]
        | simp [decodeField, result_readFreq holds, copyField, requantized,
            isValue]

end Blocks

section IndicatorBits

theorem toNat_cif0Mask {bit : ℕ} (inside : bit < 32) :
    (cif0Mask bit).toNat = 2 ^ bit := by
  have small : 2 ^ bit < 2 ^ 32 := Nat.pow_lt_pow_right (by norm_num) inside
  rw [cif0Mask, UInt32.toNat_shiftLeft, UInt32.toNat_one,
    UInt32.toNat_ofNat_of_lt' (by rw [UInt32.size]; omega),
    Nat.mod_eq_of_lt inside, Nat.one_shiftLeft, Nat.mod_eq_of_lt small]

/-- Testing a bit of the indicator field with its mask. -/
theorem and_cif0Mask_eq_zero
    {bit : ℕ}
    (inside : bit < 32)
    (cif0 : UInt32) :
    cif0 &&& cif0Mask bit = 0 ↔ cif0.toNat.testBit bit = false := by
  have masked := BitFields.and_bit_ne_zero cif0.toNat bit
  rw [← UInt32.toNat_inj, UInt32.toNat_and, toNat_cif0Mask inside,
    UInt32.toNat_zero, ← Bool.not_eq_true, ← masked, not_not]

/-- Joining blocks sets the bits of the blocks that are present. -/
theorem testBit_foldl_blocks
    {present : ℕ → Bool}
    {bits : List ℕ}
    (inside : ∀ bit ∈ bits, bit < 32)
    (start : UInt32)
    (index : ℕ) :
    (bits.foldl
        (fun cif0 bit => if present bit then cif0 ||| cif0Mask bit else cif0)
        start).toNat.testBit index =
      (start.toNat.testBit index ||
        (decide (index ∈ bits) && present index)) := by
  induction bits generalizing start with
  | nil => simp
  | cons bit bits inductionHypothesis =>
      have bitInside := inside bit List.mem_cons_self
      rw [List.foldl_cons, inductionHypothesis fun later laterMem =>
        inside later (List.mem_cons_of_mem _ laterMem)]
      by_cases isBit : index = bit
      · subst isBit
        cases present index <;>
          simp [toNat_cif0Mask bitInside, Nat.testBit_two_pow_self]
      · cases present bit <;>
          simp [isBit, toNat_cif0Mask bitInside,
            Nat.testBit_two_pow_of_ne (Ne.symm isBit)]

/-- The indicator field has the bits of the fields that are present. -/
theorem testBit_encodeCif0
    (fields : ContextFields D)
    (order : ByteOrder)
    {bit : ℕ}
    (inside : bit < 31) :
    (encodeCif0 fields order).toNat.testBit bit =
      (blockBytes fields order bit).isSome := by
  have start :
      (if fields.changeIndicator then CIF0_CHANGE_INDICATOR
        else 0).toNat.testBit bit = false := by
    split
    · rw [CIF0_CHANGE_INDICATOR, toNat_cif0Mask (by norm_num)]
      exact Nat.testBit_two_pow_of_ne (by omega)
    · simp
  rw [encodeCif0, fieldBlocks_eq, List.foldl_map,
    testBit_foldl_blocks (by decide), start, Bool.false_or]
  by_cases supported : bit ∈ fieldBits
  · simp [supported]
  · simp [supported, blockBytes_of_unsupported supported]

theorem testBit_encodeCif0_unsupported
    (fields : ContextFields D)
    (order : ByteOrder)
    {bit : ℕ}
    (unsupported : bit ∈ [20, 19, 18, 17, 16, 15]) :
    (encodeCif0 fields order).toNat.testBit bit = false := by
  have inside : ∀ bit ∈ [20, 19, 18, 17, 16, 15],
      bit < 31 ∧ bit ∉ fieldBits := by
    decide
  rw [testBit_encodeCif0 fields order (inside bit unsupported).1,
    blockBytes_of_unsupported (inside bit unsupported).2]
  rfl

theorem testBit_encodeCif0_change
    (fields : ContextFields D)
    (order : ByteOrder) :
    (encodeCif0 fields order).toNat.testBit 31 = fields.changeIndicator := by
  have top : CIF0_CHANGE_INDICATOR.toNat.testBit 31 = true := by decide
  have notField : 31 ∉ fieldBits := by decide
  rw [encodeCif0, fieldBlocks_eq, List.foldl_map,
    testBit_foldl_blocks (by decide)]
  cases fields.changeIndicator <;> simp [top, notField]

/-- The change indicator is read back. -/
theorem encodeCif0_change (fields : ContextFields D) (order : ByteOrder) :
    ((encodeCif0 fields order &&& CIF0_CHANGE_INDICATOR) != 0) =
      fields.changeIndicator := by
  have clear := and_cif0Mask_eq_zero (by decide : 31 < 32)
    (encodeCif0 fields order)
  rw [testBit_encodeCif0_change, ← CIF0_CHANGE_INDICATOR] at clear
  cases indicator : fields.changeIndicator with
  | false => simp [clear.mpr indicator]
  | true =>
      have set : ¬ encodeCif0 fields order &&& CIF0_CHANGE_INDICATOR = 0 := by
        rw [clear, indicator]
        decide
      simp [set]

end IndicatorBits

section FieldLoop

variable {memory : ℕ → UInt8} {order : ByteOrder}
variable {cif0 : UInt32} {packetBytes : ℕ}

/-- The bytes the encoder writes for some bits. -/
def blocksOf
    (fields : ContextFields D)
    (order : ByteOrder)
    (bits : List ℕ) : List UInt8 :=
  bits.flatMap fun bit => (blockBytes fields order bit).getD []

/-- Copy a field if it is present. -/
def mergeField
    (fields : ContextFields D)
    (order : ByteOrder)
    (target : ContextFields D)
    (bit : ℕ) : ContextFields D :=
  if (blockBytes fields order bit).isSome then
    copyField (requantized fields) bit target
  else
    target

/-- A bit that is not set is passed over. -/
theorem decodeFields_of_clear
    {bit : ℕ}
    (inside : bit < 32)
    (clear : cif0.toNat.testBit bit = false)
    (bits : List ℕ)
    (offset : ℕ)
    (target : ContextFields D) :
    decodeFields order cif0 packetBytes (bit :: bits) offset target =
      decodeFields order cif0 packetBytes bits offset target := by
  rw [decodeFields, if_pos ((and_cif0Mask_eq_zero inside cif0).mpr clear)]

/-- A bit that is set has its field decoded, when the field is in the packet. -/
theorem result_decodeFields_of_set
    {bit offset : ℕ}
    {target decoded : ContextFields D}
    (inside : bit < 32)
    (set : cif0.toNat.testBit bit = true)
    (sized : 0 < cif0FieldSizeWords bit)
    (room : offset + (cif0FieldSizeWords bit).toNat * 4 ≤ packetBytes)
    (field : (decodeField order bit offset target).result memory = some decoded)
    (bits : List ℕ) :
    (decodeFields order cif0 packetBytes (bit :: bits) offset target).result
        memory =
      (decodeFields order cif0 packetBytes bits
        (offset + (cif0FieldSizeWords bit).toNat * 4) decoded).result memory := by
  have isSet : ¬ cif0 &&& cif0Mask bit = 0 := by
    rw [and_cif0Mask_eq_zero inside, set]
    decide
  rw [decodeFields, if_neg isSet, if_neg (not_lt.mpr sized.le),
    if_neg sized.ne']
  simp only [result_bind, result_require, if_pos (not_lt.mpr room),
    Option.bind_some, field]

/-- The walk over the bits decodes the blocks of the encoder, one by one. -/
theorem result_decodeFields_blocks
    {fields : ContextFields D}
    {bits : List ℕ}
    (inside : ∀ bit ∈ bits, bit < 32)
    (flags : ∀ bit ∈ bits,
      cif0.toNat.testBit bit = (blockBytes fields order bit).isSome)
    {offset : ℕ}
    (room : offset + (blocksOf fields order bits).length ≤ packetBytes)
    (holds : Holds memory offset (blocksOf fields order bits))
    (target : ContextFields D)
    (rest : List ℕ) :
    (decodeFields order cif0 packetBytes (bits ++ rest) offset target).result
        memory =
      (decodeFields order cif0 packetBytes rest
        (offset + (blocksOf fields order bits).length)
        (bits.foldl (mergeField fields order) target)).result memory := by
  induction bits generalizing offset target with
  | nil => rfl
  | cons bit bits inductionHypothesis =>
      have bitInside := inside bit List.mem_cons_self
      have flag := flags bit List.mem_cons_self
      have restInside : ∀ later ∈ bits, later < 32 := fun later laterMem =>
        inside later (List.mem_cons_of_mem _ laterMem)
      have restFlags : ∀ later ∈ bits, cif0.toNat.testBit later =
          (blockBytes fields order later).isSome := fun later laterMem =>
        flags later (List.mem_cons_of_mem _ laterMem)
      rw [blocksOf, List.flatMap_cons, ← blocksOf] at room holds ⊢
      rw [List.cons_append, List.foldl_cons, mergeField]
      cases present : blockBytes fields order bit with
      | none =>
          rw [present] at flag room holds
          rw [decodeFields_of_clear bitInside flag]
          exact inductionHypothesis restInside restFlags room holds target
      | some bytes =>
          obtain ⟨sized, size, -⟩ := length_of_blockBytes present
          rw [present] at flag room holds
          simp only [Option.getD_some, holds_append, List.length_append]
            at room holds ⊢
          rw [result_decodeFields_of_set bitInside flag sized (by omega)
              (result_decodeField present holds.1 target), ← size,
            inductionHypothesis restInside restFlags (by omega) holds.2,
            Nat.add_assoc]
          rfl

/-- Bits that are not set decode nothing. -/
theorem result_decodeFields_of_clear
    {bits : List ℕ}
    (inside : ∀ bit ∈ bits, bit < 32)
    (clear : ∀ bit ∈ bits, cif0.toNat.testBit bit = false)
    (offset : ℕ)
    (target : ContextFields D) :
    (decodeFields order cif0 packetBytes bits offset target).result memory =
      some target := by
  induction bits with
  | nil => rfl
  | cons bit bits inductionHypothesis =>
      rw [decodeFields_of_clear (inside bit List.mem_cons_self)
        (clear bit List.mem_cons_self)]
      exact inductionHypothesis
        (fun later laterMem => inside later (List.mem_cons_of_mem _ laterMem))
        fun later laterMem => clear later (List.mem_cons_of_mem _ laterMem)

/-- A field that is absent from the target may be copied, present or not. -/
theorem mergeField_of_absent
    {fields target : ContextFields D}
    {bit : ℕ}
    (absent : copyField {} bit target = target) :
    mergeField fields order target bit =
      copyField (requantized fields) bit target := by
  cases present : blockBytes fields order bit with
  | some bytes => simp [mergeField, present]
  | none =>
      rw [mergeField, present, Option.isSome_none, if_neg (by decide)]
      conv_lhs => rw [← absent]
      unfold blockBytes at present
      split at present
      all_goals first
        | rfl
        | rw [Option.map_eq_none_iff] at present
          simp [copyField, requantized, present]
        | simp [copyField, *]

/-- The walk over all fields builds up the requantized fields. -/
theorem foldl_mergeField (fields : ContextFields D) (order : ByteOrder) :
    fieldBits.foldl (mergeField fields order)
        { changeIndicator := fields.changeIndicator } =
      requantized fields := by
  simp (disch := exact id rfl) only [fieldBits, List.foldl_cons,
    List.foldl_nil, mergeField_of_absent, copyField]
  rfl

end FieldLoop

section Size

theorem encodeFieldData_eq (fields : ContextFields D) (order : ByteOrder) :
    encodeFieldData fields order = blocksOf fields order fieldBits := by
  rw [encodeFieldData, fieldBlocks_eq, List.flatMap_map, blocksOf]

/-- Blocks are whole words, at most two for each bit. -/
theorem length_blocksOf
    (fields : ContextFields D)
    (order : ByteOrder)
    (bits : List ℕ) :
    4 ∣ (blocksOf fields order bits).length ∧
      (blocksOf fields order bits).length ≤ 8 * bits.length := by
  induction bits with
  | nil => simp [blocksOf]
  | cons bit bits inductionHypothesis =>
      obtain ⟨restWords, restSmall⟩ := inductionHypothesis
      rw [blocksOf, List.flatMap_cons, ← blocksOf, List.length_append,
        List.length_cons]
      cases present : blockBytes fields order bit with
      | none =>
          rw [Option.getD_none, List.length_nil]
          omega
      | some bytes =>
          obtain ⟨-, size, small⟩ := length_of_blockBytes present
          rw [Option.getD_some]
          omega

end Size

end ContextPacket

/-- The arguments of a call of `encodeContext`. -/
structure ContextCall (D : Type) where
  streamId : UInt32
  fields : ContextFields D
  packetCount : UInt8
  tsiType : TSI
  tsfType : TSF
  intTimestamp : UInt32
  fracTimestamp : UInt64

namespace ContextCall

open Scanner ContextPacket Vita49Codec

variable {F D : Type} [FloatArithmetic D] {codec : Vita49Codec F}

/-- The bytes the call returns. -/
def encoded (call : ContextCall D) (codec : Vita49Codec F) : List UInt8 :=
  codec.encodeContext call.streamId call.fields call.packetCount call.tsiType
    call.tsfType call.intTimestamp call.fracTimestamp

/-- The header of the call, before its size is set. -/
def header (call : ContextCall D) : PacketHeader :=
  encodeHeader call.streamId call.packetCount call.tsiType call.tsfType
    call.intTimestamp call.fracTimestamp

/-- The words of the packet. -/
def totalWords (call : ContextCall D) (order : ByteOrder) : ℕ :=
  PacketHeaderCodec.sizeInWords call.header + 1 +
    (encodeFieldData call.fields order).length / 4

/-- The header of the packet, with its size. -/
def sentHeader (call : ContextCall D) (order : ByteOrder) : PacketHeader :=
  { call.header with packetSize := UInt16.ofNat (call.totalWords order) }

/-- The packet as it is parsed back. -/
def sentPacket (call : ContextCall D) (order : ByteOrder) :
    ParsedPacket F D where
  type := .context
  header := call.sentHeader order
  contextFields := requantized call.fields

/-- A context packet is never too large. -/
theorem totalWords_le (call : ContextCall D) (order : ByteOrder) :
    call.totalWords order ≤ MAX_PACKET_SIZE_WORDS := by
  have small := (length_blocksOf call.fields order fieldBits).2
  have bits : fieldBits.length = 10 := rfl
  have headerWords : PacketHeaderCodec.sizeInWords call.header ≤ 7 := by
    rw [PacketHeaderCodec.sizeInWords]
    split_ifs <;> omega
  rw [totalWords, encodeFieldData_eq, MAX_PACKET_SIZE_WORDS]
  omega

theorem toNat_packetSize_sentHeader
    (call : ContextCall D)
    (order : ByteOrder) :
    (call.sentHeader order).packetSize.toNat = call.totalWords order :=
  UInt16.toNat_ofNat_of_lt' (Nat.lt_succ_of_le (call.totalWords_le order))

theorem populated_sentHeader (call : ContextCall D) (order : ByteOrder) :
    PacketHeaderCodec.Populated (call.sentHeader order) :=
  PacketHeaderCodec.populated_buildHeader rfl (by decide) _ _ _ _ _ _ _

/-- A context packet is its header, indicator field and field data. -/
theorem encoded_eq (call : ContextCall D) (codec : Vita49Codec F) :
    call.encoded codec =
      PacketHeaderCodec.serialize (call.sentHeader codec.byteOrder)
          codec.byteOrder ++
        writeWord (encodeCif0 call.fields codec.byteOrder) codec.byteOrder ++
        encodeFieldData call.fields codec.byteOrder := by
  have fits : ¬ call.totalWords codec.byteOrder > MAX_PACKET_SIZE_WORDS :=
    not_lt.mpr (call.totalWords_le codec.byteOrder)
  exact if_neg fits

theorem length_encoded (call : ContextCall D) (codec : Vita49Codec F) :
    (call.encoded codec).length = 4 * call.totalWords codec.byteOrder := by
  have words := (length_blocksOf call.fields codec.byteOrder fieldBits).1
  rw [encoded_eq, List.length_append, List.length_append, length_writeWord,
    PacketHeaderCodec.length_serialize (call.populated_sentHeader _),
    totalWords, encodeFieldData_eq]
  change PacketHeaderCodec.sizeInWords call.header * 4 + 4 + _ = _
  omega

/-- A call's packet is decoded to its header and its requantized fields. -/
theorem result_decode_encoded
    {memory : ℕ → UInt8}
    {length : ℕ}
    (call : ContextCall D)
    (available : 4 * call.totalWords codec.byteOrder ≤ length)
    (holds : Holds memory 0 (call.encoded codec)) :
    (decode length codec.byteOrder).result memory =
      some {
        header := call.sentHeader codec.byteOrder
        fields := requantized call.fields } := by
  have populated := call.populated_sentHeader codec.byteOrder
  have size := call.toNat_packetSize_sentHeader codec.byteOrder
  have words := (length_blocksOf call.fields codec.byteOrder fieldBits).1
  have total : call.totalWords codec.byteOrder =
      PacketHeaderCodec.sizeInWords (call.sentHeader codec.byteOrder) + 1 +
        (blocksOf call.fields codec.byteOrder fieldBits).length / 4 := by
    rw [totalWords, encodeFieldData_eq]
    rfl
  have headerBytes :
      PacketHeaderCodec.sizeInBytes (call.sentHeader codec.byteOrder) =
        PacketHeaderCodec.sizeInWords (call.sentHeader codec.byteOrder) * 4 :=
    rfl
  rw [encoded_eq, holds_append, holds_append, List.length_append,
    length_writeWord, PacketHeaderCodec.length_serialize populated,
    encodeFieldData_eq] at holds
  simp only [Nat.zero_add] at holds
  obtain ⟨⟨headerHolds, cif0Holds⟩, fieldsHold⟩ := holds
  have parsed := PacketHeaderCodec.result_parse_of_holds populated (by omega)
    (show _ ≤ length by omega) headerHolds
  have walked :
      (decodeFields codec.byteOrder (encodeCif0 call.fields codec.byteOrder)
          ((call.sentHeader codec.byteOrder).packetSize.toNat * 4) loopBits
          (PacketHeaderCodec.sizeInBytes (call.sentHeader codec.byteOrder) + 4)
          { changeIndicator := call.fields.changeIndicator }).result memory =
        some (requantized call.fields) := by
    rw [loopBits_eq, result_decodeFields_blocks (by decide)
      (fun bit supported => testBit_encodeCif0 _ _
        ((show ∀ bit ∈ fieldBits, bit < 31 by decide) bit supported))
      (by omega) fieldsHold, foldl_mergeField]
    exact result_decodeFields_of_clear (by decide)
      (fun bit unsupported => testBit_encodeCif0_unsupported _ _ unsupported) _ _
  have accepted : ¬ length < 4 := by omega
  have isContext : (call.sentHeader codec.byteOrder).packetType.isContextPacket
      = true := rfl
  have room :
      ¬ PacketHeaderCodec.sizeInBytes (call.sentHeader codec.byteOrder) + 4 >
        (call.sentHeader codec.byteOrder).packetSize.toNat * 4 := by
    omega
  simp only [decode, result_bind, result_require, parsed, Option.bind_some,
    if_pos accepted, if_pos isContext, if_pos room,
    result_readWord_of_holds cif0Holds, encodeCif0_change, walked,
    result_assign, result_pure]

variable [FloatArithmetic F]

/-- One encoded context packet is recognised and takes all of its bytes. -/
theorem recognise_encoded (call : ContextCall D) (codec : Vita49Codec F) :
    codec.recognise (call.encoded codec) =
      some (call.sentPacket codec.byteOrder, (call.encoded codec).length) := by
  have bytes := holds_memoryOf (call.encoded codec) []
  rw [List.append_nil] at bytes
  refine recognise_of_decode_context
    (call.result_decode_encoded (call.length_encoded codec).ge bytes) ?_
  rw [length_encoded, toNat_packetSize_sentHeader]

/-- The stream loop finds the packet of a call and consumes all its bytes. -/
theorem frames_encoded (call : ContextCall D) (codec : Vita49Codec F) :
    codec.framer.frames (call.encoded codec) =
        [(call.sentPacket codec.byteOrder, (call.encoded codec).length)] ∧
      (codec.framer : Framer UInt8 (ParsedPacket F D)).consumed
        (call.encoded codec) = (call.encoded codec).length :=
  Framer.frames_single (call.recognise_encoded codec)

end ContextCall
end Vita49
end StarterCpp
