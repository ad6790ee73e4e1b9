import StarterCpp.Vita49.ByteSwap
import StarterCpp.Vita49.Types

/-!
# Parsing and serializing packet headers

`PacketHeaderCodec`: the mandatory first word and the optional stream id, class
id and timestamps.  The parser checks the packet against the available length
once, and from then on every part against the packet only.  A header that is
populated as its type and flags require is read back as it was written.
-/

namespace StarterCpp
namespace Vita49
namespace PacketHeaderCodec

open Scanner

/-- The fields of the first word. -/
def parseWord0 (word0 : UInt32) : PacketHeader where
  packetType := PacketType.ofCode ((word0 >>> 28) &&& 0xF)
  classIdPresent := ((word0 >>> 27) &&& 0x1) != 0
  trailerPresent :=
    (PacketType.ofCode ((word0 >>> 28) &&& 0xF)).isDataPacket &&
      ((word0 >>> 26) &&& 0x1) != 0
  tsiType := TSI.ofBits ((word0 >>> 22) &&& 0x3)
  tsfType := TSF.ofBits ((word0 >>> 20) &&& 0x3)
  packetCount := ((word0 >>> 16) &&& 0xF).toUInt8
  packetSize := (word0 &&& 0xFFFF).toUInt16

/-- The three values of the class id words. -/
structure ClassId where
  oui : UInt32
  informationClassCode : UInt16
  packetClassCode : UInt16

/-- The reads of the class id branch. -/
def readClassId (order : ByteOrder) (offset : ℕ) : ByteScanner ClassId := do
  let classWord1 ← readWord offset order
  let classWord2 ← readWord (offset + 4) order
  return {
    oui := classWord1 &&& 0x00FFFFFF
    informationClassCode := ((classWord2 >>> 16) &&& 0xFFFF).toUInt16
    packetClassCode := (classWord2 &&& 0xFFFF).toUInt16 }

/-- One optional part of the header: check that it lies in the packet, read it,
and advance. -/
def parsePart {α : Type}
    (present : Bool)
    (size packetBytes offset : ℕ)
    (read : ℕ → ByteScanner α) : ByteScanner (Option α × ℕ) :=
  if present then do
    require (¬ offset + size > packetBytes)
    let value ← read offset
    return (some value, offset + size)
  else
    return (none, offset)

/-- The optional parts, in the order of the packet. -/
def parseParts
    (header : PacketHeader)
    (order : ByteOrder) : ByteScanner (PacketHeader × ℕ) := do
  let packetBytes := header.packetSize.toNat * 4
  let (streamId, offset) ←
    parsePart header.packetType.hasStreamId 4 packetBytes 4
      fun offset => readWord offset order
  let (classId, offset) ←
    parsePart header.classIdPresent 8 packetBytes offset (readClassId order)
  let (integerTimestamp, offset) ←
    parsePart (header.tsiType != .none) 4 packetBytes offset
      fun offset => readWord offset order
  let (fractionalTimestamp, offset) ←
    parsePart (header.tsfType != .none) 8 packetBytes offset
      fun offset => readDWord offset order
  return ({ header with
    streamId := streamId
    classIdOUI := classId.map ClassId.oui
    informationClassCode := classId.map ClassId.informationClassCode
    packetClassCode := classId.map ClassId.packetClassCode
    integerTimestamp := integerTimestamp
    fractionalTimestamp := fractionalTimestamp }, offset)

/-- `PacketHeaderCodec::parse` into a fresh header: the header and
`headerBytes`. -/
def parse
    (length : ℕ)
    (order : ByteOrder) : ByteScanner (PacketHeader × ℕ) := do
  require (¬ length < 4)
  let word0 ← readWord 0 order
  let header := parseWord0 word0
  require (¬ (header.packetSize = 0 ∨
    header.packetSize.toNat > MAX_PACKET_SIZE_WORDS))
  require (¬ length < header.packetSize.toNat * 4)
  parseParts header order

/-- The first word of a header. -/
def serializeWord0 (header : PacketHeader) : UInt32 :=
  let word0 := (header.packetType.toCode &&& 0xF) <<< 28
  let word0 := word0 |||
    ((if header.classIdPresent then (1 : UInt32) else 0) <<< 27)
  let word0 :=
    if header.packetType.isDataPacket then
      word0 ||| ((if header.trailerPresent then (1 : UInt32) else 0) <<< 26)
    else word0
  let word0 := word0 ||| ((header.tsiType.toBits &&& 0x3) <<< 22)
  let word0 := word0 ||| ((header.tsfType.toBits &&& 0x3) <<< 20)
  let word0 := word0 ||| ((header.packetCount.toUInt32 &&& 0xF) <<< 16)
  word0 ||| (header.packetSize.toUInt32 &&& 0xFFFF)

/-- The bytes of one optional part, which needs its flag and its value. -/
def serializePart {α : Type}
    (present : Bool)
    (value : Option α)
    (write : α → List UInt8) : List UInt8 :=
  if present then value.elim [] write else []

/-- The class id words; the OUI decides whether they are written. -/
def serializeClassId
    (header : PacketHeader)
    (order : ByteOrder)
    (oui : UInt32) : List UInt8 :=
  let classWord1 := oui &&& 0x00FFFFFF
  let classWord2 : UInt32 :=
    header.informationClassCode.elim (0 : UInt32)
        (fun code => code.toUInt32 <<< 16) |||
      header.packetClassCode.elim (0 : UInt32) UInt16.toUInt32
  writeWord classWord1 order ++ writeWord classWord2 order

/-- `PacketHeaderCodec::serialize`: the bytes appended to the output. -/
def serialize (header : PacketHeader) (order : ByteOrder) : List UInt8 :=
  writeWord (serializeWord0 header) order ++
    serializePart header.packetType.hasStreamId header.streamId
      (writeWord · order) ++
    serializePart header.classIdPresent header.classIdOUI
      (serializeClassId header order) ++
    serializePart (header.tsiType != .none) header.integerTimestamp
      (writeWord · order) ++
    serializePart (header.tsfType != .none) header.fractionalTimestamp
      (writeDWord · order)

/-- The size of a header in 32-bit words. -/
def sizeInWords (header : PacketHeader) : ℕ :=
  1 + (if header.packetType.hasStreamId then 1 else 0) +
    (if header.classIdPresent then 2 else 0) +
    (if header.tsiType != .none then 1 else 0) +
    (if header.tsfType != .none then 2 else 0)

/-- The size of a header in bytes. -/
def sizeInBytes (header : PacketHeader) : ℕ :=
  sizeInWords header * 4

/-- The header that both encoders fill in, before its size is set. -/
def buildHeader
    (packetType : PacketType)
    (includeTrailer : Bool)
    (streamId : UInt32)
    (packetCount : UInt8)
    (tsiType : TSI)
    (tsfType : TSF)
    (intTimestamp : UInt32)
    (fracTimestamp : UInt64) : PacketHeader where
  packetType := packetType
  classIdPresent := false
  trailerPresent := includeTrailer
  tsiType := tsiType
  tsfType := tsfType
  packetCount := packetCount &&& 0xF
  streamId := some streamId
  integerTimestamp := if tsiType != .none then some intTimestamp else none
  fractionalTimestamp := if tsfType != .none then some fracTimestamp else none

section Word0

private theorem join_fields
    {code classId trailer tsi tsf count size : ℕ}
    (classIdSmall : classId ≤ 1)
    (trailerSmall : trailer ≤ 1)
    (tsiSmall : tsi < 4)
    (tsfSmall : tsf < 4)
    (countSmall : count < 16)
    (sizeSmall : size < 2 ^ 16) :
    code * 2 ^ 28 ||| classId * 2 ^ 27 ||| trailer * 2 ^ 26 |||
        tsi * 2 ^ 22 ||| tsf * 2 ^ 20 ||| count * 2 ^ 16 ||| size =
      code * 2 ^ 28 + classId * 2 ^ 27 + trailer * 2 ^ 26 + tsi * 2 ^ 22 +
        tsf * 2 ^ 20 + count * 2 ^ 16 + size := by
  have join1 :
      code * 2 ^ 28 ||| classId * 2 ^ 27 = code * 2 ^ 28 + classId * 2 ^ 27 :=
    BitFields.or_eq_add 28 (by omega) (by omega)
  have join2 :
      code * 2 ^ 28 + classId * 2 ^ 27 ||| trailer * 2 ^ 26 =
        code * 2 ^ 28 + classId * 2 ^ 27 + trailer * 2 ^ 26 :=
    BitFields.or_eq_add 27 (by omega) (by omega)
  have join3 :
      code * 2 ^ 28 + classId * 2 ^ 27 + trailer * 2 ^ 26 ||| tsi * 2 ^ 22 =
        code * 2 ^ 28 + classId * 2 ^ 27 + trailer * 2 ^ 26 + tsi * 2 ^ 22 :=
    BitFields.or_eq_add 26 (by omega) (by omega)
  have join4 :
      code * 2 ^ 28 + classId * 2 ^ 27 + trailer * 2 ^ 26 + tsi * 2 ^ 22 |||
          tsf * 2 ^ 20 =
        code * 2 ^ 28 + classId * 2 ^ 27 + trailer * 2 ^ 26 + tsi * 2 ^ 22 +
          tsf * 2 ^ 20 :=
    BitFields.or_eq_add 22 (by omega) (by omega)
  have join5 :
      code * 2 ^ 28 + classId * 2 ^ 27 + trailer * 2 ^ 26 + tsi * 2 ^ 22 +
          tsf * 2 ^ 20 ||| count * 2 ^ 16 =
        code * 2 ^ 28 + classId * 2 ^ 27 + trailer * 2 ^ 26 + tsi * 2 ^ 22 +
          tsf * 2 ^ 20 + count * 2 ^ 16 :=
    BitFields.or_eq_add 20 (by omega) (by omega)
  rw [join1, join2, join3, join4, join5,
    BitFields.or_eq_add 16 (by omega) sizeSmall]

/-- The first word is the sum of its shifted fields. -/
theorem toNat_serializeWord0 (header : PacketHeader) :
    (serializeWord0 header).toNat =
      header.packetType.toCode.toNat * 2 ^ 28 +
        header.classIdPresent.toNat * 2 ^ 27 +
        (header.packetType.isDataPacket && header.trailerPresent).toNat *
          2 ^ 26 +
        header.tsiType.toBits.toNat * 2 ^ 22 +
        header.tsfType.toBits.toNat * 2 ^ 20 +
        header.packetCount.toNat % 16 * 2 ^ 16 +
        header.packetSize.toNat := by
  have codeSmall := header.packetType.toCode_lt
  have tsiSmall := header.tsiType.toBits_lt
  have tsfSmall := header.tsfType.toBits_lt
  have sizeSmall := header.packetSize.toNat_lt
  have mask4 := BitFields.and_mask 4
  have mask2 := BitFields.and_mask 2
  have mask16 := BitFields.and_mask 16
  norm_num at mask4 mask2 mask16
  have flag (present : Bool) (shift : UInt32) (inside : shift.toNat < 32) :
      ((if present then (1 : UInt32) else 0) <<< shift).toNat =
        present.toNat * 2 ^ shift.toNat := by
    cases present with
    | false => simp
    | true =>
        have small : 2 ^ shift.toNat < 4294967296 :=
          Nat.pow_lt_pow_right (by norm_num) inside
        simp [UInt32.toNat_shiftLeft, Nat.shiftLeft_eq,
          Nat.mod_eq_of_lt inside, small]
  -- The trailer bit is only ever set for data packets.
  have dataFlag (word : UInt32) :
      (if header.packetType.isDataPacket then
          word ||| ((if header.trailerPresent then (1 : UInt32) else 0) <<< 26)
        else word) =
        word |||
          ((if header.packetType.isDataPacket && header.trailerPresent then
            (1 : UInt32) else 0) <<< 26) := by
    cases header.packetType.isDataPacket <;> simp
  simp only [serializeWord0, dataFlag, UInt32.toNat_or, flag _ 27 (by decide),
    flag _ 26 (by decide), UInt32.toNat_shiftLeft, UInt32.toNat_and,
    UInt32.reduceToNat, UInt8.toNat_toUInt32, UInt16.toNat_toUInt32,
    Nat.shiftLeft_eq, Nat.reduceMod, mask4, mask2, mask16]
  rw [Nat.mod_eq_of_lt codeSmall, Nat.mod_eq_of_lt tsiSmall,
    Nat.mod_eq_of_lt tsfSmall, Nat.mod_eq_of_lt sizeSmall,
    Nat.mod_eq_of_lt (by omega), Nat.mod_eq_of_lt (by omega),
    Nat.mod_eq_of_lt (by omega), Nat.mod_eq_of_lt (by omega)]
  exact join_fields (Bool.toNat_le _) (Bool.toNat_le _) tsiSmall tsfSmall
    (Nat.mod_lt _ (by norm_num)) sizeSmall

/-- A masked field of a word is a quotient and a remainder. -/
theorem toNat_field
    {shift mask : UInt32}
    (word : UInt32)
    (low width : ℕ)
    (shiftLow : shift.toNat = low)
    (maskWidth : mask.toNat = 2 ^ width - 1)
    (inside : low < 32) :
    ((word >>> shift) &&& mask).toNat = word.toNat / 2 ^ low % 2 ^ width := by
  rw [UInt32.toNat_and, UInt32.toNat_shiftRight, maskWidth, shiftLow,
    BitFields.and_mask, Nat.mod_eq_of_lt inside, Nat.shiftRight_eq_div_pow]

/-- The packet size is the low half of the first word. -/
theorem toNat_low16 (word : UInt32) :
    (word &&& 0xFFFF).toUInt16.toNat = word.toNat % 2 ^ 16 := by
  have mask : word.toNat &&& UInt32.toNat 0xFFFF = word.toNat % 2 ^ 16 :=
    BitFields.and_mask 16 word.toNat
  rw [UInt32.toNat_toUInt16, UInt32.toNat_and, mask, Nat.mod_mod]

/-- The first word determines the fields it was built from. -/
theorem parseWord0_serializeWord0
    {header : PacketHeader}
    (trailerData : header.trailerPresent = true →
      header.packetType.isDataPacket = true)
    (countSmall : header.packetCount.toNat < 16) :
    parseWord0 (serializeWord0 header) =
      { header with
        streamId := none
        classIdOUI := none
        informationClassCode := none
        packetClassCode := none
        integerTimestamp := none
        fractionalTimestamp := none } := by
  have total := toNat_serializeWord0 header
  have codeSmall := header.packetType.toCode_lt
  have tsiSmall := header.tsiType.toBits_lt
  have tsfSmall := header.tsfType.toBits_lt
  have sizeSmall := header.packetSize.toNat_lt
  have classIdSmall := header.classIdPresent.toNat_le
  have trailerSmall :=
    (header.packetType.isDataPacket && header.trailerPresent).toNat_le
  generalize serializeWord0 header = word at total ⊢
  have typeField : (word >>> 28) &&& 0xF = header.packetType.toCode := by
    rw [← UInt32.toNat_inj, toNat_field word 28 4 rfl rfl (by decide)]
    omega
  have classIdField :
      ((word >>> 27) &&& 0x1).toNat = header.classIdPresent.toNat := by
    rw [toNat_field word 27 1 rfl rfl (by decide)]
    omega
  have trailerField :
      ((word >>> 26) &&& 0x1).toNat =
        (header.packetType.isDataPacket && header.trailerPresent).toNat := by
    rw [toNat_field word 26 1 rfl rfl (by decide)]
    omega
  have tsiField : (word >>> 22) &&& 0x3 = header.tsiType.toBits := by
    rw [← UInt32.toNat_inj, toNat_field word 22 2 rfl rfl (by decide)]
    omega
  have tsfField : (word >>> 20) &&& 0x3 = header.tsfType.toBits := by
    rw [← UInt32.toNat_inj, toNat_field word 20 2 rfl rfl (by decide)]
    omega
  have countField : ((word >>> 16) &&& 0xF).toUInt8 = header.packetCount := by
    rw [← UInt8.toNat_inj, UInt32.toNat_toUInt8,
      toNat_field word 16 4 rfl rfl (by decide)]
    omega
  have sizeField : (word &&& 0xFFFF).toUInt16 = header.packetSize := by
    rw [← UInt16.toNat_inj, toNat_low16]
    omega
  have nonzero (bit : UInt32) (flag : Bool) (same : bit.toNat = flag.toNat) :
      (bit != 0) = flag := by
    cases flag with
    | false =>
        have zero : bit = 0 := UInt32.toNat_inj.mp same
        simp [zero]
    | true =>
        have one : bit = 1 := UInt32.toNat_inj.mp same
        simp [one]
  have trailerFlag :
      (header.packetType.isDataPacket &&
        (header.packetType.isDataPacket && header.trailerPresent)) =
        header.trailerPresent := by
    cases present : header.trailerPresent with
    | false => simp
    | true => simp [trailerData present]
  rw [parseWord0, nonzero _ _ classIdField, nonzero _ _ trailerField,
    typeField, tsiField, tsfField, countField, sizeField,
    PacketType.ofCode_toCode, TSI.ofBits_toBits, TSF.ofBits_toBits, trailerFlag]

end Word0

section RoundTrip

/-- The optional fields of a header are those its type and flags require. -/
structure Populated (header : PacketHeader) : Prop where
  streamId : header.streamId.isSome = header.packetType.hasStreamId
  classIdOUI : header.classIdOUI.isSome = header.classIdPresent
  informationClassCode :
    header.informationClassCode.isSome = header.classIdPresent
  packetClassCode : header.packetClassCode.isSome = header.classIdPresent
  ouiSmall : ∀ oui, header.classIdOUI = some oui → oui.toNat < 2 ^ 24
  integerTimestamp :
    header.integerTimestamp.isSome = (header.tsiType != .none)
  fractionalTimestamp :
    header.fractionalTimestamp.isSome = (header.tsfType != .none)
  trailerData :
    header.trailerPresent = true → header.packetType.isDataPacket = true
  countSmall : header.packetCount.toNat < 16

variable {α : Type} {memory : ℕ → UInt8} {header : PacketHeader}

/-- The bytes an optional part takes. -/
def partSize (present : Bool) (size : ℕ) : ℕ :=
  if present then size else 0

/-- A populated part takes its size exactly when it is present. -/
theorem length_serializePart
    {present : Bool}
    {value : Option α}
    {size : ℕ}
    {write : α → List UInt8}
    (populated : value.isSome = present)
    (width : ∀ content, (write content).length = size) :
    (serializePart present value write).length = partSize present size := by
  subst populated
  cases value with
  | none => rfl
  | some content => exact width content

/-- A populated part is read back. -/
theorem result_parsePart
    {present : Bool}
    {value : Option α}
    {size packetBytes offset : ℕ}
    {read : ℕ → ByteScanner α}
    {write : α → List UInt8}
    (populated : value.isSome = present)
    (fits : offset + partSize present size ≤ packetBytes)
    (holds : Holds memory offset (serializePart present value write))
    (readBack : ∀ content, value = some content →
      Holds memory offset (write content) →
        (read offset).result memory = some content) :
    (parsePart present size packetBytes offset read).result memory =
      some (value, offset + partSize present size) := by
  subst populated
  cases value with
  | none => rfl
  | some content =>
      have returned := readBack content rfl holds
      have inside : offset + size ≤ packetBytes := fits
      simp [parsePart, partSize, returned, inside]

/-- The words of a class id. -/
def writeClassId (order : ByteOrder) (classId : ClassId) : List UInt8 :=
  writeWord (classId.oui &&& 0x00FFFFFF) order ++
    writeWord ((classId.informationClassCode.toUInt32 <<< 16) |||
      classId.packetClassCode.toUInt32) order

theorem length_writeClassId (order : ByteOrder) (classId : ClassId) :
    (writeClassId order classId).length = 8 := by
  simp [writeClassId]

/-- A class id whose OUI has 24 bits is read back. -/
theorem result_readClassId
    {order : ByteOrder}
    {offset : ℕ}
    {classId : ClassId}
    (ouiSmall : classId.oui.toNat < 2 ^ 24)
    (holds : Holds memory offset (writeClassId order classId)) :
    (readClassId order offset).result memory = some classId := by
  obtain ⟨oui, information, packetClass⟩ := classId
  have informationSmall := information.toNat_lt
  have packetClassSmall := packetClass.toNat_lt
  simp only at ouiSmall
  rw [writeClassId, holds_append, length_writeWord] at holds
  have ouiBack : (oui &&& 0x00FFFFFF) &&& 0x00FFFFFF = oui := by
    have mask (number : ℕ) :
        number &&& UInt32.toNat 0x00FFFFFF = number % 2 ^ 24 :=
      BitFields.and_mask 24 number
    rw [← UInt32.toNat_inj, UInt32.toNat_and, UInt32.toNat_and, mask, mask]
    omega
  have join :
      ((information.toUInt32 <<< 16) ||| packetClass.toUInt32).toNat =
        information.toNat * 2 ^ 16 + packetClass.toNat := by
    simp only [UInt32.toNat_or, UInt32.toNat_shiftLeft, UInt16.toNat_toUInt32,
      UInt32.reduceToNat, Nat.reduceMod, Nat.shiftLeft_eq]
    rw [Nat.mod_eq_of_lt (by omega),
      BitFields.or_eq_add 16 (Nat.dvd_mul_left _ _) (by omega)]
  have informationBack :
      (((((information.toUInt32 <<< 16) ||| packetClass.toUInt32) >>> 16) &&&
        0xFFFF).toUInt16) = information := by
    rw [← UInt16.toNat_inj, UInt32.toNat_toUInt16,
      toNat_field _ 16 16 rfl rfl (by decide), join]
    omega
  have packetClassBack :
      (((information.toUInt32 <<< 16) ||| packetClass.toUInt32) &&&
        0xFFFF).toUInt16 = packetClass := by
    rw [← UInt16.toNat_inj, toNat_low16, join]
    omega
  simp only [readClassId, result_bind, result_pure,
    result_readWord_of_holds holds.1, result_readWord_of_holds holds.2,
    Option.bind_some, ouiBack, informationBack, packetClassBack]

theorem sizeInBytes_eq (header : PacketHeader) :
    sizeInBytes header =
      4 + partSize header.packetType.hasStreamId 4 +
        partSize header.classIdPresent 8 +
        partSize (header.tsiType != .none) 4 +
        partSize (header.tsfType != .none) 8 := by
  simp only [sizeInBytes, sizeInWords, partSize]
  split_ifs <;> rfl

/-- The class id of a populated header. -/
theorem Populated.exists_classId (populated : Populated header) :
    ∃ classId : Option ClassId,
      classId.isSome = header.classIdPresent ∧
        classId.map ClassId.oui = header.classIdOUI ∧
        classId.map ClassId.informationClassCode =
          header.informationClassCode ∧
        classId.map ClassId.packetClassCode = header.packetClassCode := by
  have hasOui := populated.classIdOUI
  have hasInformation := populated.informationClassCode
  have hasPacketClass := populated.packetClassCode
  cases present : header.classIdPresent with
  | false =>
      rw [present, Option.isSome_eq_false_iff, Option.isNone_iff_eq_none]
        at hasOui hasInformation hasPacketClass
      exact ⟨none, rfl, hasOui.symm, hasInformation.symm, hasPacketClass.symm⟩
  | true =>
      rw [present, Option.isSome_iff_exists]
        at hasOui hasInformation hasPacketClass
      obtain ⟨oui, ouiValue⟩ := hasOui
      obtain ⟨information, informationValue⟩ := hasInformation
      obtain ⟨packetClass, packetClassValue⟩ := hasPacketClass
      exact ⟨some ⟨oui, information, packetClass⟩, rfl, ouiValue.symm,
        informationValue.symm, packetClassValue.symm⟩

/-- The class id part of a populated header. -/
theorem serializePart_classId
    {classId : Option ClassId}
    (order : ByteOrder)
    (sameOui : classId.map ClassId.oui = header.classIdOUI)
    (sameInformation :
      classId.map ClassId.informationClassCode = header.informationClassCode)
    (samePacketClass :
      classId.map ClassId.packetClassCode = header.packetClassCode) :
    serializePart header.classIdPresent header.classIdOUI
        (serializeClassId header order) =
      serializePart header.classIdPresent classId (writeClassId order) := by
  rw [← sameOui]
  cases classId with
  | none => rfl
  | some content =>
      simp [serializePart, serializeClassId, writeClassId, ← sameInformation,
        ← samePacketClass]

/-- A populated header takes its size. -/
theorem length_serialize
    (populated : Populated header)
    (order : ByteOrder) :
    (serialize header order).length = sizeInBytes header := by
  obtain ⟨classId, hasClassId, sameOui, sameInformation, samePacketClass⟩ :=
    populated.exists_classId
  rw [serialize, serializePart_classId order sameOui sameInformation
    samePacketClass]
  simp only [List.length_append, length_writeWord,
    length_serializePart populated.streamId fun _ => length_writeWord _ order,
    length_serializePart hasClassId fun _ => length_writeClassId order _,
    length_serializePart populated.integerTimestamp
      fun _ => length_writeWord _ order,
    length_serializePart populated.fractionalTimestamp
      fun _ => length_writeDWord _ order,
    sizeInBytes_eq]

/-- A serialized header is parsed back, whatever follows it, when the packet it
announces is available. -/
theorem result_parse_of_holds
    {order : ByteOrder}
    {length : ℕ}
    (populated : Populated header)
    (fits : sizeInWords header ≤ header.packetSize.toNat)
    (available : header.packetSize.toNat * 4 ≤ length)
    (holds : Holds memory 0 (serialize header order)) :
    (parse length order).result memory =
      some (header, sizeInBytes header) := by
  obtain ⟨classId, hasClassId, sameOui, sameInformation, samePacketClass⟩ :=
    populated.exists_classId
  have streamIdLength := length_serializePart populated.streamId
    fun content => length_writeWord content order
  have classIdLength := length_serializePart hasClassId
    fun content => length_writeClassId order content
  have integerLength := length_serializePart populated.integerTimestamp
    fun content => length_writeWord content order
  rw [serialize, serializePart_classId order sameOui sameInformation
    samePacketClass] at holds
  simp only [holds_append, List.length_append, length_writeWord, streamIdLength,
    classIdLength, integerLength, Nat.zero_add] at holds
  obtain ⟨⟨⟨⟨word0Holds, streamIdHolds⟩, classIdHolds⟩, integerHolds⟩,
    fractionalHolds⟩ := holds
  have totalFits : sizeInBytes header ≤ header.packetSize.toNat * 4 :=
    Nat.mul_le_mul_right 4 fits
  have sizePositive : 1 ≤ header.packetSize.toNat := by
    have atLeastOne : 1 ≤ sizeInWords header := by
      rw [sizeInWords]
      omega
    exact atLeastOne.trans fits
  have sizeSmall := header.packetSize.toNat_lt
  rw [sizeInBytes_eq] at totalFits ⊢
  have streamIdBack :
      (parsePart header.packetType.hasStreamId 4 (header.packetSize.toNat * 4)
        4 fun offset => readWord offset order).result memory = _ :=
    result_parsePart populated.streamId (by omega) streamIdHolds
      fun _ _ => result_readWord_of_holds
  have classIdBack :
      (parsePart header.classIdPresent 8 (header.packetSize.toNat * 4)
        (4 + partSize header.packetType.hasStreamId 4)
        (readClassId order)).result memory = _ :=
    result_parsePart hasClassId (by omega) classIdHolds
      fun content isContent => result_readClassId
        (populated.ouiSmall content.oui (by rw [← sameOui, isContent]; rfl))
  have integerBack :
      (parsePart (header.tsiType != .none) 4 (header.packetSize.toNat * 4)
        (4 + partSize header.packetType.hasStreamId 4 +
          partSize header.classIdPresent 8)
        fun offset => readWord offset order).result memory = _ :=
    result_parsePart populated.integerTimestamp (by omega) integerHolds
      fun _ _ => result_readWord_of_holds
  have fractionalBack :
      (parsePart (header.tsfType != .none) 8 (header.packetSize.toNat * 4)
        (4 + partSize header.packetType.hasStreamId 4 +
          partSize header.classIdPresent 8 +
          partSize (header.tsiType != .none) 4)
        fun offset => readDWord offset order).result memory = _ :=
    result_parsePart populated.fractionalTimestamp totalFits fractionalHolds
      fun _ _ => result_readDWord_of_holds
  have accepted : ¬ (header.packetSize = 0 ∨
      header.packetSize.toNat > MAX_PACKET_SIZE_WORDS) := by
    rintro (zero | large)
    · rw [zero] at sizePositive
      contradiction
    · rw [MAX_PACKET_SIZE_WORDS] at large
      omega
  simp only [parse, result_bind, result_require,
    result_readWord_of_holds word0Holds, Option.bind_some,
    parseWord0_serializeWord0 populated.trailerData populated.countSmall,
    parseParts, streamIdBack, classIdBack, integerBack, fractionalBack,
    result_pure, sameOui, sameInformation, samePacketClass,
    if_pos (show ¬ length < 4 by omega), if_pos accepted,
    if_pos (not_lt.mpr available)]

/-- The header an encoder builds is populated. -/
theorem populated_buildHeader
    {packetType : PacketType}
    {includeTrailer : Bool}
    (hasStreamId : packetType.hasStreamId = true)
    (trailerData : includeTrailer = true → packetType.isDataPacket = true)
    (streamId : UInt32)
    (packetCount : UInt8)
    (tsiType : TSI)
    (tsfType : TSF)
    (intTimestamp : UInt32)
    (fracTimestamp : UInt64)
    (packetSize : UInt16) :
    Populated { buildHeader packetType includeTrailer streamId packetCount
      tsiType tsfType intTimestamp fracTimestamp with
        packetSize := packetSize } where
  streamId := hasStreamId.symm
  classIdOUI := rfl
  informationClassCode := rfl
  packetClassCode := rfl
  ouiSmall := by
    intro oui present
    contradiction
  integerTimestamp := by
    cases tsiType <;> rfl
  fractionalTimestamp := by
    cases tsfType <;> rfl
  trailerData := trailerData
  countSmall := by
    have masked : (packetCount &&& 0xF).toNat = packetCount.toNat % 2 ^ 4 :=
      BitFields.and_mask 4 packetCount.toNat
    change (packetCount &&& 0xF).toNat < 16
    omega

end RoundTrip

end PacketHeaderCodec
end Vita49
end StarterCpp
