import StarterCpp.Vita49.PacketBounds

/-!
# Parsing and serializing headers undo each other

A populated header is read back from its bytes, and a header that was read is
written back as the words it was read from.  The writer only clears what the
parser ignores: two reserved bits, the trailer bit of packets without data, and
the top of the word that holds the OUI.
-/

namespace StarterCpp
namespace Vita49

open Scanner

/-- The word of a memory with a given index. -/
def wordAt (memory : ℕ → UInt8) (order : ByteOrder) (index : ℕ) : UInt32 :=
  UInt32.ofNat (order.value (window memory (4 * index) 4))

/-- The double word of a memory that starts at the word with a given index. -/
def dwordAt (memory : ℕ → UInt8) (order : ByteOrder) (index : ℕ) : UInt64 :=
  UInt64.ofNat (order.value (window memory (4 * index) 8))

variable {memory : ℕ → UInt8} {order : ByteOrder} {length : ℕ}

theorem word0At_eq : word0At memory order = wordAt memory order 0 := rfl

theorem result_readWord_index (index : ℕ) :
    (readWord (4 * index) order).result memory =
      some (wordAt memory order index) :=
  result_readWord _ _

theorem result_readDWord_index (index : ℕ) :
    (readDWord (4 * index) order).result memory =
      some (dwordAt memory order index) :=
  result_readDWord _ _

/-- A word is written as the bytes it was read from. -/
theorem writeWord_wordAt (index : ℕ) :
    writeWord (wordAt memory order index) order =
      window memory (4 * index) 4 := by
  have small := order.value_lt (window memory (4 * index) 4)
  have restored := order.toBytes_value (window memory (4 * index) 4)
  rw [length_window] at small restored
  rw [writeWord_eq, wordAt, UInt32.toNat_ofNat_of_lt' small, restored]

/-- The bytes of a double word are those of its two words. -/
theorem window_dword (index : ℕ) :
    window memory (4 * index) 8 =
      writeWord (wordAt memory order index) order ++
        writeWord (wordAt memory order (index + 1)) order := by
  rw [writeWord_wordAt, writeWord_wordAt]
  exact window_add memory (4 * index) 4 4

/-- A double word is written as the two words it was read from. -/
theorem writeDWord_dwordAt (index : ℕ) :
    writeDWord (dwordAt memory order index) order =
      writeWord (wordAt memory order index) order ++
        writeWord (wordAt memory order (index + 1)) order := by
  have small := order.value_lt (window memory (4 * index) 8)
  have restored := order.toBytes_value (window memory (4 * index) 8)
  rw [length_window] at small restored
  rw [writeDWord_eq, dwordAt, UInt64.toNat_ofNat_of_lt' small, restored,
    window_dword]

/-- Equal words make an equal double word. -/
theorem dwordAt_congr
    {other : ℕ → UInt8}
    {index : ℕ}
    (low : wordAt memory order index = wordAt other order index)
    (high : wordAt memory order (index + 1) = wordAt other order (index + 1)) :
    dwordAt memory order index = dwordAt other order index := by
  rw [dwordAt, dwordAt, window_dword, window_dword, low, high]

namespace PacketHeaderCodec

variable {α : Type} {header : PacketHeader} {headerBytes : ℕ}

section Parsed

/-- A part that was parsed was read if it is present, and has its size. -/
theorem of_result_parsePart
    {present : Bool}
    {size packetBytes offset next : ℕ}
    {read : ℕ → ByteScanner α}
    {found : Option α}
    (parsed : (parsePart present size packetBytes offset read).result memory =
      some (found, next)) :
    found = (if present then (read offset).result memory else none) ∧
      next = offset + partSize present size := by
  cases present with
  | false =>
      simp only [parsePart, Bool.false_eq_true, if_false, result_pure,
        Option.some.injEq, Prod.mk.injEq] at parsed
      exact ⟨parsed.1.symm, parsed.2.symm⟩
  | true =>
      simp only [parsePart, if_true, result_bind, result_require] at parsed
      split_ifs at parsed with outside
      · simp at parsed
      · cases returned : (read offset).result memory with
        | none => simp [returned] at parsed
        | some value =>
            simp only [returned, Option.bind_some, result_pure,
              Option.some.injEq, Prod.mk.injEq] at parsed
            exact ⟨parsed.1.symm, parsed.2.symm⟩

/-- The class id that starts at a word. -/
def classIdAt (memory : ℕ → UInt8) (order : ByteOrder) (index : ℕ) : ClassId where
  oui := wordAt memory order index &&& 0x00FFFFFF
  informationClassCode :=
    ((wordAt memory order (index + 1) >>> 16) &&& 0xFFFF).toUInt16
  packetClassCode := (wordAt memory order (index + 1) &&& 0xFFFF).toUInt16

theorem result_readClassId_index (index : ℕ) :
    (readClassId order (4 * index)).result memory =
      some (classIdAt memory order index) := by
  have second : (readWord (4 * index + 4) order).result memory = _ :=
    result_readWord_index (index + 1)
  simp only [readClassId, result_bind, result_readWord_index, second,
    Option.bind_some, result_pure]
  rfl

/-- The index of the first class id word. -/
def classIdIndex (header : PacketHeader) : ℕ :=
  1 + partSize header.packetType.hasStreamId 1

/-- The index of the integer timestamp. -/
def integerIndex (header : PacketHeader) : ℕ :=
  classIdIndex header + partSize header.classIdPresent 2

/-- The index of the fractional timestamp. -/
def fractionalIndex (header : PacketHeader) : ℕ :=
  integerIndex header + partSize (header.tsiType != .none) 1

theorem sizeInWords_eq (header : PacketHeader) :
    sizeInWords header =
      fractionalIndex header + partSize (header.tsfType != .none) 2 :=
  rfl

/-- A header that was read off a memory. -/
structure ReadFrom
    (memory : ℕ → UInt8)
    (order : ByteOrder)
    (header : PacketHeader) : Prop where
  word0 : parseWord0 (word0At memory order) =
    { header with
      streamId := none
      classIdOUI := none
      informationClassCode := none
      packetClassCode := none
      integerTimestamp := none
      fractionalTimestamp := none }
  streamId : header.streamId =
    if header.packetType.hasStreamId then some (wordAt memory order 1) else none
  classIdOUI : header.classIdOUI =
    if header.classIdPresent then
      some (classIdAt memory order (classIdIndex header)).oui
    else none
  informationClassCode : header.informationClassCode =
    if header.classIdPresent then
      some (classIdAt memory order (classIdIndex header)).informationClassCode
    else none
  packetClassCode : header.packetClassCode =
    if header.classIdPresent then
      some (classIdAt memory order (classIdIndex header)).packetClassCode
    else none
  integerTimestamp : header.integerTimestamp =
    if header.tsiType != .none then
      some (wordAt memory order (integerIndex header))
    else none
  fractionalTimestamp : header.fractionalTimestamp =
    if header.tsfType != .none then
      some (dwordAt memory order (fractionalIndex header))
    else none

theorem four_mul_partSize (present : Bool) (words : ℕ) :
    4 * partSize present words = partSize present (4 * words) := by
  cases present <;> rfl

/-- The parts of a header were read one behind the other. -/
theorem readFrom_of_parseParts
    {fields : PacketHeader}
    (isWord0 : parseWord0 (word0At memory order) = fields)
    (parsed : (parseParts fields order).result memory =
      some (header, headerBytes)) :
    ReadFrom memory order header ∧ headerBytes = sizeInBytes header := by
  simp only [parseParts, result_bind, Option.bind_eq_some_iff, Prod.exists,
    result_pure, Option.some.injEq, Prod.mk.injEq] at parsed
  obtain ⟨streamId, offset1, streamIdParsed, classId, offset2, classIdParsed,
    integerTimestamp, offset3, integerParsed, fractionalTimestamp, offset4,
    fractionalParsed, rfl, rfl⟩ := parsed
  obtain ⟨rfl, rfl⟩ := of_result_parsePart streamIdParsed
  obtain ⟨rfl, rfl⟩ := of_result_parsePart classIdParsed
  obtain ⟨rfl, rfl⟩ := of_result_parsePart integerParsed
  obtain ⟨rfl, rfl⟩ := of_result_parsePart fractionalParsed
  have atClassId : 4 + partSize fields.packetType.hasStreamId 4 =
      4 * classIdIndex fields := by
    rw [classIdIndex, Nat.mul_add, four_mul_partSize]
  have atInteger : 4 * classIdIndex fields + partSize fields.classIdPresent 8 =
      4 * integerIndex fields := by
    rw [integerIndex, Nat.mul_add, four_mul_partSize]
  have atFractional :
      4 * integerIndex fields + partSize (fields.tsiType != .none) 4 =
        4 * fractionalIndex fields := by
    rw [fractionalIndex, Nat.mul_add, four_mul_partSize]
  have atEnd :
      4 * fractionalIndex fields + partSize (fields.tsfType != .none) 8 =
        4 * sizeInWords fields := by
    rw [sizeInWords_eq, Nat.mul_add, four_mul_partSize]
  have first : (readWord 4 order).result memory = some (wordAt memory order 1) :=
    result_readWord_index 1
  rw [atClassId, atInteger, atFractional, atEnd, first, result_readClassId_index,
    result_readWord_index, result_readDWord_index]
  simp only [Option.map_if]
  subst isWord0
  refine ⟨⟨rfl, rfl, rfl, rfl, rfl, rfl, rfl⟩, Nat.mul_comm 4 _⟩

/-- A header that is accepted was read off the buffer, and takes its size. -/
theorem readFrom_of_parse
    (accepted : (parse length order).result memory =
      some (header, headerBytes)) :
    ReadFrom memory order header ∧ headerBytes = sizeInBytes header := by
  simp only [parse, result_bind, Option.bind_eq_some_iff] at accepted
  obtain ⟨_, _, word0, isWord0, _, _, _, _, parsed⟩ := accepted
  rw [result_readWord0, Option.some.injEq] at isWord0
  rw [← isWord0] at parsed
  exact readFrom_of_parseParts rfl parsed

end Parsed

section Written

/-- The bits of a header's word that the writer keeps. -/
def keptBits (header : PacketHeader) (index : ℕ) : UInt32 :=
  if index = 0 then
    if header.packetType.isDataPacket then 0xFCFFFFFF else 0xF8FFFFFF
  else if header.classIdPresent ∧ index = classIdIndex header then 0x00FFFFFF
  else 0xFFFFFFFF

/-- Words of a memory, with the bits that the writer keeps. -/
def keptWords
    (memory : ℕ → UInt8)
    (order : ByteOrder)
    (header : PacketHeader)
    (start count : ℕ) : List UInt8 :=
  (List.range' start count).flatMap fun index =>
    writeWord (wordAt memory order index &&& keptBits header index) order

theorem keptWords_add (start first second : ℕ) :
    keptWords memory order header start (first + second) =
      keptWords memory order header start first ++
        keptWords memory order header (start + first) second := by
  rw [keptWords, ← List.range'_append_1, List.flatMap_append]
  rfl

/-- A word of which every bit is kept. -/
theorem keptWords_one
    {index : ℕ}
    (afterFirst : index ≠ 0)
    (notClassId : header.classIdPresent = true → index ≠ classIdIndex header) :
    keptWords memory order header index 1 =
      writeWord (wordAt memory order index) order := by
  have all : keptBits header index = 0xFFFFFFFF := by
    rw [keptBits, if_neg afterFirst, if_neg]
    rintro ⟨present, same⟩
    exact notClassId present same
  have kept (word : UInt32) : word &&& 0xFFFFFFFF = word :=
    UInt32.and_neg_one
  simp [keptWords, all, kept]

/-- Behind the class id every bit is kept. -/
theorem keptWords_timestamp
    {index : ℕ}
    (behind : integerIndex header ≤ index) :
    keptWords memory order header index 1 =
      writeWord (wordAt memory order index) order := by
  rw [integerIndex] at behind
  refine keptWords_one ?_ fun hasClassId => ?_
  · rw [classIdIndex] at behind
    omega
  · rw [hasClassId, partSize, if_pos rfl] at behind
    omega

/-- A tested bit is a flag. -/
theorem toNat_bit
    {bit : UInt32}
    {number : ℕ}
    (isBit : bit.toNat = number % 2 ^ 1) :
    (bit != 0).toNat = number % 2 ^ 1 := by
  rcases Nat.mod_two_eq_zero_or_one number with even | odd
  · rw [pow_one, even] at isBit ⊢
    have zero : bit = 0 := UInt32.toNat_inj.mp isBit
    simp [zero]
  · rw [pow_one, odd] at isBit ⊢
    have one : bit = 1 := UInt32.toNat_inj.mp isBit
    simp [one]

/-- The first word that is written has the kept bits of the one that was read. -/
theorem serializeWord0_eq (read : ReadFrom memory order header) :
    serializeWord0 header = wordAt memory order 0 &&& keptBits header 0 := by
  have isWord0 := read.word0
  rw [word0At_eq] at isWord0
  have total := toNat_serializeWord0 header
  generalize wordAt memory order 0 = word at isWord0 ⊢
  have wordSmall := word.toNat_lt
  have codeField : ((word >>> 28) &&& 0xF).toNat = word.toNat / 2 ^ 28 % 2 ^ 4 :=
    toNat_field word 28 4 rfl rfl (by decide)
  have classIdField :
      ((word >>> 27) &&& 0x1).toNat = word.toNat / 2 ^ 27 % 2 ^ 1 :=
    toNat_field word 27 1 rfl rfl (by decide)
  have trailerField :
      ((word >>> 26) &&& 0x1).toNat = word.toNat / 2 ^ 26 % 2 ^ 1 :=
    toNat_field word 26 1 rfl rfl (by decide)
  have tsiField : ((word >>> 22) &&& 0x3).toNat = word.toNat / 2 ^ 22 % 2 ^ 2 :=
    toNat_field word 22 2 rfl rfl (by decide)
  have tsfField : ((word >>> 20) &&& 0x3).toNat = word.toNat / 2 ^ 20 % 2 ^ 2 :=
    toNat_field word 20 2 rfl rfl (by decide)
  have countField :
      ((word >>> 16) &&& 0xF).toUInt8.toNat = word.toNat / 2 ^ 16 % 2 ^ 4 := by
    rw [UInt32.toNat_toUInt8, toNat_field word 16 4 rfl rfl (by decide)]
    omega
  have sizeField := toNat_low16 word
  simp only [parseWord0, PacketHeader.mk.injEq] at isWord0
  obtain ⟨isType, isClassId, isTrailer, isTsi, isTsf, isCount, isSize, -⟩ := isWord0
  have code : header.packetType.toCode.toNat = word.toNat / 2 ^ 28 % 2 ^ 4 := by
    rw [← isType, PacketType.toCode_ofCode (by omega), codeField]
  have tsi : header.tsiType.toBits.toNat = word.toNat / 2 ^ 22 % 2 ^ 2 := by
    rw [← isTsi, TSI.toBits_ofBits (by omega), tsiField]
  have tsf : header.tsfType.toBits.toNat = word.toNat / 2 ^ 20 % 2 ^ 2 := by
    rw [← isTsf, TSF.toBits_ofBits (by omega), tsfField]
  have classId : header.classIdPresent.toNat = word.toNat / 2 ^ 27 % 2 ^ 1 := by
    rw [← isClassId, toNat_bit classIdField]
  have count : header.packetCount.toNat = word.toNat / 2 ^ 16 % 2 ^ 4 := by
    rw [← isCount, countField]
  have size : header.packetSize.toNat = word.toNat % 2 ^ 16 := by
    rw [← isSize, sizeField]
  rw [isType] at isTrailer
  rw [code, classId, tsi, tsf, count, size] at total
  rw [← UInt32.toNat_inj, total, UInt32.toNat_and, keptBits, if_pos rfl]
  cases data : header.packetType.isDataPacket with
  | true =>
      have trailer :
          header.trailerPresent.toNat = word.toNat / 2 ^ 26 % 2 ^ 1 := by
        rw [← isTrailer, data, Bool.true_and, toNat_bit trailerField]
      rw [if_pos rfl, Bool.true_and, trailer]
      have mask : (0xFCFFFFFF : UInt32).toNat =
          (2 ^ 6 - 1) * 2 ^ 26 ||| (2 ^ 24 - 1) := by decide
      rw [mask, Nat.and_or_distrib_left, BitFields.and_shifted_mask,
        BitFields.and_mask,
        BitFields.or_eq_add 26 (Nat.dvd_mul_left _ _) (by omega)]
      omega
  | false =>
      rw [if_neg (by decide), Bool.false_and]
      have mask : (0xF8FFFFFF : UInt32).toNat =
          (2 ^ 5 - 1) * 2 ^ 27 ||| (2 ^ 24 - 1) := by decide
      rw [mask, Nat.and_or_distrib_left, BitFields.and_shifted_mask,
        BitFields.and_mask,
        BitFields.or_eq_add 27 (Nat.dvd_mul_left _ _) (by omega),
        Bool.toNat_false]
      omega

/-- The halves of a word make up the word. -/
theorem join_halves (word : UInt32) :
    ((((word >>> 16) &&& 0xFFFF).toUInt16.toUInt32 <<< 16) |||
      (word &&& 0xFFFF).toUInt16.toUInt32) = word := by
  have small := word.toNat_lt
  have high : ((word >>> 16) &&& 0xFFFF).toNat = word.toNat / 2 ^ 16 % 2 ^ 16 :=
    toNat_field word 16 16 rfl rfl (by decide)
  have low := toNat_low16 word
  rw [← UInt32.toNat_inj]
  simp only [UInt32.toNat_or, UInt32.toNat_shiftLeft, UInt16.toNat_toUInt32,
    UInt32.toNat_toUInt16, UInt32.reduceToNat, Nat.reduceMod,
    Nat.shiftLeft_eq, high] at low ⊢
  rw [low, Nat.mod_eq_of_lt (by omega),
    BitFields.or_eq_add 16 (Nat.dvd_mul_left _ _) (by omega)]
  omega

/-- The class id words that are written, when there are any. -/
theorem serializePart_classIdAt (read : ReadFrom memory order header) :
    serializePart header.classIdPresent header.classIdOUI
        (serializeClassId header order) =
      keptWords memory order header (classIdIndex header)
        (partSize header.classIdPresent 2) := by
  have afterFirst : classIdIndex header ≠ 0 := by
    rw [classIdIndex]
    omega
  cases present : header.classIdPresent with
  | false => rfl
  | true =>
      have first : keptBits header (classIdIndex header) = 0x00FFFFFF := by
        rw [keptBits, if_neg afterFirst, if_pos ⟨present, rfl⟩]
      have second : keptWords memory order header (classIdIndex header + 1) 1 = _ :=
        keptWords_one (by omega) fun _ => by omega
      have masked (word : UInt32) :
          (word &&& 0x00FFFFFF) &&& 0x00FFFFFF = word &&& 0x00FFFFFF := by
        rw [UInt32.and_assoc, UInt32.and_self]
      rw [show partSize true 2 = 1 + 1 from rfl, keptWords_add, second,
        read.classIdOUI, if_pos present]
      simp only [serializePart, serializeClassId, read.informationClassCode,
        read.packetClassCode, if_pos present, if_true, Option.elim_some,
        classIdAt, masked, join_halves]
      simp [keptWords, first]

/-- A header that was read is written as the words it was read from, with the
bits that the writer keeps. -/
theorem serialize_of_readFrom (read : ReadFrom memory order header) :
    serialize header order =
      keptWords memory order header 0 (sizeInWords header) := by
  have streamIdPart :
      serializePart header.packetType.hasStreamId header.streamId
          (writeWord · order) =
        keptWords memory order header 1
          (partSize header.packetType.hasStreamId 1) := by
    rw [read.streamId]
    cases present : header.packetType.hasStreamId with
    | false => rfl
    | true =>
        refine (keptWords_one (by decide) fun _ => ?_).symm
        rw [classIdIndex, present]
        decide
  have integerPart :
      serializePart (header.tsiType != .none) header.integerTimestamp
          (writeWord · order) =
        keptWords memory order header (integerIndex header)
          (partSize (header.tsiType != .none) 1) := by
    rw [read.integerTimestamp]
    cases present : header.tsiType != .none with
    | false => rfl
    | true =>
        exact (keptWords_timestamp le_rfl).symm
  have fractionalPart :
      serializePart (header.tsfType != .none) header.fractionalTimestamp
          (writeDWord · order) =
        keptWords memory order header (fractionalIndex header)
          (partSize (header.tsfType != .none) 2) := by
    rw [read.fractionalTimestamp]
    cases present : header.tsfType != .none with
    | false => rfl
    | true =>
        have behind : integerIndex header ≤ fractionalIndex header :=
          Nat.le_add_right _ _
        rw [show partSize true 2 = 1 + 1 from rfl, keptWords_add,
          keptWords_timestamp behind, keptWords_timestamp (by omega),
          ← writeDWord_dwordAt]
        rfl
  have word0Part :
      writeWord (serializeWord0 header) order =
        keptWords memory order header 0 1 := by
    simp [keptWords, serializeWord0_eq read]
  rw [serialize, word0Part, streamIdPart, serializePart_classIdAt read,
    integerPart, fractionalPart, sizeInWords_eq, keptWords_add, Nat.zero_add,
    fractionalIndex, keptWords_add, Nat.zero_add, integerIndex, keptWords_add,
    Nat.zero_add, classIdIndex, keptWords_add, Nat.zero_add]

end Written

section BothWays

/-- The bytes of a buffer, word by word. -/
theorem take_eq_words
    {data : List UInt8}
    {words : ℕ}
    (inside : 4 * words ≤ data.length) :
    data.take (4 * words) =
      (List.range words).flatMap fun index =>
        writeWord (wordAt (memoryOf data) order index) order := by
  induction words with
  | zero => simp
  | succ words inductionHypothesis =>
      rw [List.range_succ, List.flatMap_append, List.flatMap_singleton,
        ← inductionHypothesis (by omega), writeWord_wordAt, Nat.mul_succ,
        List.take_add]
      congr 1
      apply List.ext_getElem
      · simp
        omega
      · intro index inTake inWindow
        rw [length_window] at inWindow
        have inData : 4 * words + index < data.length := by omega
        simp [window, memoryOf, List.getD, List.getElem?_eq_getElem inData]

/-- Parsing and serializing headers undo each other: a populated header is parsed
back from its bytes, whatever fills the packet up, and a header that was parsed
is serialized as the words it was parsed from, up to the bits that are ignored. -/
theorem parse_serialize_inverse (order : ByteOrder) :
    (∀ header : PacketHeader,
      Populated header →
      sizeInWords header ≤ header.packetSize.toNat →
        (serialize header order).length = 4 * sizeInWords header ∧
        ∀ padding : List UInt8,
          (serialize header order ++ padding).length =
            4 * header.packetSize.toNat →
          (parse (serialize header order ++ padding).length order).result
              (memoryOf (serialize header order ++ padding)) =
            some (header, sizeInBytes header)) ∧
    (∀ (data : List UInt8) (header : PacketHeader) (headerBytes : ℕ),
      (parse data.length order).result (memoryOf data) =
        some (header, headerBytes) →
        headerBytes = 4 * sizeInWords header ∧
        headerBytes ≤ data.length ∧
        data.take headerBytes =
          (List.range (sizeInWords header)).flatMap (fun index =>
            writeWord (wordAt (memoryOf data) order index) order) ∧
        serialize header order =
          (List.range (sizeInWords header)).flatMap fun index =>
            writeWord (wordAt (memoryOf data) order index &&&
              keptBits header index) order) := by
  constructor
  · intro header populated fits
    refine ⟨(length_serialize populated order).trans (Nat.mul_comm _ 4), ?_⟩
    intro padding padded
    exact result_parse_of_holds populated fits (by omega)
      (holds_memoryOf _ padding)
  · intro data header headerBytes accepted
    obtain ⟨read, size⟩ := readFrom_of_parse accepted
    have found := meets_parse.result_ensured _ accepted
    have available := found.1.fits.available
    have inPacket := found.2
    rw [sizeInBytes, Nat.mul_comm] at size
    have inside : 4 * sizeInWords header ≤ data.length := by omega
    refine ⟨size, size ▸ inside, size ▸ take_eq_words inside, ?_⟩
    rw [serialize_of_readFrom read, keptWords, ← List.range_eq_range']

/-- A data header with a class id, and a context header with ignored bits set. -/
theorem parse_serialize_inverse_both :
    (parse 24 .littleEndian).result
        (memoryOf (serialize
          { classIdPresent := true
            packetSize := 6
            streamId := some 7
            classIdOUI := some 0x123456
            informationClassCode := some 8
            packetClassCode := some 9 } .littleEndian ++ [1, 2, 3, 4, 5, 6, 7, 8])) =
      some (
        { classIdPresent := true
          packetSize := 6
          streamId := some 7
          classIdOUI := some 0x123456
          informationClassCode := some 8
          packetClassCode := some 9 }, 16) ∧
      serialize
        { packetType := .ifContext
          packetSize := 2
          streamId := some 0x01020304 } .bigEndian =
        [0x40, 0, 0, 2, 1, 2, 3, 4] := by
  constructor
  · exact ((parse_serialize_inverse .littleEndian).1 _
      { streamId := rfl
        classIdOUI := rfl
        informationClassCode := rfl
        packetClassCode := rfl
        ouiSmall := by
          rintro oui ⟨⟩
          decide
        integerTimestamp := rfl
        fractionalTimestamp := rfl
        trailerData := by decide
        countSmall := by decide } (by decide)).2
      [1, 2, 3, 4, 5, 6, 7, 8] (by decide)
  · exact ((parse_serialize_inverse .bigEndian).2
      [0x47, 0, 0, 2, 1, 2, 3, 4] _ 8 (by decide)).2.2.2.trans (by decide)

end BothWays

end PacketHeaderCodec
end Vita49
end StarterCpp
