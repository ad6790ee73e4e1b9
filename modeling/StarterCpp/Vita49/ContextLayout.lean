import Mathlib.Algebra.BigOperators.Intervals
import Mathlib.Algebra.Order.BigOperators.Group.Finset
import Mathlib.Tactic.IntervalCases
import StarterCpp.Vita49.ContextRoundTrip
import StarterCpp.Vita49.HeaderRoundTrip

/-!
# The layout that the context indicator field announces

The fields of a context packet follow its indicator field from the most
significant bit down, so a field starts behind the fields of all higher bits
that are set.  The decoder's loop reads exactly this layout, for every indicator
field: it gives up when the layout does not fit the packet, and what it returns
depends on the supported bits and their words only.
-/

namespace StarterCpp
namespace Vita49
namespace ContextPacket

open Scanner

variable {D : Type} [FloatArithmetic D]
variable {memory : ℕ → UInt8} {order : ByteOrder} {cif0 : UInt32}

section Layout

/-- The words of the fields whose bits are set, from a bit up to bit 30. -/
def wordsFrom (cif0 : UInt32) (bit : ℕ) : ℕ :=
  ∑ set ∈ Finset.Ico bit 31 with cif0.toNat.testBit set,
    (cif0FieldSizeWords set).toNat

/-- The word at which the field of a bit starts, behind a header of some words
and the indicator field. -/
def fieldOffset (headerWords : ℕ) (cif0 : UInt32) (bit : ℕ) : ℕ :=
  headerWords + 1 + wordsFrom cif0 (bit + 1)

/-- The value of a field, if its bit is set. -/
def fieldAt
    {Value : Type}
    (headerWords : ℕ)
    (cif0 : UInt32)
    (bit : ℕ)
    (value : ℕ → Value) : Option Value :=
  if cif0.toNat.testBit bit then some (value (fieldOffset headerWords cif0 bit))
  else none

/-- The frequency that starts at a word. -/
def freqAt (memory : ℕ → UInt8) (order : ByteOrder) (index : ℕ) : D :=
  freqFromFixed (dwordAt memory order index).toInt64

/-- The context fields behind a header of some words. -/
def layoutFields
    (memory : ℕ → UInt8)
    (order : ByteOrder)
    (headerWords : ℕ)
    (cif0 : UInt32) : ContextFields D where
  changeIndicator := cif0.toNat.testBit 31
  referencePointId := fieldAt headerWords cif0 30 (wordAt memory order)
  bandwidth := fieldAt headerWords cif0 29 (freqAt memory order)
  ifRefFrequency := fieldAt headerWords cif0 28 (freqAt memory order)
  rfFrequency := fieldAt headerWords cif0 27 (freqAt memory order)
  rfFreqOffset := fieldAt headerWords cif0 26 (freqAt memory order)
  ifBandOffset := fieldAt headerWords cif0 25 (freqAt memory order)
  referenceLevel := fieldAt headerWords cif0 24 fun index =>
    refLevelFromFixed (wordAt memory order index)
  gain := fieldAt headerWords cif0 23 fun index =>
    gainFromFixed (wordAt memory order index)
  overRangeCount := fieldAt headerWords cif0 22 (wordAt memory order)
  sampleRate := fieldAt headerWords cif0 21 (freqAt memory order)

end Layout

section Walk

/-- The words from a bit on are those of the bit and of the higher bits. -/
theorem wordsFrom_of_lt {bit : ℕ} (inside : bit < 31) :
    wordsFrom cif0 bit =
      (if cif0.toNat.testBit bit then (cif0FieldSizeWords bit).toNat else 0) +
        wordsFrom cif0 (bit + 1) := by
  rw [wordsFrom, wordsFrom, Finset.sum_filter, Finset.sum_filter,
    Finset.sum_eq_sum_Ico_succ_bot inside]

theorem wordsFrom_le {low high : ℕ} (below : low ≤ high) :
    wordsFrom cif0 high ≤ wordsFrom cif0 low := by
  apply Finset.sum_le_sum_of_subset
  exact Finset.filter_subset_filter _ (Finset.Ico_subset_Ico_left below)

/-- The fields after a bit has been passed. -/
def layField
    (memory : ℕ → UInt8)
    (order : ByteOrder)
    (headerWords : ℕ)
    (cif0 : UInt32)
    (fields : ContextFields D)
    (bit : ℕ) : ContextFields D :=
  let word := fieldAt headerWords cif0 bit (wordAt memory order)
  let freq := fieldAt headerWords cif0 bit (freqAt memory order)
  match bit with
  | 30 => { fields with referencePointId := word <|> fields.referencePointId }
  | 29 => { fields with bandwidth := freq <|> fields.bandwidth }
  | 28 => { fields with ifRefFrequency := freq <|> fields.ifRefFrequency }
  | 27 => { fields with rfFrequency := freq <|> fields.rfFrequency }
  | 26 => { fields with rfFreqOffset := freq <|> fields.rfFreqOffset }
  | 25 => { fields with ifBandOffset := freq <|> fields.ifBandOffset }
  | 24 => { fields with
      referenceLevel := word.map refLevelFromFixed <|> fields.referenceLevel }
  | 23 => { fields with gain := word.map gainFromFixed <|> fields.gain }
  | 22 => { fields with overRangeCount := word <|> fields.overRangeCount }
  | 21 => { fields with sampleRate := freq <|> fields.sampleRate }
  | _ => fields

/-- A bit that is not set leaves the fields as they are. -/
theorem layField_of_clear
    {bit headerWords : ℕ}
    (clear : cif0.toNat.testBit bit = false)
    (fields : ContextFields D) :
    layField memory order headerWords cif0 fields bit = fields := by
  unfold layField fieldAt
  simp only [clear, Bool.false_eq_true, if_false, Option.map_none]
  split <;> rfl

/-- A bit that is set has its field decoded at its offset. -/
theorem result_decodeField_of_set
    {bit headerWords : ℕ}
    (set : cif0.toNat.testBit bit = true)
    (fields : ContextFields D) :
    (decodeField order bit (4 * fieldOffset headerWords cif0 bit) fields).result
        memory =
      some (layField memory order headerWords cif0 fields bit) := by
  unfold decodeField layField fieldAt
  split <;>
    simp [set, readFreq, result_readWord_index, result_readDWord_index, freqAt,
      -result_readWord, -result_readDWord]

/-- The bits from fifteen on, downwards. -/
def bitsDown (count : ℕ) : List ℕ :=
  (List.range' 15 count).reverse

theorem bitsDown_succ (count : ℕ) :
    bitsDown (count + 1) = (15 + count) :: bitsDown count := by
  rw [bitsDown, List.range'_concat, List.reverse_append]
  simp [bitsDown]

theorem cif0FieldSizeWords_pos {bit : ℕ} (low : 15 ≤ bit) (high : bit < 31) :
    0 < cif0FieldSizeWords bit := by
  interval_cases bit <;> decide

/-- A field that does not fit the packet ends the decoding. -/
theorem result_decodeFields_of_outside
    {bit offset packetBytes : ℕ}
    (inside : bit < 32)
    (set : cif0.toNat.testBit bit = true)
    (sized : 0 < cif0FieldSizeWords bit)
    (outside : packetBytes < offset + (cif0FieldSizeWords bit).toNat * 4)
    (bits : List ℕ)
    (fields : ContextFields D) :
    (decodeFields order cif0 packetBytes (bit :: bits) offset fields).result
        memory = none := by
  have isSet : ¬ cif0 &&& cif0Mask bit = 0 := by
    rw [and_cif0Mask_eq_zero inside, set]
    decide
  rw [decodeFields, if_neg isSet, if_neg (not_lt.mpr sized.le),
    if_neg sized.ne']
  simp only [result_bind, result_require, if_neg (not_not.mpr outside),
    Option.bind_none]

/-- The walk over the bits lays out the fields, or finds that they do not fit. -/
theorem result_decodeFields_layout
    {headerWords packetWords count : ℕ}
    (inside : count ≤ 16)
    (reached : headerWords + 1 + wordsFrom cif0 (15 + count) ≤ packetWords)
    (fields : ContextFields D) :
    (decodeFields order cif0 (packetWords * 4) (bitsDown count)
        (4 * (headerWords + 1 + wordsFrom cif0 (15 + count))) fields).result
        memory =
      if headerWords + 1 + wordsFrom cif0 15 ≤ packetWords then
        some ((bitsDown count).foldl (layField memory order headerWords cif0)
          fields)
      else none := by
  induction count generalizing fields with
  | zero => 
      rw [if_pos reached]
      rfl
  | succ count inductionHypothesis =>
      have bitInside : 15 + count < 31 := by omega
      have step : wordsFrom cif0 (15 + count) = _ := wordsFrom_of_lt bitInside
      have below : wordsFrom cif0 (15 + count) ≤ wordsFrom cif0 15 :=
        wordsFrom_le (by omega)
      rw [← Nat.add_assoc] at reached ⊢
      rw [bitsDown_succ, List.foldl_cons]
      cases set : cif0.toNat.testBit (15 + count) with
      | false =>
          rw [set, if_neg (by decide), Nat.zero_add] at step
          rw [decodeFields_of_clear (by omega) set, layField_of_clear set, ← step]
          rw [← step] at reached
          exact inductionHypothesis (by omega) reached fields
      | true =>
          have sized := cif0FieldSizeWords_pos (Nat.le_add_right 15 count) bitInside
          rw [set, if_pos rfl] at step
          by_cases room : headerWords + 1 + wordsFrom cif0 (15 + count) ≤ packetWords
          · have decoded : (decodeField order (15 + count)
                (4 * (headerWords + 1 + wordsFrom cif0 (15 + count + 1)))
                fields).result memory = _ :=
              result_decodeField_of_set set fields
            rw [result_decodeFields_of_set (by omega) set sized (by omega) decoded]
            have next : 4 * (headerWords + 1 + wordsFrom cif0 (15 + count + 1)) +
                (cif0FieldSizeWords (15 + count)).toNat * 4 =
              4 * (headerWords + 1 + wordsFrom cif0 (15 + count)) := by
              omega
            rw [next]
            exact inductionHypothesis (by omega) room _
          · have outside : packetWords * 4 <
                4 * (headerWords + 1 + wordsFrom cif0 (15 + count + 1)) +
                  (cif0FieldSizeWords (15 + count)).toNat * 4 := by
              omega
            rw [if_neg (by omega)]
            exact result_decodeFields_of_outside (by omega) set sized outside _ _

/-- The loop lays out the fields from an indicator with the change bit on. -/
theorem foldl_layField (headerWords : ℕ) :
    loopBits.foldl (layField memory order headerWords cif0)
        { changeIndicator := cif0.toNat.testBit 31 } =
      (layoutFields memory order headerWords cif0 : ContextFields D) := by
  have loop : loopBits = [30, 29, 28, 27, 26, 25, 24, 23, 22, 21, 20, 19, 18, 17,
    16, 15] := rfl
  simp [loop, layField, layoutFields, fieldAt]

end Walk

section Decoder

/-- The change indicator is the highest bit. -/
theorem changeIndicator_eq (cif0 : UInt32) :
    ((cif0 &&& CIF0_CHANGE_INDICATOR) != 0) = cif0.toNat.testBit 31 := by
  have clear := and_cif0Mask_eq_zero (by decide : 31 < 32) cif0
  rw [← CIF0_CHANGE_INDICATOR] at clear
  cases bit : cif0.toNat.testBit 31 with
  | false => simp [clear.mpr bit]
  | true =>
      have set : ¬ cif0 &&& CIF0_CHANGE_INDICATOR = 0 := by
        rw [clear, bit]
        decide
      simp [set]

/-- A context packet whose header is accepted is decoded by its layout. -/
theorem result_decode_of_parse
    {length headerBytes : ℕ}
    {header : PacketHeader}
    (parsed : (PacketHeaderCodec.parse length order).result memory =
      some (header, headerBytes))
    (isContext : header.packetType.isContextPacket = true) :
    (decode length order : ByteScanner (DecodeResult D)).result memory =
      if PacketHeaderCodec.sizeInWords header + 1 +
          wordsFrom (wordAt memory order (PacketHeaderCodec.sizeInWords header))
            15 ≤ header.packetSize.toNat then
        some {
          header := header
          fields := layoutFields memory order
            (PacketHeaderCodec.sizeInWords header)
            (wordAt memory order (PacketHeaderCodec.sizeInWords header)) }
      else none := by
  have size := (PacketHeaderCodec.readFrom_of_parse parsed).2
  have found := (PacketHeaderCodec.meets_parse.result_ensured _ parsed).1
  have longEnough := found.fits.covers.notShort
  rw [PacketHeaderCodec.sizeInBytes, Nat.mul_comm] at size
  have cif0 : (readWord (4 * PacketHeaderCodec.sizeInWords header) order).result
      memory = _ :=
    result_readWord_index _
  have empty (cif0 : UInt32) : wordsFrom cif0 (15 + 16) = 0 := by
    simp [wordsFrom]
  simp only [decode, result_bind, result_require, parsed, Option.bind_some,
    if_pos longEnough, if_pos isContext, size, cif0, changeIndicator_eq]
  by_cases room : PacketHeaderCodec.sizeInWords header + 1 ≤
      header.packetSize.toNat
  · have walked :
        (decodeFields order
          (wordAt memory order (PacketHeaderCodec.sizeInWords header))
          (header.packetSize.toNat * 4) loopBits
          (4 * PacketHeaderCodec.sizeInWords header + 4)
          ({ changeIndicator := (wordAt memory order
              (PacketHeaderCodec.sizeInWords header)).toNat.testBit 31 } :
            ContextFields D)).result memory = _ :=
      result_decodeFields_layout le_rfl (by rw [empty]; exact room) _
    have laidOut : loopBits.foldl _ _ =
        (layoutFields memory order (PacketHeaderCodec.sizeInWords header)
          (wordAt memory order (PacketHeaderCodec.sizeInWords header)) :
            ContextFields D) :=
      foldl_layField _
    rw [if_pos (by omega), Option.bind_some, walked]
    split_ifs with fits
    · rw [← laidOut]
      rfl
    · rfl
  · rw [if_neg (by omega), if_neg (by omega), Option.bind_none]

/-- The words of the supported fields. -/
def supportedWords (cif0 : UInt32) : ℕ :=
  wordsFrom cif0 21

/-- A field lies in the words of the fields down to its bit. -/
theorem fieldOffset_add_size
    {bit headerWords : ℕ}
    (inside : bit < 31)
    (set : cif0.toNat.testBit bit = true) :
    fieldOffset headerWords cif0 bit + (cif0FieldSizeWords bit).toNat =
      headerWords + 1 + wordsFrom cif0 bit := by
  rw [fieldOffset, wordsFrom_of_lt inside, if_pos set]
  omega

section Congruence

variable {other : ℕ → UInt8} {otherCif0 : UInt32} {headerWords : ℕ}

/-- A supported field depends on the supported bits and on its own words. -/
theorem fieldAt_congr
    {Value : Type}
    {bit : ℕ}
    {value otherValue : ℕ → Value}
    (sameBits : ∀ set, 21 ≤ set → set < 32 →
      cif0.toNat.testBit set = otherCif0.toNat.testBit set)
    (supported : 21 ≤ bit)
    (inside : bit < 31)
    (sameValue : ∀ index, headerWords + 1 ≤ index →
      index + (cif0FieldSizeWords bit).toNat ≤
        headerWords + 1 + supportedWords cif0 →
        value index = otherValue index) :
    fieldAt headerWords cif0 bit value =
      fieldAt headerWords otherCif0 bit otherValue := by
  have sameAbove : wordsFrom cif0 (bit + 1) = wordsFrom otherCif0 (bit + 1) := by
    refine Finset.sum_congr (Finset.filter_congr fun set inRange => ?_)
      fun _ _ => rfl
    rw [Finset.mem_Ico] at inRange
    rw [sameBits set (by omega) (by omega)]
  rw [fieldAt, fieldAt, ← sameBits bit supported (by omega)]
  split_ifs with set
  · have field : fieldOffset headerWords cif0 bit + _ = _ :=
      fieldOffset_add_size inside set
    have within : wordsFrom cif0 bit ≤ supportedWords cif0 :=
      wordsFrom_le supported
    rw [fieldOffset, fieldOffset, ← sameAbove, ← fieldOffset,
      sameValue _ (by rw [fieldOffset]; omega) (by omega)]
  · rfl

/-- The fields depend on the supported bits and on the words of their fields. -/
theorem layoutFields_congr
    (sameBits : ∀ set, 21 ≤ set → set < 32 →
      cif0.toNat.testBit set = otherCif0.toNat.testBit set)
    (sameWords : ∀ index, headerWords + 1 ≤ index →
      index < headerWords + 1 + supportedWords cif0 →
        wordAt memory order index = wordAt other order index) :
    (layoutFields memory order headerWords cif0 : ContextFields D) =
      layoutFields other order headerWords otherCif0 := by
  have word {bit : ℕ} (supported : 21 ≤ bit) (inside : bit < 31) :
      fieldAt headerWords cif0 bit (wordAt memory order) =
        fieldAt headerWords otherCif0 bit (wordAt other order) := by
    have sized := cif0FieldSizeWords_pos (by omega : 15 ≤ bit) inside
    exact fieldAt_congr sameBits supported inside fun index low high =>
      sameWords index low (by omega)
  have level {bit : ℕ} (convert : UInt32 → D) (supported : 21 ≤ bit)
      (inside : bit < 31) :
      (fieldAt headerWords cif0 bit fun index =>
          convert (wordAt memory order index)) =
        fieldAt headerWords otherCif0 bit fun index =>
          convert (wordAt other order index) := by
    have sized := cif0FieldSizeWords_pos (by omega : 15 ≤ bit) inside
    exact fieldAt_congr sameBits supported inside fun index low high =>
      congrArg convert (sameWords index low (by omega))
  have freq {bit : ℕ} (supported : 21 ≤ bit) (inside : bit < 31)
      (sized : cif0FieldSizeWords bit = 2) :
      (fieldAt headerWords cif0 bit (freqAt memory order) : Option D) =
        fieldAt headerWords otherCif0 bit (freqAt other order) := by
    refine fieldAt_congr sameBits supported inside fun index low high => ?_
    rw [freqAt, freqAt, dwordAt_congr (sameWords index low (by omega))
      (sameWords (index + 1) (by omega) (by omega))]
  rw [layoutFields, layoutFields, sameBits 31 (by decide) (by decide),
    word (by decide : 21 ≤ 30) (by decide), word (by decide : 21 ≤ 22) (by decide),
    freq (by decide : 21 ≤ 29) (by decide) rfl,
    freq (by decide : 21 ≤ 28) (by decide) rfl,
    freq (by decide : 21 ≤ 27) (by decide) rfl,
    freq (by decide : 21 ≤ 26) (by decide) rfl,
    freq (by decide : 21 ≤ 25) (by decide) rfl,
    freq (by decide : 21 ≤ 21) (by decide) rfl,
    level _ (by decide : 21 ≤ 24) (by decide),
    level _ (by decide : 21 ≤ 23) (by decide)]

end Congruence

/-- The words of an accepted header. -/
theorem headerWords_of_parse
    {length headerBytes : ℕ}
    {header : PacketHeader}
    (parsed : (PacketHeaderCodec.parse length order).result memory =
      some (header, headerBytes)) :
    headerBytes = 4 * PacketHeaderCodec.sizeInWords header ∧
      headerBytes / 4 = PacketHeaderCodec.sizeInWords header := by
  have size := (PacketHeaderCodec.readFrom_of_parse parsed).2
  rw [PacketHeaderCodec.sizeInBytes] at size
  omega

/-- What is decoded behind an accepted header are the fields of the layout. -/
theorem fields_of_decode
    {length headerBytes : ℕ}
    {header : PacketHeader}
    {decoded : DecodeResult D}
    (parsed : (PacketHeaderCodec.parse length order).result memory =
      some (header, headerBytes))
    (returned : (decode length order).result memory = some decoded) :
    decoded.fields = layoutFields memory order (headerBytes / 4)
      (wordAt memory order (headerBytes / 4)) := by
  obtain ⟨found, isContext⟩ := meets_decode.result_ensured decoded returned
  have headerFound := (PacketHeaderCodec.meets_parse.result_ensured _ parsed).1
  rw [found.packetType, ← headerFound.packetType] at isContext
  rw [result_decode_of_parse parsed isContext] at returned
  rw [(headerWords_of_parse parsed).2]
  split_ifs at returned
  rw [← Option.some.inj returned]

/-- The context decoder follows the layout that the indicator field announces:
it succeeds exactly when the layout fits the packet, and then returns the fields
of the layout.  Two packets that agree on the supported bits and on the words of
the supported fields are decoded to the same fields. -/
theorem decode_follows_layout
    (order : ByteOrder)
    (data : List UInt8)
    (header : PacketHeader)
    (headerBytes : ℕ)
    (parsed : (PacketHeaderCodec.parse data.length order).result
      (memoryOf data) = some (header, headerBytes))
    (isContext : header.packetType.isContextPacket = true)
    (cif0 : UInt32)
    (isCif0 : cif0 = wordAt (memoryOf data) order (headerBytes / 4)) :
    4 ∣ headerBytes ∧
      ((decode data.length order : ByteScanner (DecodeResult D)).result
          (memoryOf data) =
        if headerBytes / 4 + 1 + wordsFrom cif0 15 ≤ header.packetSize.toNat then
          some {
            header := header
            fields := layoutFields (memoryOf data) order (headerBytes / 4) cif0 }
        else none) ∧
      ∀ (other : List UInt8) (decoded otherDecoded : DecodeResult D)
        (otherHeader : PacketHeader),
        (PacketHeaderCodec.parse other.length order).result (memoryOf other) =
          some (otherHeader, headerBytes) →
        (decode data.length order).result (memoryOf data) = some decoded →
        (decode other.length order).result (memoryOf other) =
          some otherDecoded →
        (∀ bit, 21 ≤ bit → bit < 32 → cif0.toNat.testBit bit =
          (wordAt (memoryOf other) order (headerBytes / 4)).toNat.testBit bit) →
        (∀ index, headerBytes / 4 + 1 ≤ index →
          index < headerBytes / 4 + 1 + supportedWords cif0 →
            wordAt (memoryOf data) order index =
              wordAt (memoryOf other) order index) →
          otherDecoded.fields = decoded.fields := by
  obtain ⟨size, words⟩ := headerWords_of_parse parsed
  subst isCif0
  refine ⟨⟨_, size⟩, ?_, ?_⟩
  · rw [words]
    exact result_decode_of_parse parsed isContext
  · intro other decoded otherDecoded otherHeader otherParsed returned
      otherReturned sameBits sameWords
    rw [fields_of_decode parsed returned, fields_of_decode otherParsed otherReturned]
    exact (layoutFields_congr sameBits sameWords).symm

/-- A packet with an unsupported field behind two supported ones. -/
theorem decode_follows_layout_skips :
    ((decode 32 .bigEndian : ByteScanner (DecodeResult ℚ)).result (memoryOf
        [0x40, 0, 0, 8, 0, 0, 0, 1, 0xC0, 0x44, 0, 0, 0, 0, 0, 7, 0, 0, 0, 9,
          1, 2, 3, 4, 0, 0, 0, 0, 0, 0, 0, 0])).map DecodeResult.fields =
      some {
        changeIndicator := true
        referencePointId := some 7
        overRangeCount := some 9 } := by
  have decoded :
      (decode 32 .bigEndian : ByteScanner (DecodeResult ℚ)).result _ = _ :=
    (decode_follows_layout .bigEndian
      [0x40, 0, 0, 8, 0, 0, 0, 1, 0xC0, 0x44, 0, 0, 0, 0, 0, 7, 0, 0, 0, 9,
        1, 2, 3, 4, 0, 0, 0, 0, 0, 0, 0, 0]
      { packetType := .ifContext, packetSize := 8, streamId := some 1 } 8
      (by decide) rfl 0xC0440000 (by decide)).2.1
  rw [decoded]
  decide

end Decoder

end ContextPacket
end Vita49
end StarterCpp
