import StarterCpp.Vita49.PacketHeader

/-!
# Context packets

`ContextPacket`: the context indicator field CIF0 announces which fields follow
it, from the most significant bit down.  The decoder walks bits 30 to 15 with a
table of field sizes and keeps the fields of bits 30 to 21; the encoder emits
those fields in the same order.
-/

namespace StarterCpp
namespace Vita49
namespace ContextPacket

open Scanner

variable {D : Type} [FloatArithmetic D]

section FixedPoint

/-- 64-bit frequency or rate with 20 fractional bits. -/
def freqFromFixed (raw : Int64) : D :=
  (raw.toInt : D) / (FREQ_RADIX : D)

def freqToFixed (hz : D) : Int64 :=
  Int64.ofInt (FloatArithmetic.round (hz * (FREQ_RADIX : D)))

/-- Reference level: signed 16 bits with 7 fractional bits in the upper half. -/
def refLevelFromFixed (raw : UInt32) : D :=
  let val := ((raw >>> 16) &&& 0xFFFF).toUInt16.toInt16
  (val.toInt : D) / (GAIN_RADIX : D)

def refLevelToFixed (dBm : D) : UInt32 :=
  let val := Int16.ofInt (FloatArithmetic.round (dBm * (GAIN_RADIX : D)))
  val.toUInt16.toUInt32 <<< 16

/-- Gain: the first stage is in the lower half. -/
def gainFromFixed (raw : UInt32) : D :=
  let stage1 := (raw &&& 0xFFFF).toUInt16.toInt16
  (stage1.toInt : D) / (GAIN_RADIX : D)

def gainToFixed (dB : D) : UInt32 :=
  let val := Int16.ofInt (FloatArithmetic.round (dB * (GAIN_RADIX : D)))
  val.toUInt16.toUInt32

end FixedPoint

section IndicatorField

/-- The mask of a CIF0 bit, `1u << bit`. -/
def cif0Mask (bit : ℕ) : UInt32 :=
  (1 : UInt32) <<< UInt32.ofNat bit

def CIF0_CHANGE_INDICATOR : UInt32 := cif0Mask 31
def CIF0_REF_POINT_ID : UInt32 := cif0Mask 30
def CIF0_BANDWIDTH : UInt32 := cif0Mask 29
def CIF0_IF_REF_FREQ : UInt32 := cif0Mask 28
def CIF0_RF_REF_FREQ : UInt32 := cif0Mask 27
def CIF0_RF_FREQ_OFFSET : UInt32 := cif0Mask 26
def CIF0_IF_BAND_OFFSET : UInt32 := cif0Mask 25
def CIF0_REF_LEVEL : UInt32 := cif0Mask 24
def CIF0_GAIN : UInt32 := cif0Mask 23
def CIF0_OVER_RANGE : UInt32 := cif0Mask 22
def CIF0_SAMPLE_RATE : UInt32 := cif0Mask 21

/-- The size in words of the data of a CIF0 bit: zero for flags, negative for
unknown fields. -/
def cif0FieldSizeWords (bit : ℕ) : ℤ :=
  match bit with
  | 31 => 0
  | 30 => 1
  | 29 => 2
  | 28 => 2
  | 27 => 2
  | 26 => 2
  | 25 => 2
  | 24 => 1
  | 23 => 1
  | 22 => 1
  | 21 => 2
  | 20 => 2
  | 19 => 1
  | 18 => 1
  | 17 => 2
  | 16 => 1
  | 15 => 2
  | _ => -1

end IndicatorField

section Decoding

/-- `ContextPacket::DecodeResult`. -/
structure DecodeResult (D : Type) where
  header : PacketHeader
  fields : ContextFields D
  deriving DecidableEq, Repr

/-- The reads of a frequency case of the switch. -/
def readFreq (offset : ℕ) (order : ByteOrder) : ByteScanner D := do
  let raw ← readDWord offset order
  return freqFromFixed raw.toInt64

/-- The switch on the bit: decode supported fields, skip unsupported ones. -/
def decodeField
    (order : ByteOrder)
    (bit offset : ℕ)
    (fields : ContextFields D) : ByteScanner (ContextFields D) :=
  match bit with
  | 30 => do
      let value ← readWord offset order
      return { fields with referencePointId := some value }
  | 29 => do
      let value ← readFreq offset order
      return { fields with bandwidth := some value }
  | 28 => do
      let value ← readFreq offset order
      return { fields with ifRefFrequency := some value }
  | 27 => do
      let value ← readFreq offset order
      return { fields with rfFrequency := some value }
  | 26 => do
      let value ← readFreq offset order
      return { fields with rfFreqOffset := some value }
  | 25 => do
      let value ← readFreq offset order
      return { fields with ifBandOffset := some value }
  | 24 => do
      let raw ← readWord offset order
      return { fields with referenceLevel := some (refLevelFromFixed raw) }
  | 23 => do
      let raw ← readWord offset order
      return { fields with gain := some (gainFromFixed raw) }
  | 22 => do
      let value ← readWord offset order
      return { fields with overRangeCount := some value }
  | 21 => do
      let value ← readFreq offset order
      return { fields with sampleRate := some value }
  | _ => return fields

/-- The loop over the CIF0 bits that are left, with its running offset. -/
def decodeFields
    (order : ByteOrder)
    (cif0 : UInt32)
    (packetBytes : ℕ) :
    (bits : List ℕ) → (offset : ℕ) → ContextFields D →
      ByteScanner (ContextFields D)
  | [], _, fields => return fields
  | bit :: bits, offset, fields =>
      if cif0 &&& cif0Mask bit = 0 then
        decodeFields order cif0 packetBytes bits offset fields
      else
        let sizeWords := cif0FieldSizeWords bit
        if sizeWords < 0 then
          -- `break`: what follows a field of unknown size is not located.
          return fields
        else if sizeWords = 0 then
          decodeFields order cif0 packetBytes bits offset fields
        else do
          let fieldBytes := sizeWords.toNat * 4
          require (¬ offset + fieldBytes > packetBytes)
          let fields ← decodeField order bit offset fields
          decodeFields order cif0 packetBytes bits (offset + fieldBytes) fields

/-- The bits of the loop, from 30 down to 15. -/
def loopBits : List ℕ :=
  (List.range' 15 16).reverse

/-- `ContextPacket::decode`. -/
def decode
    (length : ℕ)
    (order : ByteOrder) : ByteScanner (DecodeResult D) := do
  require (¬ length < 4)
  let (header, headerBytes) ← PacketHeaderCodec.parse length order
  require (header.packetType.isContextPacket = true)
  let packetBytes := header.packetSize.toNat * 4
  let offset := headerBytes
  require (¬ offset + 4 > packetBytes)
  let cif0 ← readWord offset order
  let fields ← decodeFields order cif0 packetBytes loopBits (offset + 4)
    { changeIndicator := (cif0 &&& CIF0_CHANGE_INDICATOR) != 0 }
  assign packetBytes
  return { header, fields }

end Decoding

section Encoding

/-- One block of the encoder: a CIF0 flag, and the bytes of the field if it has
a value. -/
structure FieldBlock where
  flag : UInt32
  bytes : Option (List UInt8)

/-- The bytes of a frequency field. -/
def writeFreq (order : ByteOrder) (hz : D) : List UInt8 :=
  writeDWord (freqToFixed hz).toUInt64 order

/-- The blocks of `encode`, in the order of the source. -/
def fieldBlocks
    (fields : ContextFields D)
    (order : ByteOrder) : List FieldBlock :=
  [⟨CIF0_REF_POINT_ID, fields.referencePointId.map (writeWord · order)⟩,
    ⟨CIF0_BANDWIDTH, fields.bandwidth.map (writeFreq order)⟩,
    ⟨CIF0_IF_REF_FREQ, fields.ifRefFrequency.map (writeFreq order)⟩,
    ⟨CIF0_RF_REF_FREQ, fields.rfFrequency.map (writeFreq order)⟩,
    ⟨CIF0_RF_FREQ_OFFSET, fields.rfFreqOffset.map (writeFreq order)⟩,
    ⟨CIF0_IF_BAND_OFFSET, fields.ifBandOffset.map (writeFreq order)⟩,
    ⟨CIF0_REF_LEVEL, fields.referenceLevel.map
      fun dBm => writeWord (refLevelToFixed dBm) order⟩,
    ⟨CIF0_GAIN, fields.gain.map fun dB => writeWord (gainToFixed dB) order⟩,
    ⟨CIF0_OVER_RANGE, fields.overRangeCount.map (writeWord · order)⟩,
    ⟨CIF0_SAMPLE_RATE, fields.sampleRate.map (writeFreq order)⟩]

/-- The context indicator field that the blocks build up. -/
def encodeCif0 (fields : ContextFields D) (order : ByteOrder) : UInt32 :=
  (fieldBlocks fields order).foldl
    (fun cif0 block => if block.bytes.isSome then cif0 ||| block.flag else cif0)
    (if fields.changeIndicator then CIF0_CHANGE_INDICATOR else 0)

/-- The field data that the blocks append. -/
def encodeFieldData
    (fields : ContextFields D)
    (order : ByteOrder) : List UInt8 :=
  (fieldBlocks fields order).flatMap fun block => block.bytes.getD []

/-- The header that `encode` builds, before its size is set. -/
def encodeHeader
    (streamId : UInt32)
    (packetCount : UInt8)
    (tsiType : TSI)
    (tsfType : TSF)
    (intTimestamp : UInt32)
    (fracTimestamp : UInt64) : PacketHeader :=
  PacketHeaderCodec.buildHeader .ifContext false streamId packetCount tsiType
    tsfType intTimestamp fracTimestamp

/-- `ContextPacket::encode`; a packet that would be too large is empty. -/
def encode
    (streamId : UInt32)
    (fields : ContextFields D)
    (packetCount : UInt8)
    (order : ByteOrder)
    (tsiType : TSI)
    (tsfType : TSF)
    (intTimestamp : UInt32)
    (fracTimestamp : UInt64) : List UInt8 :=
  let cif0 := encodeCif0 fields order
  let fieldData := encodeFieldData fields order
  let header := encodeHeader streamId packetCount tsiType tsfType intTimestamp
    fracTimestamp
  let headerWords := PacketHeaderCodec.sizeInWords header
  let cif0Words := 1
  let fieldWords := fieldData.length / 4
  let totalWords := headerWords + cif0Words + fieldWords
  if totalWords > MAX_PACKET_SIZE_WORDS then
    []
  else
    let header := { header with packetSize := UInt16.ofNat totalWords }
    PacketHeaderCodec.serialize header order ++ writeWord cif0 order ++
      fieldData

end Encoding

end ContextPacket
end Vita49
end StarterCpp
