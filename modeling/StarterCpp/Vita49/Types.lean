import Mathlib.Algebra.Order.Round
import Mathlib.Data.Rat.Floor

/-!
# The data model of VITA 49.2 packets

The enumerations and structures of `Vita49Types.h`.  Samples and context fields
are generic in the floating-point type; the codec only multiplies, divides,
converts integers, rounds, and compares with zero.  Exact rationals are one such
arithmetic.
-/

namespace StarterCpp
namespace Vita49

/-- The floating-point operations of the codec. -/
class FloatArithmetic (F : Type) extends Mul F, Div F, IntCast F where
  /-- Comparison with zero, which holds of a negative zero too. -/
  isZero : F → Bool
  /-- The nearest integer, halves away from zero, before it is converted. -/
  round : F → ℤ

namespace ExactArithmetic

/-- The nearest integer, halves away from zero. -/
def roundHalfAway (x : ℚ) : ℤ :=
  if 0 ≤ x then round x else -round (-x)

@[simp] theorem roundHalfAway_intCast (n : ℤ) : roundHalfAway n = n := by
  unfold roundHalfAway
  split
  · exact round_intCast n
  · rw [← Int.cast_neg, round_intCast, neg_neg]

/-- Exact arithmetic. -/
instance : FloatArithmetic ℚ where
  isZero x := decide (x = 0)
  round := roundHalfAway

@[simp] theorem isZero_eq (x : ℚ) :
    FloatArithmetic.isZero x = decide (x = 0) := rfl

@[simp] theorem round_eq (x : ℚ) :
    FloatArithmetic.round x = roundHalfAway x := rfl

end ExactArithmetic

/-- VITA 49.2 packet types.  The field has four bits, and the codes from six
on have no name. -/
inductive PacketType
  | ifDataWithoutStreamId
  | ifDataWithStreamId
  | extDataWithoutStreamId
  | extDataWithStreamId
  | ifContext
  | extContext
  | unnamed (above : Fin 10)
  deriving DecidableEq, Repr

namespace PacketType

/-- `static_cast<PacketType>` of a four-bit number. -/
def ofCode (code : UInt32) : PacketType :=
  match code.toNat with
  | 0 => ifDataWithoutStreamId
  | 1 => ifDataWithStreamId
  | 2 => extDataWithoutStreamId
  | 3 => extDataWithStreamId
  | 4 => ifContext
  | 5 => extContext
  | above + 6 => unnamed (Fin.ofNat 10 above)

/-- `static_cast<uint32_t>` of a packet type. -/
def toCode : PacketType → UInt32
  | ifDataWithoutStreamId => 0
  | ifDataWithStreamId => 1
  | extDataWithoutStreamId => 2
  | extDataWithStreamId => 3
  | ifContext => 4
  | extContext => 5
  | unnamed above => UInt32.ofNat (above.val + 6)

/-- Check if a packet type includes a stream id. -/
def hasStreamId : PacketType → Bool
  | ifDataWithStreamId => true
  | extDataWithStreamId => true
  | ifContext => true
  | extContext => true
  | _ => false

/-- Check if a packet type is a data packet. -/
def isDataPacket (type : PacketType) : Bool :=
  type == ifDataWithoutStreamId || type == ifDataWithStreamId ||
    type == extDataWithoutStreamId || type == extDataWithStreamId

/-- Check if a packet type is a context packet. -/
def isContextPacket (type : PacketType) : Bool :=
  type == ifContext || type == extContext

theorem isDataPacket_of_isContextPacket
    {type : PacketType}
    (isContext : type.isContextPacket = true) :
    type.isDataPacket = false := by
  cases type <;> first | rfl | contradiction

theorem toCode_lt (type : PacketType) : type.toCode.toNat < 16 := by
  cases type with
  | unnamed above =>
      revert above
      decide
  | _ => decide

@[simp] theorem ofCode_toCode (type : PacketType) :
    ofCode type.toCode = type := by
  cases type with
  | unnamed above =>
      revert above
      decide
  | _ => rfl

theorem toCode_ofCode {code : UInt32} (small : code.toNat < 16) :
    (ofCode code).toCode = code := by
  have codes : ∀ number < 16,
      (ofCode (UInt32.ofNat number)).toCode = UInt32.ofNat number := by
    decide
  simpa using codes code.toNat small

end PacketType

/-- Integer timestamp type (TSI field, header bits 23-22). -/
inductive TSI
  | none
  | utc
  | gps
  | other
  deriving DecidableEq, Repr

namespace TSI

def ofBits (bits : UInt32) : TSI :=
  match bits.toNat with
  | 0 => none
  | 1 => utc
  | 2 => gps
  | _ => other

def toBits : TSI → UInt32
  | none => 0
  | utc => 1
  | gps => 2
  | other => 3

theorem toBits_lt (type : TSI) : type.toBits.toNat < 4 := by
  cases type <;> decide

@[simp] theorem ofBits_toBits (type : TSI) : ofBits type.toBits = type := by
  cases type <;> rfl

theorem toBits_ofBits {bits : UInt32} (small : bits.toNat < 4) :
    (ofBits bits).toBits = bits := by
  have all : ∀ number < 4,
      (ofBits (UInt32.ofNat number)).toBits = UInt32.ofNat number := by
    decide
  simpa using all bits.toNat small

end TSI

/-- Fractional timestamp type (TSF field, header bits 21-20). -/
inductive TSF
  | none
  | sampleCount
  | realTime
  | freeRunning
  deriving DecidableEq, Repr

namespace TSF

def ofBits (bits : UInt32) : TSF :=
  match bits.toNat with
  | 0 => none
  | 1 => sampleCount
  | 2 => realTime
  | _ => freeRunning

def toBits : TSF → UInt32
  | none => 0
  | sampleCount => 1
  | realTime => 2
  | freeRunning => 3

theorem toBits_lt (type : TSF) : type.toBits.toNat < 4 := by
  cases type <;> decide

@[simp] theorem ofBits_toBits (type : TSF) : ofBits type.toBits = type := by
  cases type <;> rfl

theorem toBits_ofBits {bits : UInt32} (small : bits.toNat < 4) :
    (ofBits bits).toBits = bits := by
  have all : ∀ number < 4,
      (ofBits (UInt32.ofNat number)).toBits = UInt32.ofNat number := by
    decide
  simpa using all bits.toNat small

end TSF

/-- Parsed VITA 49.2 packet header. -/
structure PacketHeader where
  packetType : PacketType := .ifDataWithStreamId
  classIdPresent : Bool := false
  trailerPresent : Bool := false
  tsiType : TSI := .none
  tsfType : TSF := .none
  packetCount : UInt8 := 0
  packetSize : UInt16 := 0
  streamId : Option UInt32 := none
  classIdOUI : Option UInt32 := none
  informationClassCode : Option UInt16 := none
  packetClassCode : Option UInt16 := none
  integerTimestamp : Option UInt32 := none
  fractionalTimestamp : Option UInt64 := none
  deriving DecidableEq, Repr

/-- Context fields, each with its bit of the context indicator field. -/
@[ext]
structure ContextFields (D : Type) where
  changeIndicator : Bool := false
  referencePointId : Option UInt32 := none
  bandwidth : Option D := none
  ifRefFrequency : Option D := none
  rfFrequency : Option D := none
  rfFreqOffset : Option D := none
  ifBandOffset : Option D := none
  referenceLevel : Option D := none
  gain : Option D := none
  overRangeCount : Option UInt32 := none
  sampleRate : Option D := none
  deriving DecidableEq, Repr

/-- Single I/Q sample. -/
structure IQSample (F : Type) where
  real : F
  imag : F
  deriving DecidableEq, Repr

/-- `DEFAULT_SCALE_FACTOR`: full scale is one. -/
def DEFAULT_SCALE_FACTOR : ℤ := 32768

/-- Maximum packet size in 32-bit words. -/
def MAX_PACKET_SIZE_WORDS : ℕ := 65535

/-- Radix point of the 64-bit frequency fields, with 20 fractional bits. -/
def FREQ_RADIX : ℤ := 1048576

/-- Radix point of the 16-bit level fields, with 7 fractional bits. -/
def GAIN_RADIX : ℤ := 128

end Vita49
end StarterCpp
