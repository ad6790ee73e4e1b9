import StarterCpp.Library.BitFields
import StarterCpp.Library.Endian
import StarterCpp.Library.Scanner
import Mathlib.Data.List.TakeDrop
import Mathlib.Tactic.NormNum

/-!
# Words in a byte buffer

The helpers of `ByteSwap.h` assemble words from single bytes with shifts.  Each
is the value of the byte string it reads, in the order it reads it, and the
writers produce the byte string the readers expect.
-/

namespace StarterCpp
namespace Vita49

open Scanner

/-- A program over a byte buffer with a `bytesConsumed` parameter. -/
abbrev ByteScanner := Scanner UInt8 ℕ

/-- Byte order for packet serialization and deserialization. -/
inductive ByteOrder
  | bigEndian
  | littleEndian
  deriving DecidableEq, Repr

/-- The memory behind a pointer to a byte buffer. -/
def memoryOf (data : List UInt8) (index : ℕ) : UInt8 :=
  data.getD index 0

section BigEndian

def readU16BE (p : ℕ) : ByteScanner UInt16 := do
  let byte0 ← cell p
  let byte1 ← cell (p + 1)
  return (byte0.toUInt16 <<< 8) ||| byte1.toUInt16

def readU32BE (p : ℕ) : ByteScanner UInt32 := do
  let byte0 ← cell p
  let byte1 ← cell (p + 1)
  let byte2 ← cell (p + 2)
  let byte3 ← cell (p + 3)
  return (byte0.toUInt32 <<< 24) ||| (byte1.toUInt32 <<< 16) |||
    (byte2.toUInt32 <<< 8) ||| byte3.toUInt32

def readU64BE (p : ℕ) : ByteScanner UInt64 := do
  let high ← readU32BE p
  let low ← readU32BE (p + 4)
  return (high.toUInt64 <<< 32) ||| low.toUInt64

def readI16BE (p : ℕ) : ByteScanner Int16 := do
  let raw ← readU16BE p
  return raw.toInt16

def writeU16BE (val : UInt16) : List UInt8 :=
  [((val >>> 8) &&& 0xFF).toUInt8, (val &&& 0xFF).toUInt8]

def writeU32BE (val : UInt32) : List UInt8 :=
  [((val >>> 24) &&& 0xFF).toUInt8, ((val >>> 16) &&& 0xFF).toUInt8,
    ((val >>> 8) &&& 0xFF).toUInt8, (val &&& 0xFF).toUInt8]

def writeU64BE (val : UInt64) : List UInt8 :=
  writeU32BE ((val >>> 32) &&& 0xFFFFFFFF).toUInt32 ++
    writeU32BE (val &&& 0xFFFFFFFF).toUInt32

def writeI16BE (val : Int16) : List UInt8 :=
  writeU16BE val.toUInt16

end BigEndian

section LittleEndian

def readU16LE (p : ℕ) : ByteScanner UInt16 := do
  let byte0 ← cell p
  let byte1 ← cell (p + 1)
  return byte0.toUInt16 ||| (byte1.toUInt16 <<< 8)

def readU32LE (p : ℕ) : ByteScanner UInt32 := do
  let byte0 ← cell p
  let byte1 ← cell (p + 1)
  let byte2 ← cell (p + 2)
  let byte3 ← cell (p + 3)
  return byte0.toUInt32 ||| (byte1.toUInt32 <<< 8) |||
    (byte2.toUInt32 <<< 16) ||| (byte3.toUInt32 <<< 24)

def readU64LE (p : ℕ) : ByteScanner UInt64 := do
  let low ← readU32LE p
  let high ← readU32LE (p + 4)
  return low.toUInt64 ||| (high.toUInt64 <<< 32)

def readI16LE (p : ℕ) : ByteScanner Int16 := do
  let raw ← readU16LE p
  return raw.toInt16

def writeU16LE (val : UInt16) : List UInt8 :=
  [(val &&& 0xFF).toUInt8, ((val >>> 8) &&& 0xFF).toUInt8]

def writeU32LE (val : UInt32) : List UInt8 :=
  [(val &&& 0xFF).toUInt8, ((val >>> 8) &&& 0xFF).toUInt8,
    ((val >>> 16) &&& 0xFF).toUInt8, ((val >>> 24) &&& 0xFF).toUInt8]

def writeU64LE (val : UInt64) : List UInt8 :=
  writeU32LE (val &&& 0xFFFFFFFF).toUInt32 ++
    writeU32LE ((val >>> 32) &&& 0xFFFFFFFF).toUInt32

def writeI16LE (val : Int16) : List UInt8 :=
  writeU16LE val.toUInt16

end LittleEndian

section ByOrder

/-- `readWord` of `PacketHeader.cpp` and `ContextPacket.cpp`. -/
def readWord (p : ℕ) (order : ByteOrder) : ByteScanner UInt32 :=
  match order with
  | .bigEndian => readU32BE p
  | .littleEndian => readU32LE p

def readDWord (p : ℕ) (order : ByteOrder) : ByteScanner UInt64 :=
  match order with
  | .bigEndian => readU64BE p
  | .littleEndian => readU64LE p

/-- The branch on the byte order in the sample loop of `decode`. -/
def readI16 (p : ℕ) (order : ByteOrder) : ByteScanner Int16 :=
  match order with
  | .bigEndian => readI16BE p
  | .littleEndian => readI16LE p

/-- The bytes that `writeWord` and `appendWord` produce. -/
def writeWord (val : UInt32) (order : ByteOrder) : List UInt8 :=
  match order with
  | .bigEndian => writeU32BE val
  | .littleEndian => writeU32LE val

def writeDWord (val : UInt64) (order : ByteOrder) : List UInt8 :=
  match order with
  | .bigEndian => writeU64BE val
  | .littleEndian => writeU64LE val

/-- The branch on the byte order in the sample loop of `encode`. -/
def writeI16 (val : Int16) (order : ByteOrder) : List UInt8 :=
  match order with
  | .bigEndian => writeI16BE val
  | .littleEndian => writeI16LE val

end ByOrder

namespace ByteOrder

/-- The number a byte string stands for. -/
def value : ByteOrder → List UInt8 → ℕ
  | bigEndian, bytes => Endian.value bytes.reverse
  | littleEndian, bytes => Endian.value bytes

/-- The byte string of a number in a given width. -/
def toBytes : ByteOrder → (width number : ℕ) → List UInt8
  | bigEndian, width, number => (Endian.toBytes width number).reverse
  | littleEndian, width, number => Endian.toBytes width number

@[simp] theorem length_toBytes (order : ByteOrder) (width number : ℕ) :
    (order.toBytes width number).length = width := by
  cases order <;> simp [toBytes]

theorem value_toBytes (order : ByteOrder) (width number : ℕ) :
    order.value (order.toBytes width number) = number % 256 ^ width := by
  cases order <;> simp [value, toBytes, Endian.value_toBytes]

theorem toBytes_value (order : ByteOrder) (bytes : List UInt8) :
    order.toBytes bytes.length (order.value bytes) = bytes := by
  cases order with
  | bigEndian =>
      have restored := Endian.toBytes_value bytes.reverse
      rw [List.length_reverse] at restored
      rw [toBytes, value, restored, List.reverse_reverse]
  | littleEndian => exact Endian.toBytes_value bytes

theorem value_lt (order : ByteOrder) (bytes : List UInt8) :
    order.value bytes < 256 ^ bytes.length := by
  cases order with
  | bigEndian =>
      have small := Endian.value_lt bytes.reverse
      rwa [List.length_reverse] at small
  | littleEndian => exact Endian.value_lt bytes

end ByteOrder

/-- The cells a reader of `width` bytes looks at. -/
def window (memory : ℕ → UInt8) (p width : ℕ) : List UInt8 :=
  (List.range width).map fun index => memory (p + index)

section Values

theorem toNat_join16 (high low : UInt8) :
    ((high.toUInt16 <<< 8) ||| low.toUInt16).toNat =
      Endian.value [low, high] := by
  have highSmall := high.toNat_lt
  have lowSmall := low.toNat_lt
  simp only [UInt16.toNat_or, UInt16.toNat_shiftLeft, UInt8.toNat_toUInt16,
    UInt16.reduceToNat, Nat.reduceMod, Nat.shiftLeft_eq, Endian.value_cons,
    Endian.value_nil]
  rw [Nat.mod_eq_of_lt (by omega),
    BitFields.or_eq_add 8 (Nat.dvd_mul_left _ _) (by omega)]
  omega

theorem toNat_join32 (byte0 byte1 byte2 byte3 : UInt8) :
    ((byte0.toUInt32 <<< 24) ||| (byte1.toUInt32 <<< 16) |||
      (byte2.toUInt32 <<< 8) ||| byte3.toUInt32).toNat =
      Endian.value [byte3, byte2, byte1, byte0] := by
  have small0 := byte0.toNat_lt
  have small1 := byte1.toNat_lt
  have small2 := byte2.toNat_lt
  have small3 := byte3.toNat_lt
  have join1 :
      byte0.toNat * 2 ^ 24 ||| byte1.toNat * 2 ^ 16 =
        byte0.toNat * 2 ^ 24 + byte1.toNat * 2 ^ 16 :=
    BitFields.or_eq_add 24 (by omega) (by omega)
  have join2 :
      byte0.toNat * 2 ^ 24 + byte1.toNat * 2 ^ 16 ||| byte2.toNat * 2 ^ 8 =
        byte0.toNat * 2 ^ 24 + byte1.toNat * 2 ^ 16 + byte2.toNat * 2 ^ 8 :=
    BitFields.or_eq_add 16 (by omega) (by omega)
  simp only [UInt32.toNat_or, UInt32.toNat_shiftLeft, UInt8.toNat_toUInt32,
    UInt32.reduceToNat, Nat.reduceMod, Nat.shiftLeft_eq, Endian.value_cons,
    Endian.value_nil]
  rw [Nat.mod_eq_of_lt (by omega), Nat.mod_eq_of_lt (by omega),
    Nat.mod_eq_of_lt (by omega), join1, join2,
    BitFields.or_eq_add 8 (by omega) (by omega)]
  omega

theorem toNat_join64 (high low : UInt32) :
    ((high.toUInt64 <<< 32) ||| low.toUInt64).toNat =
      low.toNat + 2 ^ 32 * high.toNat := by
  have highSmall := high.toNat_lt
  have lowSmall := low.toNat_lt
  simp only [UInt64.toNat_or, UInt64.toNat_shiftLeft, UInt32.toNat_toUInt64,
    UInt64.reduceToNat, Nat.reduceMod, Nat.shiftLeft_eq]
  rw [Nat.mod_eq_of_lt (by omega),
    BitFields.or_eq_add 32 (Nat.dvd_mul_left _ _) (by omega)]
  omega

variable {memory : ℕ → UInt8}

/-- A half word has the value of the bytes it is read from. -/
@[simp] theorem result_readI16 (p : ℕ) (order : ByteOrder) :
    (readI16 p order).result memory =
      some (UInt16.ofNat (order.value (window memory p 2))).toInt16 := by
  have back (high low : UInt8) :
      (high.toUInt16 <<< 8) ||| low.toUInt16 =
        UInt16.ofNat (Endian.value [low, high]) := by
    rw [← toNat_join16, UInt16.ofNat_toNat]
  cases order with
  | bigEndian =>
      simp only [readI16, readI16BE, readU16BE, result_bind, result_cell,
        result_pure, Option.bind_some, back]
      rfl
  | littleEndian =>
      simp only [readI16, readI16LE, readU16LE, result_bind, result_cell,
        result_pure, Option.bind_some]
      rw [UInt16.or_comm, back]
      rfl

/-- A word has the value of the bytes it is read from. -/
@[simp] theorem result_readWord (p : ℕ) (order : ByteOrder) :
    (readWord p order).result memory =
      some (UInt32.ofNat (order.value (window memory p 4))) := by
  have back (byte0 byte1 byte2 byte3 : UInt8) :
      (byte0.toUInt32 <<< 24) ||| (byte1.toUInt32 <<< 16) |||
        (byte2.toUInt32 <<< 8) ||| byte3.toUInt32 =
        UInt32.ofNat (Endian.value [byte3, byte2, byte1, byte0]) := by
    rw [← toNat_join32, UInt32.ofNat_toNat]
  cases order with
  | bigEndian =>
      simp only [readWord, readU32BE, result_bind, result_cell, result_pure,
        Option.bind_some, back]
      rfl
  | littleEndian =>
      have swapped (first second third fourth : UInt32) :
          first ||| second ||| third ||| fourth =
            fourth ||| third ||| second ||| first := by
        ac_rfl
      simp only [readWord, readU32LE, result_bind, result_cell, result_pure,
        Option.bind_some]
      rw [swapped, back]
      rfl

theorem window_add (memory : ℕ → UInt8) (p first second : ℕ) :
    window memory p (first + second) =
      window memory p first ++ window memory (p + first) second := by
  simp only [window, List.range_add, List.map_append, List.map_map]
  congr 1
  apply List.map_congr_left
  intro index _
  simp [Nat.add_assoc]

@[simp] theorem length_window (memory : ℕ → UInt8) (p width : ℕ) :
    (window memory p width).length = width := by
  simp [window]

/-- A double word has the value of the bytes it is read from. -/
@[simp] theorem result_readDWord (p : ℕ) (order : ByteOrder) :
    (readDWord p order).result memory =
      some (UInt64.ofNat (order.value (window memory p 8))) := by
  have wordBack (order : ByteOrder) (q : ℕ) :
      (UInt32.ofNat (order.value (window memory q 4))).toNat =
        order.value (window memory q 4) := by
    have small := order.value_lt (window memory q 4)
    rw [length_window] at small
    exact UInt32.toNat_ofNat_of_lt' small
  have back (high low : UInt32) :
      (high.toUInt64 <<< 32) ||| low.toUInt64 =
        UInt64.ofNat (low.toNat + 2 ^ 32 * high.toNat) := by
    rw [← toNat_join64, UInt64.ofNat_toNat]
  have split : window memory p 8 = _ := window_add memory p 4 4
  cases order with
  | bigEndian =>
      have high : (readWord p .bigEndian).result memory = _ :=
        result_readWord p .bigEndian
      have low : (readWord (p + 4) .bigEndian).result memory = _ :=
        result_readWord (p + 4) .bigEndian
      simp only [readWord] at high low
      simp only [readDWord, readU64BE, result_bind, result_pure, high, low,
        Option.bind_some, back, wordBack, split]
      simp only [ByteOrder.value, List.reverse_append, Endian.value_append,
        List.length_reverse, length_window]
      norm_num
  | littleEndian =>
      have low : (readWord p .littleEndian).result memory = _ :=
        result_readWord p .littleEndian
      have high : (readWord (p + 4) .littleEndian).result memory = _ :=
        result_readWord (p + 4) .littleEndian
      simp only [readWord] at high low
      simp only [readDWord, readU64LE, result_bind, result_pure, high, low,
        Option.bind_some]
      rw [UInt64.or_comm, back, wordBack, wordBack, split]
      simp only [ByteOrder.value, Endian.value_append, length_window]
      norm_num

end Values

section Written

private theorem toUInt8_low (val : UInt32) (shift : UInt32) :
    ((val >>> shift) &&& 0xFF).toUInt8 =
      UInt8.ofNat (val.toNat / 2 ^ (shift.toNat % 32)) := by
  rw [← UInt8.toNat_inj]
  simp only [UInt32.toNat_toUInt8, UInt32.toNat_and, UInt32.toNat_shiftRight,
    UInt32.reduceToNat, Nat.shiftRight_eq_div_pow, UInt8.toNat_ofNat']
  have mask := BitFields.and_mask 8 (val.toNat / 2 ^ (shift.toNat % 32))
  norm_num at mask ⊢
  rw [mask]
  omega

/-- A written word is its number in four bytes. -/
theorem writeWord_eq (val : UInt32) (order : ByteOrder) :
    writeWord val order = order.toBytes 4 val.toNat := by
  have low0 : (val &&& 0xFF).toUInt8 = UInt8.ofNat val.toNat := by
    have unshifted := toUInt8_low val 0
    simpa using unshifted
  have low1 := toUInt8_low val 8
  have low2 := toUInt8_low val 16
  have low3 := toUInt8_low val 24
  cases order with
  | bigEndian =>
      simp only [writeWord, writeU32BE, low0, low1, low2, low3,
        ByteOrder.toBytes, Endian.toBytes_succ, Endian.toBytes_zero,
        Nat.div_div_eq_div_mul, List.reverse_cons, List.reverse_nil]
      rfl
  | littleEndian =>
      simp only [writeWord, writeU32LE, low0, low1, low2, low3,
        ByteOrder.toBytes, Endian.toBytes_succ, Endian.toBytes_zero,
        Nat.div_div_eq_div_mul]
      rfl

/-- A written double word is its number in eight bytes. -/
theorem writeDWord_eq (val : UInt64) (order : ByteOrder) :
    writeDWord val order = order.toBytes 8 val.toNat := by
  have small := val.toNat_lt
  have mask := BitFields.and_mask 32
  norm_num at mask
  have high : ((val >>> 32) &&& 0xFFFFFFFF).toUInt32.toNat =
      val.toNat / 256 ^ 4 := by
    simp only [UInt64.toNat_toUInt32, UInt64.toNat_and, UInt64.toNat_shiftRight,
      UInt64.reduceToNat, Nat.shiftRight_eq_div_pow, Nat.reduceMod]
    rw [mask]
    omega
  have low : (val &&& 0xFFFFFFFF).toUInt32.toNat = val.toNat % 256 ^ 4 := by
    simp only [UInt64.toNat_toUInt32, UInt64.toNat_and, UInt64.reduceToNat]
    rw [mask]
    omega
  have wordBE (word : UInt32) : writeU32BE word = _ := writeWord_eq word .bigEndian
  have wordLE (word : UInt32) : writeU32LE word = _ :=
    writeWord_eq word .littleEndian
  cases order with
  | bigEndian =>
      rw [writeDWord, writeU64BE, wordBE, wordBE, high, low]
      simp only [ByteOrder.toBytes]
      rw [Endian.toBytes_add 4 4, List.reverse_append, Endian.toBytes_mod]
  | littleEndian =>
      rw [writeDWord, writeU64LE, wordLE, wordLE, high, low]
      simp only [ByteOrder.toBytes]
      rw [Endian.toBytes_add 4 4, Endian.toBytes_mod]

/-- A written half word is its number in two bytes. -/
theorem writeI16_eq (val : Int16) (order : ByteOrder) :
    writeI16 val order = order.toBytes 2 val.toUInt16.toNat := by
  have mask := BitFields.and_mask 8
  norm_num at mask
  have low : (val.toUInt16 &&& 0xFF).toUInt8 =
      UInt8.ofNat val.toUInt16.toNat := by
    rw [← UInt8.toNat_inj]
    simp only [UInt16.toNat_toUInt8, UInt16.toNat_and, UInt16.reduceToNat,
      UInt8.toNat_ofNat']
    rw [mask]
    omega
  have high : ((val.toUInt16 >>> 8) &&& 0xFF).toUInt8 =
      UInt8.ofNat (val.toUInt16.toNat / 256) := by
    rw [← UInt8.toNat_inj]
    simp only [UInt16.toNat_toUInt8, UInt16.toNat_and, UInt16.toNat_shiftRight,
      UInt16.reduceToNat, Nat.shiftRight_eq_div_pow, Nat.reduceMod,
      UInt8.toNat_ofNat']
    rw [mask]
    omega
  cases order with
  | bigEndian =>
      rw [writeI16, writeI16BE, writeU16BE, low, high]
      rfl
  | littleEndian =>
      rw [writeI16, writeI16LE, writeU16LE, low, high]
      rfl

@[simp] theorem length_writeWord (val : UInt32) (order : ByteOrder) :
    (writeWord val order).length = 4 := by
  rw [writeWord_eq, ByteOrder.length_toBytes]

@[simp] theorem length_writeDWord (val : UInt64) (order : ByteOrder) :
    (writeDWord val order).length = 8 := by
  rw [writeDWord_eq, ByteOrder.length_toBytes]

@[simp] theorem length_writeI16 (val : Int16) (order : ByteOrder) :
    (writeI16 val order).length = 2 := by
  rw [writeI16_eq, ByteOrder.length_toBytes]

end Written

section ReadBack

variable {memory : ℕ → UInt8}

/-- The memory holds a byte string from an index on. -/
def Holds (memory : ℕ → UInt8) (p : ℕ) (bytes : List UInt8) : Prop :=
  window memory p bytes.length = bytes

@[simp] theorem holds_append {p : ℕ} {first second : List UInt8} :
    Holds memory p (first ++ second) ↔
      Holds memory p first ∧ Holds memory (p + first.length) second := by
  unfold Holds
  rw [List.length_append, window_add]
  constructor
  · intro same
    exact List.append_inj same (length_window _ _ _)
  · rintro ⟨sameFirst, sameSecond⟩
    rw [sameFirst, sameSecond]

/-- A buffer holds its own bytes, whatever follows them. -/
theorem holds_memoryOf (data rest : List UInt8) :
    Holds (memoryOf (data ++ rest)) 0 data := by
  apply List.ext_getElem
  · simp
  · intro index inWindow inData
    simp [window, memoryOf, List.getD, List.getElem?_append_left inData,
      List.getElem?_eq_getElem inData]

/-- A written word is read back. -/
theorem result_readWord_of_holds
    {p : ℕ}
    {order : ByteOrder}
    {val : UInt32}
    (holds : Holds memory p (writeWord val order)) :
    (readWord p order).result memory = some val := by
  have small := val.toNat_lt
  unfold Holds at holds
  rw [length_writeWord] at holds
  rw [result_readWord, holds, writeWord_eq, ByteOrder.value_toBytes,
    Nat.mod_eq_of_lt (by norm_num; omega), UInt32.ofNat_toNat]

/-- A written double word is read back. -/
theorem result_readDWord_of_holds
    {p : ℕ}
    {order : ByteOrder}
    {val : UInt64}
    (holds : Holds memory p (writeDWord val order)) :
    (readDWord p order).result memory = some val := by
  have small := val.toNat_lt
  unfold Holds at holds
  rw [length_writeDWord] at holds
  rw [result_readDWord, holds, writeDWord_eq, ByteOrder.value_toBytes,
    Nat.mod_eq_of_lt (by norm_num; omega), UInt64.ofNat_toNat]

/-- A written half word is read back. -/
theorem result_readI16_of_holds
    {p : ℕ}
    {order : ByteOrder}
    {val : Int16}
    (holds : Holds memory p (writeI16 val order)) :
    (readI16 p order).result memory = some val := by
  have small := val.toUInt16.toNat_lt
  unfold Holds at holds
  rw [length_writeI16] at holds
  rw [result_readI16, holds, writeI16_eq, ByteOrder.value_toBytes,
    Nat.mod_eq_of_lt (by norm_num; omega), UInt16.ofNat_toNat,
    Int16.toInt16_toUInt16]

end ReadBack

section Reads

variable {memory : ℕ → UInt8} {Allowed : ℕ → Prop} {p : ℕ}

/-- A reader of a word stays inside the word. -/
theorem meets_readWord
    (order : ByteOrder)
    (allowed : ∀ index < 4, Allowed (p + index)) :
    Meets memory Allowed (readWord p order)
      (· = UInt32.ofNat (order.value (window memory p 4))) where
  reads_allowed := by
    have inWord : (readWord p order).reads memory =
        (List.range 4).map (p + ·) := by
      cases order <;> rfl
    simpa [inWord] using allowed
  result_ensured := by
    intro value returns
    rw [result_readWord, Option.some.injEq] at returns
    exact returns.symm

/-- A reader of a double word stays inside the double word. -/
theorem meets_readDWord
    (order : ByteOrder)
    (allowed : ∀ index < 8, Allowed (p + index)) :
    Meets memory Allowed (readDWord p order) fun _ => True where
  reads_allowed := by
    have inDWord : (readDWord p order).reads memory =
        (List.range 8).map (p + ·) := by
      cases order <;> rfl
    simpa [inDWord] using allowed
  result_ensured := fun _ _ => trivial

/-- A reader of a half word stays inside the half word. -/
theorem meets_readI16
    (order : ByteOrder)
    (allowed : ∀ index < 2, Allowed (p + index)) :
    Meets memory Allowed (readI16 p order) fun _ => True where
  reads_allowed := by
    have inHalf : (readI16 p order).reads memory =
        (List.range 2).map (p + ·) := by
      cases order <;> rfl
    simpa [inHalf] using allowed
  result_ensured := fun _ _ => trivial

theorem silent_readWord (p : ℕ) (order : ByteOrder) :
    Silent (readWord p order) := by
  cases order <;> exact fun _ _ => rfl

theorem silent_readDWord (p : ℕ) (order : ByteOrder) :
    Silent (readDWord p order) := by
  cases order <;> exact fun _ _ => rfl

theorem silent_readI16 (p : ℕ) (order : ByteOrder) :
    Silent (readI16 p order) := by
  cases order <;> exact fun _ _ => rfl

end Reads

end Vita49
end StarterCpp
