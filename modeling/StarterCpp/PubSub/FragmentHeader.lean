import StarterCpp.Library.Endian
import Mathlib.Data.List.TakeDrop

/-!
# Datagrams and their fragment header

Every datagram of the high-bandwidth transport starts with a packed twelve-byte
header.  Publisher and subscriber reinterpret the same memory, so the header is
laid out in the byte order of the host, which is little-endian here.
-/

namespace StarterCpp
namespace PubSub

/-- The contents of a `std::string` or of a datagram. -/
abbrev ByteString := List UInt8

/-- An access the source does not guard, at which its behaviour is undefined. -/
inductive MemoryFault
  | outOfRange
  | divisionByZero
  deriving DecidableEq, Repr

/-- `FragmentHeader`: the packed header of one datagram. -/
structure FragmentHeader where
  messageId : UInt32
  fragmentNum : UInt16
  totalFragments : UInt16
  topicLen : UInt16
  reserved : UInt16
  deriving DecidableEq, Repr

namespace FragmentHeader

/-- `sizeof(FragmentHeader)`. -/
def size : ℕ := 12

/-- The object representation of a header. -/
def toBytes (header : FragmentHeader) : ByteString :=
  Endian.toBytes 4 header.messageId.toNat ++
    Endian.toBytes 2 header.fragmentNum.toNat ++
    Endian.toBytes 2 header.totalFragments.toNat ++
    Endian.toBytes 2 header.topicLen.toNat ++
    Endian.toBytes 2 header.reserved.toNat

/-- The header that `reinterpret_cast` sees at the start of a datagram. -/
def ofBytes (data : ByteString) : FragmentHeader where
  messageId := UInt32.ofNat (Endian.value (data.take 4))
  fragmentNum := UInt16.ofNat (Endian.value ((data.drop 4).take 2))
  totalFragments := UInt16.ofNat (Endian.value ((data.drop 6).take 2))
  topicLen := UInt16.ofNat (Endian.value ((data.drop 8).take 2))
  reserved := UInt16.ofNat (Endian.value ((data.drop 10).take 2))

@[simp] theorem length_toBytes (header : FragmentHeader) :
    header.toBytes.length = size := by
  simp [toBytes, size]

@[simp] theorem drop_toBytes_append
    (header : FragmentHeader)
    (rest : ByteString) :
    (header.toBytes ++ rest).drop size = rest :=
  List.drop_left' header.length_toBytes

/-- A written header is read back, whatever follows it. -/
@[simp] theorem ofBytes_toBytes_append
    (header : FragmentHeader)
    (rest : ByteString) :
    ofBytes (header.toBytes ++ rest) = header := by
  have wordBack (word : UInt32) :
      UInt32.ofNat (word.toNat % 256 ^ 4) = word := by
    rw [Nat.mod_eq_of_lt (by simpa using word.toNat_lt), UInt32.ofNat_toNat]
  have halfBack (half : UInt16) :
      UInt16.ofNat (half.toNat % 256 ^ 2) = half := by
    rw [Nat.mod_eq_of_lt (by simpa using half.toNat_lt), UInt16.ofNat_toNat]
  unfold ofBytes toBytes
  simp only [List.append_assoc, List.take_append, List.drop_append,
    Endian.length_toBytes, List.take_of_length_le, List.drop_of_length_le,
    Nat.reduceLeDiff, Nat.reduceSub, List.take_zero, List.drop_zero,
    List.append_nil, List.nil_append, le_refl, Endian.value_toBytes, wordBack,
    halfBack]

end FragmentHeader
end PubSub
end StarterCpp
