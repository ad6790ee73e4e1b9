import StarterCpp.Vita49.Vita49Codec

/-!
# Where the decoders read

The first word of a packet announces its size.  Every decoder reads the first
word, compares the announced size with the available length, and from then on
stays inside the packet.  The available length is looked at in that comparison
only, so what a decoder returns depends on the bytes of the packet and on
nothing behind it.
-/

namespace StarterCpp
namespace Vita49

open Scanner

/-- The first word of the packet at the start of a memory. -/
def word0At (memory : ℕ → UInt8) (order : ByteOrder) : UInt32 :=
  UInt32.ofNat (order.value (window memory 0 4))

/-- The announced size in words: the low half of the first word. -/
def packetSizeAt (memory : ℕ → UInt8) (order : ByteOrder) : ℕ :=
  (word0At memory order).toNat % 2 ^ 16

/-- An index of the buffer that belongs to the first word or to the packet. -/
structure InPacket
    (memory : ℕ → UInt8)
    (order : ByteOrder)
    (length index : ℕ) : Prop where
  inBuffer : index < length
  inPacket : index < 4 ∨ index < 4 * packetSizeAt memory order

/-- The packet at the start of a memory is not empty and is available. -/
structure PacketFits
    (memory : ℕ → UInt8)
    (order : ByteOrder)
    (length : ℕ) : Prop where
  positive : 0 < packetSizeAt memory order
  available : 4 * packetSizeAt memory order ≤ length

/-- An available length that reaches the end of the first word and of the
packet. -/
structure Covers
    (memory : ℕ → UInt8)
    (order : ByteOrder)
    (length : ℕ) : Prop where
  notShort : ¬ length < 4
  notTruncated : ¬ length < packetSizeAt memory order * 4

variable {memory : ℕ → UInt8} {order : ByteOrder} {length : ℕ}

theorem PacketFits.covers
    (fits : PacketFits memory order length) :
    Covers memory order length where
  notShort := by
    have positive := fits.positive
    have available := fits.available
    omega
  notTruncated := by
    have available := fits.available
    omega

theorem PacketFits.inPacket
    (fits : PacketFits memory order length)
    {index : ℕ}
    (inside : index < 4 * packetSizeAt memory order) :
    InPacket memory order length index where
  inBuffer := inside.trans_le fits.available
  inPacket := .inr inside

theorem meets_readWord0 (longEnough : ¬ length < 4) :
    Meets memory (InPacket memory order length) (readWord 0 order)
      (· = word0At memory order) := by
  refine meets_readWord order fun index inWord => ?_
  rw [Nat.zero_add]
  exact ⟨by omega, .inl inWord⟩

@[simp] theorem result_readWord0 :
    (readWord 0 order).result memory = some (word0At memory order) :=
  result_readWord 0 order

/-- The size field of the first word. -/
theorem toNat_sizeField (memory : ℕ → UInt8) (order : ByteOrder) :
    (word0At memory order &&& 0xFFFF).toUInt16.toNat =
      packetSizeAt memory order :=
  PacketHeaderCodec.toNat_low16 _

namespace PacketHeaderCodec

variable {α : Type} {Allowed : ℕ → Prop}

@[simp] theorem toNat_packetSize_parseWord0
    (memory : ℕ → UInt8)
    (order : ByteOrder) :
    (parseWord0 (word0At memory order)).packetSize.toNat =
      packetSizeAt memory order :=
  toNat_sizeField memory order

/-- A part of the header is read inside the packet. -/
theorem meets_parsePart
    {present : Bool}
    {size packetBytes offset : ℕ}
    {read : ℕ → ByteScanner α}
    (start : offset ≤ packetBytes)
    (reads : offset + size ≤ packetBytes →
      Meets memory Allowed (read offset) fun _ => True) :
    Meets memory Allowed (parsePart present size packetBytes offset read)
      fun found => found.2 ≤ packetBytes := by
  unfold parsePart
  split
  · refine (Meets.require _).bind fun _ room => ?_
    have inside : offset + size ≤ packetBytes := not_lt.mp room
    exact (reads inside).bind fun _ _ => Meets.pure inside
  · exact Meets.pure start

theorem meets_readClassId
    {offset : ℕ}
    (allowed : ∀ index < 8, Allowed (offset + index)) :
    Meets memory Allowed (readClassId order offset) fun _ => True := by
  refine (meets_readWord order fun index inWord =>
    allowed index (by omega)).bind fun _ _ => ?_
  refine (meets_readWord order fun index inWord => ?_).bind fun _ _ =>
    Meets.pure trivial
  rw [Nat.add_assoc]
  exact allowed (4 + index) (by omega)

/-- What the parser says about the header of a packet. -/
structure HeaderFound
    (memory : ℕ → UInt8)
    (order : ByteOrder)
    (length : ℕ)
    (header : PacketHeader) : Prop where
  fits : PacketFits memory order length
  packetType :
    header.packetType = (parseWord0 (word0At memory order)).packetType
  packetSize : header.packetSize.toNat = packetSizeAt memory order

theorem meets_parseParts (fits : PacketFits memory order length) :
    Meets memory (InPacket memory order length)
      (parseParts (parseWord0 (word0At memory order)) order)
      fun found => HeaderFound memory order length found.1 ∧
        found.2 ≤ packetSizeAt memory order * 4 := by
  have positive := fits.positive
  have inside {offset size : ℕ}
      (room : offset + size ≤ packetSizeAt memory order * 4) :
      ∀ index < size, InPacket memory order length (offset + index) :=
    fun index inPart => fits.inPacket (by omega)
  unfold parseParts
  simp only [toNat_packetSize_parseWord0]
  refine (meets_parsePart (by omega) fun room =>
    (meets_readWord order (inside room)).imp (fun _ => id)
      fun _ _ => trivial).bind fun ⟨streamId, offset1⟩ bound1 => ?_
  refine (meets_parsePart bound1 fun room =>
    meets_readClassId (inside room)).bind fun ⟨classId, offset2⟩ bound2 => ?_
  refine (meets_parsePart bound2 fun room =>
    (meets_readWord order (inside room)).imp (fun _ => id)
      fun _ _ => trivial).bind fun ⟨integerTimestamp, offset3⟩ bound3 => ?_
  refine (meets_parsePart bound3 fun room =>
    meets_readDWord order (inside room)).bind
      fun ⟨fractionalTimestamp, offset4⟩ bound4 => ?_
  exact Meets.pure ⟨⟨fits, rfl, toNat_packetSize_parseWord0 _ _⟩, bound4⟩

/-- The parser reads the packet only. -/
theorem meets_parse :
    Meets memory (InPacket memory order length) (parse length order)
      fun found => HeaderFound memory order length found.1 ∧
        found.2 ≤ packetSizeAt memory order * 4 := by
  unfold parse
  refine (Meets.require _).bind fun _ longEnough => ?_
  refine (meets_readWord0 longEnough).bind fun word0 isWord0 => ?_
  subst isWord0
  refine (Meets.require _).bind fun _ nonzero => ?_
  refine (Meets.require _).bind fun _ available => ?_
  rw [toNat_packetSize_parseWord0] at available
  refine meets_parseParts ⟨?_, by omega⟩
  by_contra zero
  refine nonzero (.inl (UInt16.toNat_inj.mp ?_))
  rw [toNat_packetSize_parseWord0]
  exact Nat.eq_zero_of_not_pos zero

theorem silent_parsePart
    {present : Bool}
    {size packetBytes offset : ℕ}
    {read : ℕ → ByteScanner α}
    (reads : ∀ offset, Silent (read offset)) :
    Silent (parsePart present size packetBytes offset read) := by
  unfold parsePart
  split
  · exact (Silent.require _).bind fun _ =>
      (reads offset).bind fun _ => Silent.pure _
  · exact Silent.pure _

theorem silent_parse : Silent (parse length order) := by
  have classId (offset : ℕ) : Silent (readClassId order offset) :=
    (silent_readWord _ _).bind fun _ =>
      (silent_readWord _ _).bind fun _ => Silent.pure _
  refine (Silent.require _).bind fun _ => ?_
  refine (silent_readWord _ _).bind fun _ => ?_
  refine (Silent.require _).bind fun _ => (Silent.require _).bind fun _ => ?_
  refine (silent_parsePart fun _ => silent_readWord _ _).bind fun _ => ?_
  refine (silent_parsePart classId).bind fun _ => ?_
  refine (silent_parsePart fun _ => silent_readWord _ _).bind fun _ => ?_
  exact (silent_parsePart fun _ => silent_readDWord _ _).bind
    fun _ => Silent.pure _

/-- The available length matters only as far as it covers the packet. -/
theorem result_parse_congr
    {other : ℕ}
    (covers : Covers memory order length)
    (otherCovers : Covers memory order other) :
    (parse length order).result memory = (parse other order).result memory := by
  simp only [parse, result_bind, result_require, result_readWord0,
    Option.bind_some, toNat_packetSize_parseWord0,
    if_pos covers.notShort, if_pos otherCovers.notShort,
    if_pos covers.notTruncated, if_pos otherCovers.notTruncated]

end PacketHeaderCodec

namespace SignalDataPacket

variable {F : Type} [FloatArithmetic F] {scaleFactor : F}

theorem silent_decodeSample (headerBytes : ℕ) (invScale : F) (i : ℕ) :
    Silent (decodeSample order headerBytes invScale i) :=
  (silent_readI16 _ _).bind fun _ =>
    (silent_readI16 _ _).bind fun _ => Silent.pure _

theorem meets_decodeSample
    {Allowed : ℕ → Prop}
    {headerBytes i : ℕ}
    {invScale : F}
    (allowed : ∀ index < 4, Allowed (headerBytes + i * 4 + index)) :
    Meets memory Allowed (decodeSample order headerBytes invScale i)
      fun _ => True := by
  refine (meets_readI16 order fun index inHalf =>
    allowed index (by omega)).bind fun _ _ => ?_
  refine (meets_readI16 order fun index inHalf => ?_).bind
    fun _ _ => Meets.pure trivial
  rw [Nat.add_assoc]
  exact allowed (2 + index) (by omega)

/-- The data decoder reads the packet only. -/
theorem meets_decode :
    Meets memory (InPacket memory order length)
      (decode length order scaleFactor)
      fun decoded =>
        PacketHeaderCodec.HeaderFound memory order length decoded.header ∧
          decoded.header.packetType.isDataPacket = true := by
  unfold decode
  refine (Meets.require _).bind fun _ _ => ?_
  refine PacketHeaderCodec.meets_parse.bind
    fun ⟨header, headerBytes⟩ ⟨found, bound⟩ => ?_
  have size : header.packetSize.toNat = packetSizeAt memory order :=
    found.packetSize
  refine (Meets.require _).bind fun _ isData => ?_
  refine (Meets.require _).bind fun _ room => ?_
  refine (Meets.mapM fun i inLoop => meets_decodeSample
    fun index inSample => found.fits.inPacket ?_).bind fun samples _ => ?_
  · rw [List.mem_range] at inLoop
    omega
  · exact (Meets.assign _).bind fun _ _ => Meets.pure ⟨found, isData⟩

/-- The data decoder reports the announced size, or nothing. -/
theorem reports_decode :
    Reports memory (decode length order scaleFactor)
      (4 * packetSizeAt memory order) := by
  unfold decode
  refine Reports.silent_bind (Silent.require _) fun _ _ => ?_
  refine Reports.silent_bind PacketHeaderCodec.silent_parse
    fun ⟨header, headerBytes⟩ parsed => ?_
  have found := (PacketHeaderCodec.meets_parse.result_ensured _ parsed).1
  refine Reports.silent_bind (Silent.require _) fun _ _ => ?_
  refine Reports.silent_bind (Silent.require _) fun _ _ => ?_
  refine Reports.silent_bind
    (Silent.mapM fun i _ => silent_decodeSample _ _ i) fun samples _ => ?_
  rw [Nat.mul_comm, ← found.packetSize]
  exact Reports.assign_pure _

theorem result_decode_congr
    {other : ℕ}
    (covers : Covers memory order length)
    (otherCovers : Covers memory order other) :
    (decode length order scaleFactor).result memory =
      (decode other order scaleFactor).result memory := by
  have short (available : ℕ) (long : ¬ available < 4) :
      (available < 4 ∨ FloatArithmetic.isZero scaleFactor = true) ↔
        FloatArithmetic.isZero scaleFactor = true :=
    or_iff_right long
  simp only [decode, result_bind, result_require,
    PacketHeaderCodec.result_parse_congr covers otherCovers,
    short length covers.notShort, short other otherCovers.notShort]

end SignalDataPacket

namespace ContextPacket

variable {D : Type} [FloatArithmetic D]

theorem silent_readFreq (offset : ℕ) (order : ByteOrder) :
    Silent (readFreq offset order : ByteScanner D) :=
  (silent_readDWord _ _).bind fun _ => Silent.pure _

theorem silent_decodeField
    (bit offset : ℕ)
    (fields : ContextFields D) :
    Silent (decodeField order bit offset fields) := by
  unfold decodeField
  split
  all_goals first
    | exact (silent_readWord _ _).bind fun _ => Silent.pure _
    | exact (silent_readFreq _ _).bind fun _ => Silent.pure _
    | exact Silent.pure _

theorem silent_decodeFields
    (cif0 : UInt32)
    (packetBytes : ℕ)
    (bits : List ℕ)
    (offset : ℕ)
    (fields : ContextFields D) :
    Silent (decodeFields order cif0 packetBytes bits offset fields) := by
  induction bits generalizing offset fields with
  | nil => exact Silent.pure _
  | cons bit bits inductionHypothesis =>
      simp only [decodeFields]
      split_ifs
      · exact inductionHypothesis offset fields
      · exact Silent.pure _
      · exact inductionHypothesis offset fields
      · exact (Silent.require _).bind fun _ =>
          (silent_decodeField bit offset fields).bind
            fun kept => inductionHypothesis _ kept

theorem meets_readFreq
    {Allowed : ℕ → Prop}
    {offset : ℕ}
    (allowed : ∀ index < 8, Allowed (offset + index)) :
    Meets memory Allowed (readFreq offset order : ByteScanner D)
      fun _ => True :=
  (meets_readDWord order allowed).bind fun _ _ => Meets.pure trivial

/-- A field is read inside the words the size table gives it. -/
theorem meets_decodeField
    {Allowed : ℕ → Prop}
    {bit offset : ℕ}
    {fields : ContextFields D}
    (allowed : ∀ index < (cif0FieldSizeWords bit).toNat * 4,
      Allowed (offset + index)) :
    Meets memory Allowed (decodeField order bit offset fields)
      fun _ => True := by
  unfold decodeField
  split
  all_goals first
    | exact (meets_readWord order allowed).bind fun _ _ => Meets.pure trivial
    | exact (meets_readFreq allowed).bind fun _ _ => Meets.pure trivial
    | exact Meets.pure trivial

/-- The rule of the field loop: every round whose field lies in the packet
keeps the invariant. -/
theorem meets_decodeFields
    {Allowed : ℕ → Prop}
    {Invariant : ContextFields D → Prop}
    {cif0 : UInt32}
    {packetBytes offset : ℕ}
    {bits : List ℕ}
    {fields : ContextFields D}
    (initially : Invariant fields)
    (rounds : ∀ bit offset fields, Invariant fields →
      offset + (cif0FieldSizeWords bit).toNat * 4 ≤ packetBytes →
        Meets memory Allowed (decodeField order bit offset fields) Invariant) :
    Meets memory Allowed
      (decodeFields order cif0 packetBytes bits offset fields) Invariant := by
  induction bits generalizing offset fields with
  | nil => exact Meets.pure initially
  | cons bit bits inductionHypothesis =>
      simp only [decodeFields]
      split_ifs
      · exact inductionHypothesis initially
      · exact Meets.pure initially
      · exact inductionHypothesis initially
      · refine (Meets.require _).bind fun _ room => ?_
        exact (rounds bit offset fields initially (not_lt.mp room)).bind
          fun kept keptInvariant => inductionHypothesis keptInvariant

/-- The context decoder reads the packet only. -/
theorem meets_decode :
    Meets memory (InPacket memory order length)
      (decode length order : ByteScanner (DecodeResult D))
      fun decoded =>
        PacketHeaderCodec.HeaderFound memory order length decoded.header ∧
          decoded.header.packetType.isContextPacket = true := by
  unfold decode
  refine (Meets.require _).bind fun _ _ => ?_
  refine PacketHeaderCodec.meets_parse.bind
    fun ⟨header, headerBytes⟩ ⟨found, bound⟩ => ?_
  have size : header.packetSize.toNat = packetSizeAt memory order :=
    found.packetSize
  refine (Meets.require _).bind fun _ isContext => ?_
  refine (Meets.require _).bind fun _ room => ?_
  refine (meets_readWord order fun index inWord =>
    found.fits.inPacket (by omega)).bind fun cif0 _ => ?_
  refine (meets_decodeFields trivial fun bit offset fields _ inside =>
    meets_decodeField fun index inField =>
      found.fits.inPacket ?_).bind fun fields _ => ?_
  · omega
  · exact (Meets.assign _).bind fun _ _ => Meets.pure ⟨found, isContext⟩

/-- The context decoder reports the announced size, or nothing. -/
theorem reports_decode :
    Reports memory (decode length order : ByteScanner (DecodeResult D))
      (4 * packetSizeAt memory order) := by
  unfold decode
  refine Reports.silent_bind (Silent.require _) fun _ _ => ?_
  refine Reports.silent_bind PacketHeaderCodec.silent_parse
    fun ⟨header, headerBytes⟩ parsed => ?_
  have found := (PacketHeaderCodec.meets_parse.result_ensured _ parsed).1
  refine Reports.silent_bind (Silent.require _) fun _ _ => ?_
  refine Reports.silent_bind (Silent.require _) fun _ _ => ?_
  refine Reports.silent_bind (silent_readWord _ _) fun cif0 _ => ?_
  refine Reports.silent_bind (silent_decodeFields _ _ _ _ _) fun fields _ => ?_
  rw [Nat.mul_comm, ← found.packetSize]
  exact Reports.assign_pure _

theorem result_decode_congr
    {other : ℕ}
    (covers : Covers memory order length)
    (otherCovers : Covers memory order other) :
    (decode length order : ByteScanner (DecodeResult D)).result memory =
      (decode other order).result memory := by
  simp only [decode, result_bind, result_require,
    PacketHeaderCodec.result_parse_congr covers otherCovers,
    if_pos covers.notShort, if_pos otherCovers.notShort]

end ContextPacket
end Vita49
end StarterCpp
