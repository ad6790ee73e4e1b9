import StarterCpp.Library.Collector
import StarterCpp.PubSub.BufferInvariant
import StarterCpp.PubSub.Fragmentation

/-!
# Reassembly refines collecting the fragments of a call

A datagram of a publish call finds either no entry for its message id, an entry
holding fragments of the same call, or an entry of some other call.  In the
first two cases `processFragment` acts on the entry as a collector acts on the
set of fragment numbers held, and its completion delivers the call's topic and
payload.  Entries of other message ids are never touched.
-/

namespace StarterCpp
namespace PubSub

namespace PublishCall

variable (call : PublishCall)

/-- The topic as the sixteen-bit length field of the header cuts it off. -/
def wireTopic : ByteString :=
  call.namespacedTopic.take (call.namespacedTopic.length % 65536)

/-- What the subscriber takes for payload: the topic bytes beyond the length
field, if any, and the serialized message. -/
def wirePayload : ByteString :=
  call.namespacedTopic.drop (call.namespacedTopic.length % 65536) ++
    call.serialized

/-- The delivery that the fragments of the call add up to. -/
def delivery : Delivery := ⟨call.wireTopic, call.wirePayload⟩

/-- The payload bytes that the subscriber stores for one fragment. -/
def content (fragNum : ℕ) : ByteString :=
  (if fragNum = 0 then
    call.namespacedTopic.drop (call.namespacedTopic.length % 65536) else []) ++
      call.piece fragNum

/-- The fragment numbers of the call. -/
def needed : Finset ℕ := Finset.range call.fragmentCount

/-- With a topic that the length field can hold, the delivery is the namespaced
topic and the serialized message. -/
theorem delivery_eq
    (short : call.namespacedTopic.length ≤ 65535) :
    call.delivery = ⟨call.namespacedTopic, call.serialized⟩ := by
  have exact_ : call.namespacedTopic.length % 65536 =
      call.namespacedTopic.length := Nat.mod_eq_of_lt (by omega)
  simp [delivery, wireTopic, wirePayload, exact_]

theorem flatten_content :
    ((List.range call.fragmentCount).map call.content).flatten =
      call.wirePayload := by
  have pieces := call.flatten_pieces
  rw [fragmentCount, List.range_succ_eq_map, List.map_cons,
    List.flatten_cons] at pieces ⊢
  rw [List.map_map] at pieces ⊢
  have later : (call.content ∘ Nat.succ) = (call.piece ∘ Nat.succ) := by
    funext fragNum
    simp [content]
  rw [later, wirePayload, ← pieces]
  simp [content]

/-! ## The header of a datagram -/

variable {call}

theorem ofBytes_datagram (fragNum : ℕ) :
    FragmentHeader.ofBytes (call.datagram fragNum) =
      Publisher.header call.messageId call.fragmentCount
        call.namespacedTopic.length fragNum :=
  FragmentHeader.ofBytes_toBytes_append _ _

@[simp] theorem messageId_datagram (fragNum : ℕ) :
    (FragmentHeader.ofBytes (call.datagram fragNum)).messageId =
      call.messageId := by
  rw [ofBytes_datagram]
  rfl

@[simp] theorem totalFragments_datagram (fragNum : ℕ) :
    (FragmentHeader.ofBytes (call.datagram fragNum)).totalFragments.toNat =
      call.fragmentCount := by
  have bound := call.fragmentCount_le
  rw [ofBytes_datagram]
  exact UInt16.toNat_ofNat_of_lt' (by simp [UInt16.size]; omega)

theorem fragmentNum_datagram
    {fragNum : ℕ}
    (inside : fragNum < call.fragmentCount) :
    (FragmentHeader.ofBytes (call.datagram fragNum)).fragmentNum.toNat =
      fragNum := by
  have bound := call.fragmentCount_le
  rw [ofBytes_datagram]
  exact UInt16.toNat_ofNat_of_lt' (by simp [UInt16.size]; omega)

theorem topicLen_datagram :
    (FragmentHeader.ofBytes (call.datagram 0)).topicLen.toNat =
      call.namespacedTopic.length % 65536 := by
  rw [ofBytes_datagram]
  exact UInt16.toNat_ofNat'

@[simp] theorem drop_datagram (fragNum : ℕ) :
    (call.datagram fragNum).drop FragmentHeader.size = call.body fragNum :=
  FragmentHeader.drop_toBytes_append _ _

theorem size_le_length_datagram (fragNum : ℕ) :
    FragmentHeader.size ≤ (call.datagram fragNum).length := by
  simp [datagram]

theorem length_datagram_sub (fragNum : ℕ) :
    (call.datagram fragNum).length - FragmentHeader.size =
      (call.body fragNum).length := by
  simp [datagram]

theorem topicLen_le_body :
    call.namespacedTopic.length % 65536 ≤ (call.body 0).length := by
  have cut := Nat.mod_le call.namespacedTopic.length 65536
  simp only [body, if_true, List.length_append]
  omega

theorem contentOf_datagram
    {fragNum : ℕ}
    (inside : fragNum < call.fragmentCount) :
    ReassemblyBuffer.contentOf (call.datagram fragNum) =
      call.content fragNum := by
  have cut := Nat.mod_le call.namespacedTopic.length 65536
  unfold ReassemblyBuffer.contentOf
  rw [fragmentNum_datagram inside, drop_datagram]
  cases fragNum with
  | zero =>
      rw [topicLen_datagram]
      simp [body, content, List.drop_append_of_le_length cut]
  | succ fragNum => simp [body, content]

theorem topicAfter_datagram
    {fragNum : ℕ}
    (inside : fragNum < call.fragmentCount)
    (entry : PartialMessage) :
    ReassemblyBuffer.topicAfter entry (call.datagram fragNum) =
      if fragNum = 0 then call.wireTopic else entry.topic := by
  have cut := Nat.mod_le call.namespacedTopic.length 65536
  unfold ReassemblyBuffer.topicAfter
  rw [fragmentNum_datagram inside, drop_datagram]
  cases fragNum with
  | zero =>
      rw [topicLen_datagram]
      simp [body, wireTopic, List.take_append_of_le_length cut]
  | succ fragNum => simp

/-! ## Entries that hold fragments of one call -/

/-- An entry holds exactly the given fragments of the call. -/
structure Holds
    (call : PublishCall) (entry : PartialMessage) (held : Finset ℕ) : Prop where
  totalFragments_eq : entry.totalFragments = call.fragmentCount
  received_eq : entry.receivedFragments = held
  fragments_eq : entry.fragments = (List.range call.fragmentCount).map
    fun fragNum => if fragNum ∈ held then call.content fragNum else []
  topic_eq : 0 ∈ held → entry.topic = call.wireTopic

/-- The buffer holds exactly the given fragments of the call: no entry when
there are none. -/
def Collected
    (call : PublishCall) (buffer : ReassemblyBuffer) (held : Finset ℕ) : Prop :=
  (held = ∅ ∧ buffer call.messageId = none) ∨
    (held.Nonempty ∧ ∃ entry, buffer call.messageId = some entry ∧
      call.Holds entry held)

/-- Filling one slot of a list of slots. -/
theorem set_map_range
    {count fragNum : ℕ}
    {held : Finset ℕ}
    (content : ℕ → ByteString) :
    ((List.range count).map fun number =>
        if number ∈ held then content number else []).set fragNum
          (content fragNum) =
      (List.range count).map fun number =>
        if number ∈ insert fragNum held then content number else [] := by
  apply List.ext_getElem
  · simp
  · intro number _ _
    rw [List.getElem_set]
    simp only [List.getElem_map, List.getElem_range, Finset.mem_insert]
    by_cases same : fragNum = number
    · simp [same]
    · simp [same, Ne.symm same]

/-- Storing a fragment of the call in an entry of the call. -/
theorem Holds.store
    {entry : PartialMessage}
    {held : Finset ℕ}
    (holds : call.Holds entry held)
    (fragNum : ℕ) :
    call.Holds
      (entry.store fragNum
        (if fragNum = 0 then call.wireTopic else entry.topic)
        (call.content fragNum))
      (insert fragNum held) := by
  refine ⟨holds.totalFragments_eq, ?_, ?_, ?_⟩
  · simp [PartialMessage.store, holds.received_eq]
  · simp only [PartialMessage.store, holds.fragments_eq]
    exact set_map_range call.content
  · intro first
    by_cases isFirst : fragNum = 0
    · simp [PartialMessage.store, isFirst]
    · have already : 0 ∈ held := by
        rcases Finset.mem_insert.mp first with zero | already
        · exact absurd zero.symm isFirst
        · exact already
      simp [PartialMessage.store, isFirst, holds.topic_eq already]

/-- An entry that holds every fragment of the call adds up to its delivery. -/
theorem Holds.delivery_eq
    {entry : PartialMessage}
    (holds : call.Holds entry call.needed) :
    (⟨entry.topic, entry.fragments.flatten⟩ : Delivery) = call.delivery := by
  have first : 0 ∈ call.needed :=
    Finset.mem_range.mpr call.fragmentCount_pos
  have slots : (List.range call.fragmentCount).map (fun fragNum =>
      if fragNum ∈ call.needed then call.content fragNum else []) =
        (List.range call.fragmentCount).map call.content := by
    apply List.map_congr_left
    intro fragNum member
    have inside : fragNum ∈ call.needed :=
      Finset.mem_range.mpr (List.mem_range.mp member)
    rw [if_pos inside]
  rw [holds.topic_eq first, holds.fragments_eq, slots, flatten_content]
  rfl

/-- What a datagram of the call meets in a buffer that holds fragments of the
call, if any. -/
theorem Collected.met_holds
    {buffer : ReassemblyBuffer}
    (valid : buffer.Valid)
    {held : Finset ℕ}
    (collected : call.Collected buffer held)
    (fragNum : ℕ)
    (now : Int) :
    call.Holds (buffer.met (call.datagram fragNum) now) held := by
  unfold ReassemblyBuffer.met
  rw [messageId_datagram, totalFragments_datagram]
  rcases collected with ⟨rfl, absent⟩ | ⟨_, entry, present, holds⟩
  · rw [ReassemblyBuffer.getOrCreate_of_none absent]
    refine ⟨rfl, rfl, ?_, by simp⟩
    simp [List.map_const']
  · rwa [ReassemblyBuffer.getOrCreate_of_some present (valid _ entry present)]

/-- The fragments held are fragments of the call. -/
theorem Collected.subset_needed
    {buffer : ReassemblyBuffer}
    (valid : buffer.Valid)
    {held : Finset ℕ}
    (collected : call.Collected buffer held) :
    held ⊆ call.needed := by
  rcases collected with ⟨rfl, _⟩ | ⟨_, entry, present, holds⟩
  · exact Finset.empty_subset _
  · intro number member
    have below := (valid _ entry present).received_lt number
      (holds.received_eq ▸ member)
    rw [holds.totalFragments_eq] at below
    exact Finset.mem_range.mpr below

/-- Processing a datagram of the call where the buffer holds only fragments of
the call is one step of the call's collector, and leaves the other ids alone. -/
theorem Collected.process
    {buffer : ReassemblyBuffer}
    (valid : buffer.Valid)
    {held : Finset ℕ}
    (collected : call.Collected buffer held)
    {fragNum : ℕ}
    (inside : fragNum < call.fragmentCount)
    (now : Int) :
    ∃ next,
      buffer.processFragment (call.datagram fragNum) now =
        .ok (next, if (Collector.step call.needed held (.arrive fragNum)).2
          then [call.delivery] else []) ∧
      call.Collected next
        (Collector.step call.needed held (.arrive fragNum)).1 ∧
      ∀ other, other ≠ call.messageId → next other = buffer other := by
  have holds := collected.met_holds valid fragNum now
  have agrees := holds.totalFragments_eq
  have received := holds.received_eq
  have subset := collected.subset_needed valid
  have effect :=
    ReassemblyBuffer.processFragment_effect valid (call.datagram fragNum) now
  generalize resultEq :
    buffer.processFragment (call.datagram fragNum) now = result at effect ⊢
  cases effect with
  | tooShort short =>
      exact absurd (size_le_length_datagram fragNum) (Nat.not_le.mpr short)
  | inconsistent _ differs =>
      rw [totalFragments_datagram] at differs
      exact absurd agrees differs
  | duplicate _ _ present =>
      rw [fragmentNum_datagram inside, received] at present
      rw [Collector.step_arrive_of_mem present]
      rw [messageId_datagram]
      exact ⟨_, rfl, Or.inr ⟨⟨fragNum, present⟩, _, Function.update_self _ _ _,
        holds⟩, fun other different => Function.update_of_ne different _ _⟩
  | topicTooLong _ first outside =>
      rw [fragmentNum_datagram inside] at first
      subst first
      rw [length_datagram_sub, topicLen_datagram] at outside
      exact absurd topicLen_le_body (Nat.not_le.mpr outside)
  | outOfRange _ outside =>
      rw [totalFragments_datagram, fragmentNum_datagram inside] at outside
      exact absurd inside (Nat.not_lt.mpr outside)
  | complete accepts _ last =>
      have missing := accepts.missing
      rw [fragmentNum_datagram inside, received] at missing
      rw [totalFragments_datagram, fragmentNum_datagram inside, received] at last
      have whole : insert fragNum held = call.needed := by
        apply Finset.eq_of_subset_of_card_le
        · exact Finset.insert_subset (Finset.mem_range.mpr inside) subset
        · rw [last, needed, Finset.card_range]
      have filled := holds.store fragNum
      rw [whole] at filled
      rw [Collector.step_arrive_last missing whole]
      refine ⟨Function.update buffer call.messageId none, ?_,
        Or.inl ⟨rfl, Function.update_self _ _ _⟩,
        fun other different => Function.update_of_ne different _ _⟩
      rw [topicAfter_datagram inside, fragmentNum_datagram inside,
        contentOf_datagram inside, messageId_datagram, if_pos rfl,
        ← filled.delivery_eq]
      rfl
  | stored accepts _ more =>
      have missing := accepts.missing
      rw [fragmentNum_datagram inside, received] at missing
      rw [totalFragments_datagram, fragmentNum_datagram inside, received] at more
      have partly : insert fragNum held ≠ call.needed := by
        intro whole
        apply more
        rw [whole, needed, Finset.card_range]
      have filled := holds.store fragNum
      rw [Collector.step_arrive_more missing partly]
      rw [topicAfter_datagram inside, fragmentNum_datagram inside,
        contentOf_datagram inside, messageId_datagram]
      exact ⟨_, rfl, Or.inr ⟨Finset.insert_nonempty fragNum held, _,
        Function.update_self _ _ _, filled⟩,
        fun other different => Function.update_of_ne different _ _⟩

/-- A datagram of a call erases an entry that expects another fragment count. -/
theorem process_inconsistent
    {buffer : ReassemblyBuffer}
    (valid : buffer.Valid)
    {entry : PartialMessage}
    (present : buffer call.messageId = some entry)
    (differs : entry.totalFragments ≠ call.fragmentCount)
    (fragNum : ℕ)
    (now : Int) :
    buffer.processFragment (call.datagram fragNum) now =
      .ok (Function.update buffer call.messageId none, []) := by
  have met : buffer.met (call.datagram fragNum) now = entry := by
    apply ReassemblyBuffer.met_of_some valid
    rwa [messageId_datagram]
  have effect :=
    ReassemblyBuffer.processFragment_effect valid (call.datagram fragNum) now
  generalize resultEq :
    buffer.processFragment (call.datagram fragNum) now = result at effect ⊢
  cases effect with
  | tooShort short =>
      exact absurd (size_le_length_datagram fragNum) (Nat.not_le.mpr short)
  | inconsistent _ _ => rw [messageId_datagram]
  | topicTooLong _ _ _ => rw [messageId_datagram]
  | duplicate _ agrees _ =>
      rw [met, totalFragments_datagram] at agrees
      exact absurd agrees differs
  | outOfRange accepts _ | complete accepts _ _ | stored accepts _ _ =>
      have agrees := accepts.agrees
      rw [met, totalFragments_datagram] at agrees
      exact absurd agrees differs

/-- A datagram of a call changes nothing when the entry of its id expects the
same count and has its fragment number. -/
theorem process_duplicate
    {buffer : ReassemblyBuffer}
    (valid : buffer.Valid)
    {entry : PartialMessage}
    (held : buffer call.messageId = some entry)
    (agrees : entry.totalFragments = call.fragmentCount)
    {fragNum : ℕ}
    (inside : fragNum < call.fragmentCount)
    (present : fragNum ∈ entry.receivedFragments)
    (now : Int) :
    buffer.processFragment (call.datagram fragNum) now = .ok (buffer, []) := by
  have met : buffer.met (call.datagram fragNum) now = entry := by
    apply ReassemblyBuffer.met_of_some valid
    rwa [messageId_datagram]
  have effect :=
    ReassemblyBuffer.processFragment_effect valid (call.datagram fragNum) now
  generalize resultEq :
    buffer.processFragment (call.datagram fragNum) now = result at effect ⊢
  cases effect with
  | tooShort short =>
      exact absurd (size_le_length_datagram fragNum) (Nat.not_le.mpr short)
  | inconsistent _ differs =>
      rw [met, totalFragments_datagram] at differs
      exact absurd agrees differs
  | duplicate _ _ _ =>
      rw [met, messageId_datagram, ← held, Function.update_eq_self]
  | topicTooLong _ first outside =>
      rw [fragmentNum_datagram inside] at first
      subst first
      rw [length_datagram_sub, topicLen_datagram] at outside
      exact absurd topicLen_le_body (Nat.not_le.mpr outside)
  | outOfRange accepts _ | complete accepts _ _ | stored accepts _ _ =>
      have missing := accepts.missing
      rw [met, fragmentNum_datagram inside] at missing
      exact absurd present missing

/-- The fragments that a cleanup leaves of those the buffer holds of a call. -/
theorem Collected.cleanup
    {buffer : ReassemblyBuffer}
    {held : Finset ℕ}
    (collected : call.Collected buffer held)
    (reassemblyTimeoutMs now : Int) :
    call.Collected (buffer.cleanupStaleMessages reassemblyTimeoutMs now) held ∨
      call.Collected (buffer.cleanupStaleMessages reassemblyTimeoutMs now) ∅ := by
  rcases collected with ⟨rfl, absent⟩ | ⟨nonempty, entry, present, holds⟩
  · exact Or.inl (Or.inl ⟨rfl, by simp [ReassemblyBuffer.cleanupStaleMessages,
      absent]⟩)
  · by_cases stale :
        reassemblyTimeoutMs < elapsedMs now entry.firstFragmentTime
    · exact Or.inr (Or.inl ⟨rfl, by
        simp [ReassemblyBuffer.cleanupStaleMessages, present, stale]⟩)
    · exact Or.inl (Or.inr ⟨nonempty, entry, by
        simp [ReassemblyBuffer.cleanupStaleMessages, present, stale], holds⟩)

/-- Fragments held of a call depend only on the entry of its message id. -/
theorem Collected.congr
    {buffer other : ReassemblyBuffer}
    {held : Finset ℕ}
    (collected : call.Collected buffer held)
    (same : other call.messageId = buffer call.messageId) :
    call.Collected other held := by
  unfold Collected
  rwa [same]

end PublishCall

/-- Processing a datagram touches only the entry of its message id. -/
theorem ReassemblyBuffer.processFragment_frame
    {buffer next : ReassemblyBuffer}
    (valid : buffer.Valid)
    {data : ByteString}
    {now : Int}
    {deliveries : List Delivery}
    (processed : buffer.processFragment data now = .ok (next, deliveries))
    {other : UInt32}
    (different : other ≠ (FragmentHeader.ofBytes data).messageId) :
    next other = buffer other := by
  have effect := processFragment_effect valid data now
  rw [processed] at effect
  cases effect with
  | tooShort _ => rfl
  | inconsistent _ _ | duplicate _ _ _ | topicTooLong _ _ _ | complete _ _ _
  | stored _ _ _ => exact Function.update_of_ne different _ _

end PubSub
end StarterCpp
