import StarterCpp.PubSub.Subscriber
import Mathlib.Data.Finset.Range

/-!
# The representation invariant of the reassembly buffer

Every entry has one slot per expected fragment, has received only fragments it
has a slot for, and is incomplete.  On arbitrary input the invariant survives
exactly as long as no datagram reaches the unguarded write to
`PartialMessage::fragments` with a fragment number at or beyond its own count.
-/

namespace StarterCpp
namespace PubSub

/-- The representation invariant of one buffer entry. -/
structure PartialMessage.Valid (entry : PartialMessage) : Prop where
  fragments_length : entry.fragments.length = entry.totalFragments
  received_lt : ∀ fragNum ∈ entry.receivedFragments,
    fragNum < entry.totalFragments
  incomplete : entry.receivedFragments.card < entry.totalFragments

/-- An entry with one more fragment stored. -/
def PartialMessage.store
    (entry : PartialMessage)
    (fragNum : ℕ)
    (topic content : ByteString) : PartialMessage :=
  { entry with
    topic := topic
    fragments := entry.fragments.set fragNum content
    receivedFragments := insert fragNum entry.receivedFragments }

namespace ReassemblyBuffer

/-- Every entry of the buffer satisfies the representation invariant. -/
def Valid (partialMessages : ReassemblyBuffer) : Prop :=
  ∀ messageId entry, partialMessages messageId = some entry → entry.Valid

theorem empty_valid : empty.Valid := by
  intro messageId entry found
  simp [empty] at found

theorem update_none_valid
    {partialMessages : ReassemblyBuffer}
    (valid : partialMessages.Valid)
    (messageId : UInt32) :
    Valid (Function.update partialMessages messageId none) := by
  intro other entry found
  by_cases same : other = messageId
  · subst same
    simp at found
  · rw [Function.update_of_ne same] at found
    exact valid other entry found

theorem update_some_valid
    {partialMessages : ReassemblyBuffer}
    (valid : partialMessages.Valid)
    (messageId : UInt32)
    {entry : PartialMessage}
    (entryValid : entry.Valid) :
    Valid (Function.update partialMessages messageId (some entry)) := by
  intro other found foundAt
  by_cases same : other = messageId
  · subst same
    rw [Function.update_self, Option.some.injEq] at foundAt
    exact foundAt ▸ entryValid
  · rw [Function.update_of_ne same] at foundAt
    exact valid other found foundAt

/-- A cleanup invents no entries. -/
theorem some_of_cleanupStaleMessages
    {partialMessages : ReassemblyBuffer}
    {reassemblyTimeoutMs now : Int}
    {messageId : UInt32}
    {entry : PartialMessage}
    (found : partialMessages.cleanupStaleMessages reassemblyTimeoutMs now
      messageId = some entry) :
    partialMessages messageId = some entry := by
  unfold cleanupStaleMessages at found
  cases held : partialMessages messageId with
  | none => simp [held] at found
  | some kept =>
      simp only [held, Option.ite_none_left_eq_some] at found
      exact found.2

theorem cleanupStaleMessages_valid
    {partialMessages : ReassemblyBuffer}
    (valid : partialMessages.Valid)
    (reassemblyTimeoutMs now : Int) :
    (partialMessages.cleanupStaleMessages reassemblyTimeoutMs now).Valid := by
  intro messageId entry found
  exact valid messageId entry (some_of_cleanupStaleMessages found)

/-! ## The entry a datagram meets -/

/-- An entry that is ready for one more fragment of a message of the given
count. -/
structure Ready (entry : PartialMessage) (totalFrags : ℕ) : Prop where
  totalFragments_eq : entry.totalFragments = totalFrags
  fragments_length : entry.fragments.length = totalFrags
  received_lt : ∀ fragNum ∈ entry.receivedFragments, fragNum < totalFrags

theorem getOrCreate_of_none
    {partialMessages : ReassemblyBuffer}
    {messageId : UInt32}
    (absent : partialMessages messageId = none)
    (totalFrags : ℕ)
    (now : Int) :
    partialMessages.getOrCreate messageId totalFrags now =
      ⟨[], List.replicate totalFrags [], ∅, totalFrags, now⟩ := by
  simp [getOrCreate, absent, PartialMessage.initial]

theorem getOrCreate_of_some
    {partialMessages : ReassemblyBuffer}
    {messageId : UInt32}
    {entry : PartialMessage}
    (held : partialMessages messageId = some entry)
    (valid : entry.Valid)
    (totalFrags : ℕ)
    (now : Int) :
    partialMessages.getOrCreate messageId totalFrags now = entry := by
  have slots : entry.fragments ≠ [] := by
    intro none
    have length := valid.fragments_length
    have incomplete := valid.incomplete
    rw [none, List.length_nil] at length
    omega
  simp [getOrCreate, held, slots]

/-- In a valid buffer the entry a datagram meets either counts differently or is
ready for the datagram. -/
theorem getOrCreate_ready
    {partialMessages : ReassemblyBuffer}
    (valid : partialMessages.Valid)
    {messageId : UInt32}
    {totalFrags : ℕ}
    {now : Int}
    (agrees : (partialMessages.getOrCreate messageId totalFrags
      now).totalFragments = totalFrags) :
    Ready (partialMessages.getOrCreate messageId totalFrags now) totalFrags := by
  cases held : partialMessages messageId with
  | none =>
      rw [getOrCreate_of_none held]
      exact ⟨rfl, List.length_replicate, by simp⟩
  | some entry =>
      have entryValid := valid messageId entry held
      rw [getOrCreate_of_some held entryValid] at agrees ⊢
      exact ⟨agrees, agrees ▸ entryValid.fragments_length,
        agrees ▸ entryValid.received_lt⟩

/-- An extended entry that is still incomplete is valid. -/
theorem Ready.store_valid
    {entry : PartialMessage}
    {fragNum totalFrags : ℕ}
    (ready : Ready entry totalFrags)
    (inside : fragNum < totalFrags)
    (incomplete : (insert fragNum entry.receivedFragments).card ≠ totalFrags)
    (topic content : ByteString) :
    (entry.store fragNum topic content).Valid := by
  have receivedBelow : ∀ number ∈ insert fragNum entry.receivedFragments,
      number < totalFrags := by
    intro number member
    rcases Finset.mem_insert.mp member with rfl | already
    · exact inside
    · exact ready.received_lt number already
  have subset : insert fragNum entry.receivedFragments ⊆
      Finset.range totalFrags := fun number member =>
    Finset.mem_range.mpr (receivedBelow number member)
  have cardLe := Finset.card_le_card subset
  rw [Finset.card_range] at cardLe
  refine ⟨?_, ?_, ?_⟩
  · simp [PartialMessage.store, ready.fragments_length, ready.totalFragments_eq]
  · simpa only [PartialMessage.store, ready.totalFragments_eq] using receivedBelow
  · simp only [PartialMessage.store, ready.totalFragments_eq]
    omega

/-- The entry a datagram meets expects another count exactly when the buffer
holds such an entry. -/
theorem getOrCreate_differs_iff
    {partialMessages : ReassemblyBuffer}
    (valid : partialMessages.Valid)
    (messageId : UInt32)
    (totalFrags : ℕ)
    (now : Int) :
    (partialMessages.getOrCreate messageId totalFrags now).totalFragments ≠
        totalFrags ↔
      ∃ entry, partialMessages messageId = some entry ∧
        entry.totalFragments ≠ totalFrags := by
  cases held : partialMessages messageId with
  | none => simp [getOrCreate_of_none held]
  | some entry =>
      simp [getOrCreate_of_some held (valid messageId entry held)]

/-- An entry that already holds some fragment was in the buffer. -/
theorem getOrCreate_valid_of_mem
    {partialMessages : ReassemblyBuffer}
    (valid : partialMessages.Valid)
    {messageId : UInt32}
    {totalFrags fragNum : ℕ}
    {now : Int}
    (present : fragNum ∈
      (partialMessages.getOrCreate messageId totalFrags now).receivedFragments) :
    (partialMessages.getOrCreate messageId totalFrags now).Valid := by
  cases held : partialMessages messageId with
  | none =>
      rw [getOrCreate_of_none held] at present
      simp at present
  | some entry =>
      have entryValid := valid messageId entry held
      rwa [getOrCreate_of_some held entryValid]

/-! ## What one datagram does -/

/-- The entry that a datagram meets. -/
def met (partialMessages : ReassemblyBuffer) (data : ByteString) (now : Int) :
    PartialMessage :=
  partialMessages.getOrCreate (FragmentHeader.ofBytes data).messageId
    (FragmentHeader.ofBytes data).totalFragments.toNat now

/-- A datagram meets the entry of its message. -/
theorem met_of_some
    {partialMessages : ReassemblyBuffer}
    (valid : partialMessages.Valid)
    {data : ByteString}
    {entry : PartialMessage}
    (found : partialMessages (FragmentHeader.ofBytes data).messageId = some entry)
    (now : Int) :
    partialMessages.met data now = entry := by
  rw [met, getOrCreate_of_some found (valid _ entry found)]

/-- The entry that a datagram meets is in the buffer if it holds a fragment. -/
theorem found_of_mem_met
    {partialMessages : ReassemblyBuffer}
    (valid : partialMessages.Valid)
    {data : ByteString}
    {now : Int}
    {fragNum : ℕ}
    (received : fragNum ∈ (partialMessages.met data now).receivedFragments) :
    partialMessages (FragmentHeader.ofBytes data).messageId =
      some (partialMessages.met data now) := by
  cases found : partialMessages (FragmentHeader.ofBytes data).messageId with
  | none =>
      rw [met, getOrCreate_of_none found] at received
      simp at received
  | some entry => rw [met_of_some valid found]

/-- The topic of an entry after a datagram is stored in it. -/
def topicAfter (entry : PartialMessage) (data : ByteString) : ByteString :=
  if (FragmentHeader.ofBytes data).fragmentNum.toNat = 0 then
    (data.drop FragmentHeader.size).take
      (FragmentHeader.ofBytes data).topicLen.toNat
  else entry.topic

/-- The payload that a datagram stores. -/
def contentOf (data : ByteString) : ByteString :=
  if (FragmentHeader.ofBytes data).fragmentNum.toNat = 0 then
    (data.drop FragmentHeader.size).drop
      (FragmentHeader.ofBytes data).topicLen.toNat
  else data.drop FragmentHeader.size

/-- The entry that a datagram meets agrees with it and lacks its fragment, and
its topic is inside its payload. -/
structure Accepts
    (partialMessages : ReassemblyBuffer) (data : ByteString) (now : Int) :
    Prop where
  long : FragmentHeader.size ≤ data.length
  agrees : (partialMessages.met data now).totalFragments =
    (FragmentHeader.ofBytes data).totalFragments.toNat
  missing : (FragmentHeader.ofBytes data).fragmentNum.toNat ∉
    (partialMessages.met data now).receivedFragments
  topicFits : (FragmentHeader.ofBytes data).fragmentNum.toNat = 0 →
    (FragmentHeader.ofBytes data).topicLen.toNat ≤
      data.length - FragmentHeader.size

/-- The effects `processFragment` can have, one constructor per exit. -/
inductive Effect
    (partialMessages : ReassemblyBuffer) (data : ByteString) (now : Int) :
    Except MemoryFault (ReassemblyBuffer × List Delivery) → Prop
  | tooShort (short : data.length < FragmentHeader.size) :
      Effect partialMessages data now (.ok (partialMessages, []))
  | inconsistent
      (long : FragmentHeader.size ≤ data.length)
      (differs : (partialMessages.met data now).totalFragments ≠
        (FragmentHeader.ofBytes data).totalFragments.toNat) :
      Effect partialMessages data now
        (.ok (Function.update partialMessages
          (FragmentHeader.ofBytes data).messageId none, []))
  | duplicate
      (long : FragmentHeader.size ≤ data.length)
      (agrees : (partialMessages.met data now).totalFragments =
        (FragmentHeader.ofBytes data).totalFragments.toNat)
      (present : (FragmentHeader.ofBytes data).fragmentNum.toNat ∈
        (partialMessages.met data now).receivedFragments) :
      Effect partialMessages data now
        (.ok (Function.update partialMessages
          (FragmentHeader.ofBytes data).messageId
          (some (partialMessages.met data now)), []))
  | topicTooLong
      (long : FragmentHeader.size ≤ data.length)
      (first : (FragmentHeader.ofBytes data).fragmentNum.toNat = 0)
      (outside : data.length - FragmentHeader.size <
        (FragmentHeader.ofBytes data).topicLen.toNat) :
      Effect partialMessages data now
        (.ok (Function.update partialMessages
          (FragmentHeader.ofBytes data).messageId none, []))
  | outOfRange
      (accepts : partialMessages.Accepts data now)
      (outside : (FragmentHeader.ofBytes data).totalFragments.toNat ≤
        (FragmentHeader.ofBytes data).fragmentNum.toNat) :
      Effect partialMessages data now (.error .outOfRange)
  | complete
      (accepts : partialMessages.Accepts data now)
      (inside : (FragmentHeader.ofBytes data).fragmentNum.toNat <
        (FragmentHeader.ofBytes data).totalFragments.toNat)
      (last : (insert (FragmentHeader.ofBytes data).fragmentNum.toNat
          (partialMessages.met data now).receivedFragments).card =
        (FragmentHeader.ofBytes data).totalFragments.toNat) :
      Effect partialMessages data now
        (.ok (Function.update partialMessages
          (FragmentHeader.ofBytes data).messageId none,
          [⟨topicAfter (partialMessages.met data now) data,
            ((partialMessages.met data now).fragments.set
              (FragmentHeader.ofBytes data).fragmentNum.toNat
              (contentOf data)).flatten⟩]))
  | stored
      (accepts : partialMessages.Accepts data now)
      (inside : (FragmentHeader.ofBytes data).fragmentNum.toNat <
        (FragmentHeader.ofBytes data).totalFragments.toNat)
      (more : (insert (FragmentHeader.ofBytes data).fragmentNum.toNat
          (partialMessages.met data now).receivedFragments).card ≠
        (FragmentHeader.ofBytes data).totalFragments.toNat) :
      Effect partialMessages data now
        (.ok (Function.update partialMessages
          (FragmentHeader.ofBytes data).messageId
          (some ((partialMessages.met data now).store
            (FragmentHeader.ofBytes data).fragmentNum.toNat
            (topicAfter (partialMessages.met data now) data)
            (contentOf data))), []))

/-- The store of an accepted fragment has one of the last three effects. -/
theorem storeFragment_effect
    {partialMessages : ReassemblyBuffer}
    (valid : partialMessages.Valid)
    {data : ByteString}
    {now : Int}
    (accepts : partialMessages.Accepts data now) :
    Effect partialMessages data now
      (partialMessages.storeFragment (FragmentHeader.ofBytes data).messageId
        { partialMessages.met data now with
          topic := topicAfter (partialMessages.met data now) data }
        (FragmentHeader.ofBytes data).fragmentNum.toNat
        (FragmentHeader.ofBytes data).totalFragments.toNat
        (contentOf data)) := by
  have slots := (getOrCreate_ready valid accepts.agrees).fragments_length
  change (partialMessages.met data now).fragments.length = _ at slots
  unfold storeFragment
  simp only [slots]
  split_ifs with inside last
  · exact .complete accepts inside last
  · exact .stored accepts inside last
  · exact .outOfRange accepts (Nat.le_of_not_lt inside)

/-- On a valid buffer, `processFragment` has one of the listed effects. -/
theorem processFragment_effect
    {partialMessages : ReassemblyBuffer}
    (valid : partialMessages.Valid)
    (data : ByteString)
    (now : Int) :
    Effect partialMessages data now
      (partialMessages.processFragment data now) := by
  unfold processFragment
  by_cases short : data.length < FragmentHeader.size
  · rw [if_pos short]
    exact .tooShort short
  have long := Nat.le_of_not_lt short
  rw [if_neg short]
  dsimp only
  rw [show partialMessages.getOrCreate _ _ now =
    partialMessages.met data now from rfl]
  by_cases differs : (partialMessages.met data now).totalFragments ≠
      (FragmentHeader.ofBytes data).totalFragments.toNat
  · rw [if_pos differs]
    exact .inconsistent long differs
  have agrees := not_not.mp differs
  rw [if_neg differs]
  by_cases present : (FragmentHeader.ofBytes data).fragmentNum.toNat ∈
      (partialMessages.met data now).receivedFragments
  · rw [if_pos present]
    exact .duplicate long agrees present
  rw [if_neg present]
  by_cases first : (FragmentHeader.ofBytes data).fragmentNum.toNat = 0
  · rw [if_pos first, List.length_drop]
    by_cases outside : data.length - FragmentHeader.size <
        (FragmentHeader.ofBytes data).topicLen.toNat
    · rw [if_pos outside]
      exact .topicTooLong long first outside
    · have accepts : partialMessages.Accepts data now :=
        ⟨long, agrees, present, fun _ => Nat.le_of_not_lt outside⟩
      have effect := storeFragment_effect valid accepts
      simp only [topicAfter, contentOf, if_pos first] at effect
      rw [if_neg outside]
      rw [first] at effect
      exact effect
  · have accepts : partialMessages.Accepts data now :=
      ⟨long, agrees, present, fun isFirst => absurd isFirst first⟩
    have effect := storeFragment_effect valid accepts
    simp only [topicAfter, contentOf, if_neg first] at effect
    rw [if_neg first]
    exact effect

/-- Processing a datagram keeps a valid buffer valid. -/
theorem processFragment_valid
    {partialMessages next : ReassemblyBuffer}
    (valid : partialMessages.Valid)
    {data : ByteString}
    {now : Int}
    {deliveries : List Delivery}
    (processed : partialMessages.processFragment data now =
      .ok (next, deliveries)) :
    next.Valid := by
  have effect := processFragment_effect valid data now
  rw [processed] at effect
  cases effect with
  | tooShort _ => exact valid
  | inconsistent _ _ => exact update_none_valid valid _
  | duplicate _ _ present =>
      exact update_some_valid valid _ (getOrCreate_valid_of_mem valid present)
  | topicTooLong _ _ _ => exact update_none_valid valid _
  | complete _ _ _ => exact update_none_valid valid _
  | stored accepts inside more =>
      have ready := getOrCreate_ready valid accepts.agrees
      exact update_some_valid valid _ (ready.store_valid inside more _ _)

/-- An accepted datagram that completes its message brings the last of the
fragment numbers. -/
theorem Accepts.received_eq_range
    {partialMessages : ReassemblyBuffer}
    (valid : partialMessages.Valid)
    {data : ByteString}
    {now : Int}
    (accepts : partialMessages.Accepts data now)
    (inside : (FragmentHeader.ofBytes data).fragmentNum.toNat <
      (FragmentHeader.ofBytes data).totalFragments.toNat)
    (last : (insert (FragmentHeader.ofBytes data).fragmentNum.toNat
        (partialMessages.met data now).receivedFragments).card =
      (FragmentHeader.ofBytes data).totalFragments.toNat) :
    insert (FragmentHeader.ofBytes data).fragmentNum.toNat
        (partialMessages.met data now).receivedFragments =
      Finset.range (FragmentHeader.ofBytes data).totalFragments.toNat := by
  have ready := getOrCreate_ready valid accepts.agrees
  have subset : insert (FragmentHeader.ofBytes data).fragmentNum.toNat
      (partialMessages.met data now).receivedFragments ⊆
        Finset.range (FragmentHeader.ofBytes data).totalFragments.toNat := by
    intro number received
    rcases Finset.mem_insert.mp received with rfl | already
    · exact Finset.mem_range.mpr inside
    · exact Finset.mem_range.mpr (ready.received_lt number already)
  exact Finset.eq_of_subset_of_card_le subset (by rw [last, Finset.card_range])

/-! ## When a datagram stays in range -/

/-- A datagram does not reach the unguarded write out of range: it is too short
to be a fragment, its number is below its count, the entry of its id expects
another count, or its topic is longer than its payload. -/
def StoresInRange (partialMessages : ReassemblyBuffer) (data : ByteString) :
    Prop :=
  let header := FragmentHeader.ofBytes data
  data.length < FragmentHeader.size ∨
    header.fragmentNum.toNat < header.totalFragments.toNat ∨
    (∃ entry, partialMessages header.messageId = some entry ∧
      entry.totalFragments ≠ header.totalFragments.toNat) ∨
    (header.fragmentNum.toNat = 0 ∧
      data.length - FragmentHeader.size < header.topicLen.toNat)

/-- On a valid buffer, processing a datagram is defined exactly when it stays in
range. -/
theorem processFragment_ok_iff
    {partialMessages : ReassemblyBuffer}
    (valid : partialMessages.Valid)
    (data : ByteString)
    (now : Int) :
    (∃ result, partialMessages.processFragment data now = .ok result) ↔
      partialMessages.StoresInRange data := by
  have differs_iff := getOrCreate_differs_iff valid
    (FragmentHeader.ofBytes data).messageId
    (FragmentHeader.ofBytes data).totalFragments.toNat now
  have effect := processFragment_effect valid data now
  generalize partialMessages.processFragment data now = result at effect
  cases effect with
  | tooShort short => exact ⟨fun _ => Or.inl short, fun _ => ⟨_, rfl⟩⟩
  | inconsistent _ differs =>
      exact ⟨fun _ => Or.inr (Or.inr (Or.inl (differs_iff.mp differs))),
        fun _ => ⟨_, rfl⟩⟩
  | duplicate _ agrees present =>
      have entryValid := getOrCreate_valid_of_mem valid present
      have inside := entryValid.received_lt _ present
      change _ < (partialMessages.met data now).totalFragments at inside
      rw [agrees] at inside
      exact ⟨fun _ => Or.inr (Or.inl inside), fun _ => ⟨_, rfl⟩⟩
  | topicTooLong _ first outside =>
      exact ⟨fun _ => Or.inr (Or.inr (Or.inr ⟨first, outside⟩)),
        fun _ => ⟨_, rfl⟩⟩
  | complete _ inside _ =>
      exact ⟨fun _ => Or.inr (Or.inl inside), fun _ => ⟨_, rfl⟩⟩
  | stored _ inside _ =>
      exact ⟨fun _ => Or.inr (Or.inl inside), fun _ => ⟨_, rfl⟩⟩
  | outOfRange accepts outside =>
      refine ⟨fun defined => by simp at defined, fun inRange => ?_⟩
      rcases inRange with short | inside | differs | ⟨first, topicLong⟩
      · exact absurd accepts.long (Nat.not_le.mpr short)
      · exact absurd outside (Nat.not_le.mpr inside)
      · exact absurd accepts.agrees (differs_iff.mpr differs)
      · exact absurd (accepts.topicFits first) (Nat.not_le.mpr topicLong)

end ReassemblyBuffer

/-! ## Runs on arbitrary input -/

/-- Along a run from the empty buffer nothing is accessed out of range, and every
buffer reached satisfies the representation invariant. -/
def SafeRun (reassemblyTimeoutMs : Int) (events : List BufferEvent) : Prop :=
  ∀ early, early <+: events →
    ∃ buffer deliveries,
      run (ReassemblyBuffer.step reassemblyTimeoutMs) ReassemblyBuffer.empty
          early = .ok (buffer, deliveries) ∧
        buffer.Valid

/-- An event that does not write out of range. -/
def ReassemblyBuffer.EventInRange (partialMessages : ReassemblyBuffer) :
    BufferEvent → Prop
  | .datagram data _ => partialMessages.StoresInRange data
  | .cleanup _ => True

namespace ReassemblyBuffer

/-- On a valid buffer an event is defined exactly when it stays in range. -/
theorem step_ok_iff
    {partialMessages : ReassemblyBuffer}
    (valid : partialMessages.Valid)
    (reassemblyTimeoutMs : Int)
    (event : BufferEvent) :
    (∃ result, partialMessages.step reassemblyTimeoutMs event = .ok result) ↔
      partialMessages.EventInRange event := by
  cases event with
  | datagram data now => exact processFragment_ok_iff valid data now
  | cleanup now => exact ⟨fun _ => trivial, fun _ => ⟨_, rfl⟩⟩

/-- An event that is defined keeps a valid buffer valid. -/
theorem step_valid
    {partialMessages next : ReassemblyBuffer}
    (valid : partialMessages.Valid)
    {reassemblyTimeoutMs : Int}
    {event : BufferEvent}
    {deliveries : List Delivery}
    (stepped : partialMessages.step reassemblyTimeoutMs event =
      .ok (next, deliveries)) :
    next.Valid := by
  cases event with
  | datagram data now => exact processFragment_valid valid stepped
  | cleanup now =>
      rw [step, Except.ok.injEq, Prod.mk.injEq] at stepped
      exact stepped.1 ▸ cleanupStaleMessages_valid valid reassemblyTimeoutMs now

end ReassemblyBuffer

/-- A run on arbitrary input is safe exactly when every datagram it processes
stays in range of the entry that it meets. -/
theorem safeRun_iff_eventsInRange
    (reassemblyTimeoutMs : Int)
    (events : List BufferEvent) :
    SafeRun reassemblyTimeoutMs events ↔
      EachStep (ReassemblyBuffer.step reassemblyTimeoutMs)
        ReassemblyBuffer.EventInRange ReassemblyBuffer.empty events := by
  constructor
  · intro safe
    obtain ⟨buffer, deliveries, ran, _⟩ := safe events (List.prefix_refl events)
    refine Run.eachStep_of_run_ok ?_ ReassemblyBuffer.empty_valid ran
    intro partialMessages event next emitted valid stepped
    exact ⟨(ReassemblyBuffer.step_ok_iff valid reassemblyTimeoutMs event).mp
      ⟨_, stepped⟩, ReassemblyBuffer.step_valid valid stepped⟩
  · rintro inRange early ⟨rest, rfl⟩
    have stepOk : ∀ partialMessages event,
        ReassemblyBuffer.Valid partialMessages →
        partialMessages.EventInRange event →
        ∃ next emitted,
          partialMessages.step reassemblyTimeoutMs event = .ok (next, emitted) ∧
            next.Valid ∧ ∀ delivery ∈ emitted, True := by
      intro partialMessages event valid stays
      obtain ⟨⟨next, emitted⟩, stepped⟩ :=
        (ReassemblyBuffer.step_ok_iff valid reassemblyTimeoutMs event).mpr stays
      exact ⟨next, emitted, stepped, ReassemblyBuffer.step_valid valid stepped,
        fun _ _ => trivial⟩
    obtain ⟨buffer, deliveries, ran, valid, _⟩ :=
      Run.run_ok_of_eachStep stepOk ReassemblyBuffer.empty_valid
        (EachStep.of_append inRange)
    exact ⟨buffer, deliveries, ran, valid⟩

/-- One twelve-byte datagram that numbers its only fragment five leaves the
slots of the entry it creates. -/
theorem safeRun_stray_fragment :
    ¬SafeRun 1000
      [.datagram [0, 0, 0, 0, 5, 0, 1, 0, 0, 0, 0, 0] 0] := by
  intro safe
  obtain ⟨buffer, deliveries, ran, _⟩ := safe _ (List.prefix_refl _)
  have faulted : run (ReassemblyBuffer.step 1000) ReassemblyBuffer.empty
      [.datagram [0, 0, 0, 0, 5, 0, 1, 0, 0, 0, 0, 0] 0] =
        .error .outOfRange := by
    rfl
  rw [faulted] at ran
  exact absurd ran (by simp)

end PubSub
end StarterCpp
