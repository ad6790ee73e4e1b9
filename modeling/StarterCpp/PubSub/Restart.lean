import StarterCpp.PubSub.ReceiveLoop
import StarterCpp.PubSub.SubscriberSocket

/-!
# Incomplete messages across a stop

The reassembly buffer is a member of the subscriber, and neither `stop` nor
`start` touches it.  A traced subscriber counts the starts that began receiving
and remembers, for every fragment it stores, the one that the fragment arrived
after.  Messages are assembled only from datagrams since the last such start
exactly in the runs in which every such start finds the buffer empty.
-/

namespace StarterCpp
namespace PubSub

/-- A call on a subscriber, or what its receive thread does between calls. -/
inductive SessionEvent
  | call (made : ControlCall)
  | received (data : ByteString) (now : Int)
  | cleanup (now : Int)

namespace SessionEvent

/-- The datagrams are sent by publish calls of well-formed publishers. -/
def FromPublisher : SessionEvent → Prop
  | .received data _ => ∃ messageId, SentByCall data messageId
  | _ => True

/-- The event is one of the receive thread. -/
def Receives : SessionEvent → Prop
  | .call _ => False
  | _ => True

end SessionEvent

/-- A delivery with the session that each of its fragments was received in, and
the one it is made in. -/
structure SessionDelivery where
  delivery : Delivery
  sessions : List ℕ
  current : ℕ
  deriving DecidableEq, Repr

/-- The delivery is assembled from datagrams of the session it is made in. -/
def SessionDelivery.Fresh (self : SessionDelivery) : Prop :=
  ∀ session ∈ self.sessions, session = self.current

/-- A subscriber that counts the starts that began receiving, its sessions, and
remembers the session in which it stored each fragment of each message id. -/
structure TracedSubscriber where
  control : SubscriberControl
  partialMessages : ReassemblyBuffer
  session : ℕ
  storedIn : UInt32 → ℕ → ℕ

namespace TracedSubscriber

/-- The subscriber as constructed. -/
def create : TracedSubscriber where
  control := SubscriberControl.create
  partialMessages := ReassemblyBuffer.empty
  session := 0
  storedIn := fun _ _ => 0

/-- The sessions of the stored fragments after a datagram: a fragment that the
entry of its id lacks is stored in the current one. -/
def storedInAfter (self : TracedSubscriber) (data : ByteString) (now : Int) :
    UInt32 → ℕ → ℕ :=
  let header := FragmentHeader.ofBytes data
  let fragNum := header.fragmentNum.toNat
  if data.length < FragmentHeader.size ∨
      fragNum ∈ (self.partialMessages.met data now).receivedFragments then
    self.storedIn
  else
    Function.update self.storedIn header.messageId
      (Function.update (self.storedIn header.messageId) fragNum self.session)

/-- The sessions of all fragments of the message that a datagram belongs to. -/
def sessionsAfter (self : TracedSubscriber) (data : ByteString) (now : Int) :
    List ℕ :=
  let header := FragmentHeader.ofBytes data
  (List.range header.totalFragments.toNat).map
    (self.storedInAfter data now header.messageId)

/-- One event; the receive thread exists only while the subscriber runs. -/
def step (reassemblyTimeoutMs : Int) (self : TracedSubscriber) :
    SessionEvent → Except MemoryFault (TracedSubscriber × List SessionDelivery)
  | .call (.start attempt) =>
      let outcome := self.control.start attempt
      .ok ({ self with
        control := outcome.control
        session := if outcome.returned && !self.control.running then
          self.session + 1 else self.session }, [])
  | .call .stop => .ok ({ self with control := self.control.stop }, [])
  | .received data now =>
      if self.control.running then
        match self.partialMessages.processFragment data now with
        | .error fault => .error fault
        | .ok (next, deliveries) =>
            .ok ({ self with
              partialMessages := next
              storedIn := self.storedInAfter data now },
              deliveries.map fun delivery =>
                ⟨delivery, self.sessionsAfter data now, self.session⟩)
      else .ok (self, [])
  | .cleanup now =>
      if self.control.running then
        .ok ({ self with
          partialMessages := self.partialMessages.cleanupStaleMessages
            reassemblyTimeoutMs now }, [])
      else .ok (self, [])

/-- A start that begins a session finds no incomplete message. -/
def StartsEmpty (self : TracedSubscriber) : SessionEvent → Prop
  | .call (.start attempt) =>
      self.control.running = false →
        (self.control.start attempt).returned = true →
          self.partialMessages = ReassemblyBuffer.empty
  | _ => True

/-- Whatever publishers send after any prefix of the events, every delivery is
assembled from datagrams of the session it is made in. -/
def DiscardsIncomplete
    (reassemblyTimeoutMs : Int) (events : List SessionEvent) : Prop :=
  ∀ early, early <+: events →
    ∀ later : List SessionEvent,
      (∀ event ∈ later, event.FromPublisher ∧ event.Receives) →
      ∃ final outputs,
        run (step reassemblyTimeoutMs) create (early ++ later) =
          .ok (final, outputs) ∧
            ∀ output ∈ outputs, output.Fresh

variable {self : TracedSubscriber} {reassemblyTimeoutMs : Int}

/-- Nothing is received by a subscriber that does not run. -/
theorem step_of_stopped
    (stopped : self.control.running = false)
    {event : SessionEvent}
    (receives : event.Receives) :
    self.step reassemblyTimeoutMs event = .ok (self, []) := by
  cases event with
  | call made => exact receives.elim
  | received data now =>
      exact if_neg (Bool.eq_false_iff.mp stopped)
  | cleanup now => exact if_neg (Bool.eq_false_iff.mp stopped)

theorem step_received
    (running : self.control.running = true)
    {data : ByteString}
    {now : Int}
    {next : ReassemblyBuffer}
    {deliveries : List Delivery}
    (processed : self.partialMessages.processFragment data now =
      .ok (next, deliveries)) :
    self.step reassemblyTimeoutMs (.received data now) =
      .ok ({ self with
        partialMessages := next
        storedIn := self.storedInAfter data now },
        deliveries.map fun delivery =>
          ⟨delivery, self.sessionsAfter data now, self.session⟩) := by
  simp only [step, running, if_true, processed]

theorem step_cleanup (running : self.control.running = true) (now : Int) :
    self.step reassemblyTimeoutMs (.cleanup now) =
      .ok ({ self with
        partialMessages := self.partialMessages.cleanupStaleMessages
          reassemblyTimeoutMs now }, []) :=
  if_pos running

/-! ## What one datagram does to the sessions -/

/-- A datagram leaves the sessions of other message ids. -/
theorem storedInAfter_of_ne
    {data : ByteString}
    {now : Int}
    {messageId : UInt32}
    (different : messageId ≠ (FragmentHeader.ofBytes data).messageId) :
    self.storedInAfter data now messageId = self.storedIn messageId := by
  unfold storedInAfter
  split_ifs
  · rfl
  · exact Function.update_of_ne different _ _

/-- A datagram leaves the sessions of the fragments that its entry holds. -/
theorem storedInAfter_of_mem
    {data : ByteString}
    {now : Int}
    {fragNum : ℕ}
    (received : fragNum ∈
      (self.partialMessages.met data now).receivedFragments) :
    self.storedInAfter data now (FragmentHeader.ofBytes data).messageId fragNum =
      self.storedIn (FragmentHeader.ofBytes data).messageId fragNum := by
  unfold storedInAfter
  split_ifs with unchanged
  · rfl
  · obtain ⟨_, missing⟩ := not_or.mp unchanged
    have different : fragNum ≠
        (FragmentHeader.ofBytes data).fragmentNum.toNat := by
      rintro rfl
      exact missing received
    rw [Function.update_self, Function.update_of_ne different]

/-- A fragment that is stored is of the current session. -/
theorem storedInAfter_self
    {data : ByteString}
    {now : Int}
    (accepts : self.partialMessages.Accepts data now) :
    self.storedInAfter data now (FragmentHeader.ofBytes data).messageId
      (FragmentHeader.ofBytes data).fragmentNum.toNat = self.session := by
  unfold storedInAfter
  rw [if_neg (not_or.mpr ⟨Nat.not_lt.mpr accepts.long, accepts.missing⟩),
    Function.update_self, Function.update_self]

/-- An entry after a datagram was there before, with the same sessions, or is
the one that the datagram was stored in. -/
theorem entry_of_processed
    (valid : self.partialMessages.Valid)
    {data : ByteString}
    {now : Int}
    {next : ReassemblyBuffer}
    {deliveries : List Delivery}
    (processed : self.partialMessages.processFragment data now =
      .ok (next, deliveries))
    {messageId : UInt32}
    {entry : PartialMessage}
    (found : next messageId = some entry) :
    (self.partialMessages messageId = some entry ∧
      ∀ fragNum ∈ entry.receivedFragments,
        self.storedInAfter data now messageId fragNum =
          self.storedIn messageId fragNum) ∨
      (messageId = (FragmentHeader.ofBytes data).messageId ∧
        self.partialMessages.Accepts data now ∧
        entry.totalFragments =
          (FragmentHeader.ofBytes data).totalFragments.toNat ∧
        entry.receivedFragments =
          insert (FragmentHeader.ofBytes data).fragmentNum.toNat
            (self.partialMessages.met data now).receivedFragments) := by
  by_cases own : messageId = (FragmentHeader.ofBytes data).messageId
  · subst own
    have effect := ReassemblyBuffer.processFragment_effect valid data now
    rw [processed] at effect
    cases effect with
    | tooShort short =>
        have unchanged : self.storedInAfter data now = self.storedIn :=
          if_pos (Or.inl short)
        rw [unchanged]
        exact Or.inl ⟨found, fun _ _ => rfl⟩
    | inconsistent _ _ | topicTooLong _ _ _ | complete _ _ _ =>
        rw [Function.update_self] at found
        cases found
    | duplicate _ _ present =>
        rw [Function.update_self, Option.some.injEq] at found
        subst found
        exact Or.inl ⟨ReassemblyBuffer.found_of_mem_met valid present,
          fun _ received => storedInAfter_of_mem received⟩
    | stored accepts _ _ =>
        rw [Function.update_self, Option.some.injEq] at found
        subst found
        exact Or.inr ⟨rfl, accepts, accepts.agrees, rfl⟩
  · rw [ReassemblyBuffer.processFragment_frame valid processed own] at found
    exact Or.inl ⟨found, fun _ _ => by rw [storedInAfter_of_ne own]⟩

/-- A datagram of a publish call is processed. -/
theorem processed_of_sent
    (valid : self.partialMessages.Valid)
    {data : ByteString}
    {messageId : UInt32}
    (sent : SentByCall data messageId)
    (now : Int) :
    ∃ next deliveries, self.partialMessages.processFragment data now =
      .ok (next, deliveries) := by
  obtain ⟨call, fragNum, _, inside, rfl⟩ := sent.exists_call
  obtain ⟨⟨next, deliveries⟩, processed⟩ :=
    (ReassemblyBuffer.processFragment_ok_iff valid (call.datagram fragNum)
      now).mpr (Or.inr (Or.inl (by
        rwa [PublishCall.fragmentNum_datagram inside,
          PublishCall.totalFragments_datagram])))
  exact ⟨next, deliveries, processed⟩

/-! ## Runs whose sessions start empty -/

/-- The fragments in the buffer of a running subscriber are of its session. -/
structure Afresh (traced : TracedSubscriber) : Prop where
  valid : traced.partialMessages.Valid
  stored : traced.control.running = true →
    ∀ messageId entry, traced.partialMessages messageId = some entry →
      ∀ fragNum ∈ entry.receivedFragments,
        traced.storedIn messageId fragNum = traced.session

/-- After a datagram is stored, all fragments of its entry are of the session. -/
theorem Afresh.storedInAfter
    (afresh : self.Afresh)
    (running : self.control.running = true)
    {data : ByteString}
    {now : Int}
    (accepts : self.partialMessages.Accepts data now)
    {fragNum : ℕ}
    (received : fragNum ∈ insert (FragmentHeader.ofBytes data).fragmentNum.toNat
      (self.partialMessages.met data now).receivedFragments) :
    self.storedInAfter data now (FragmentHeader.ofBytes data).messageId fragNum =
      self.session := by
  rcases Finset.mem_insert.mp received with rfl | already
  · exact storedInAfter_self accepts
  · rw [storedInAfter_of_mem already]
    exact afresh.stored running _ _
      (ReassemblyBuffer.found_of_mem_met afresh.valid already) fragNum already

/-- A datagram keeps the buffer afresh, and what it completes is fresh. -/
theorem Afresh.received
    (afresh : self.Afresh)
    (running : self.control.running = true)
    {data : ByteString}
    {now : Int}
    {next : ReassemblyBuffer}
    {deliveries : List Delivery}
    (processed : self.partialMessages.processFragment data now =
      .ok (next, deliveries)) :
    Afresh { self with
        partialMessages := next
        storedIn := self.storedInAfter data now } ∧
      ∀ delivery ∈ deliveries,
        SessionDelivery.Fresh
          ⟨delivery, self.sessionsAfter data now, self.session⟩ := by
  refine ⟨⟨ReassemblyBuffer.processFragment_valid afresh.valid processed, ?_⟩,
    ?_⟩
  · intro _ messageId entry found fragNum received
    change self.storedInAfter data now messageId fragNum = self.session
    rcases entry_of_processed afresh.valid processed found with
      ⟨before, unchanged⟩ | ⟨rfl, accepts, _, holds⟩
    · rw [unchanged fragNum received]
      exact afresh.stored running messageId entry before fragNum received
    · exact afresh.storedInAfter running accepts (holds ▸ received)
  · intro delivery member session among
    obtain ⟨fragNum, inRange, rfl⟩ := List.mem_map.mp among
    have effect :=
      ReassemblyBuffer.processFragment_effect afresh.valid data now
    rw [processed] at effect
    cases effect with
    | complete accepts inside last =>
        have whole := accepts.received_eq_range afresh.valid inside last
        apply afresh.storedInAfter running accepts
        rw [whole]
        exact Finset.mem_range.mpr (List.mem_range.mp inRange)
    | tooShort _ | inconsistent _ _ | duplicate _ _ _ | topicTooLong _ _ _
    | stored _ _ _ => cases member

/-- A start that finds no incomplete message when it begins a session keeps the
buffer afresh. -/
theorem Afresh.started
    (afresh : self.Afresh)
    {attempt : StartAttempt}
    (startsEmpty : self.StartsEmpty (.call (.start attempt))) :
    Afresh { self with
      control := (self.control.start attempt).control
      session := if (self.control.start attempt).returned &&
        !self.control.running then self.session + 1 else self.session } := by
  refine ⟨afresh.valid, ?_⟩
  intro runs messageId entry found fragNum received
  cases running : self.control.running with
  | true =>
      rw [Bool.not_true, Bool.and_false]
      exact afresh.stored running messageId entry found fragNum received
  | false =>
      rcases SubscriberControl.start_cases running with
        ⟨_, failed⟩ | ⟨descriptor, _, abandoned | started⟩
      · rw [failed] at runs
        exact absurd (running.symm.trans runs) (by decide)
      · rw [abandoned] at runs
        exact absurd (running.symm.trans runs) (by decide)
      · have none := startsEmpty running (by rw [started])
        change self.partialMessages messageId = some entry at found
        rw [none] at found
        cases found

/-- A cleanup keeps the buffer afresh. -/
theorem Afresh.cleanup (afresh : self.Afresh) (now : Int) :
    Afresh { self with
      partialMessages := self.partialMessages.cleanupStaleMessages
        reassemblyTimeoutMs now } := by
  refine ⟨ReassemblyBuffer.cleanupStaleMessages_valid afresh.valid _ now, ?_⟩
  intro running messageId entry found fragNum received
  exact afresh.stored running messageId entry
    (ReassemblyBuffer.some_of_cleanupStaleMessages found) fragNum received

/-- Where publishers send the datagrams, a step that meets the condition is
defined, keeps the buffer afresh and delivers only fresh messages. -/
theorem Afresh.step
    (afresh : self.Afresh)
    {event : SessionEvent}
    (fromPublisher : event.FromPublisher)
    (startsEmpty : self.StartsEmpty event) :
    ∃ next emitted,
      TracedSubscriber.step reassemblyTimeoutMs self event =
        .ok (next, emitted) ∧
      next.Afresh ∧ ∀ output ∈ emitted, output.Fresh := by
  cases event with
  | call made =>
      cases made with
      | start attempt =>
          exact ⟨_, _, rfl, afresh.started startsEmpty, by simp⟩
      | stop =>
          refine ⟨_, _, rfl, ⟨afresh.valid, ?_⟩, by simp⟩
          intro running
          simp at running
  | received data now =>
      cases running : self.control.running with
      | false => exact ⟨_, _, step_of_stopped running trivial, afresh, by simp⟩
      | true =>
          obtain ⟨messageId, sent⟩ := fromPublisher
          obtain ⟨next, deliveries, processed⟩ :=
            processed_of_sent afresh.valid sent now
          obtain ⟨kept, fresh⟩ := afresh.received running processed
          refine ⟨_, _, step_received running processed, kept, ?_⟩
          intro output member
          obtain ⟨delivery, among, rfl⟩ := List.mem_map.mp member
          exact fresh delivery among
  | cleanup now =>
      cases running : self.control.running with
      | false => exact ⟨_, _, step_of_stopped running trivial, afresh, by simp⟩
      | true =>
          exact ⟨_, _, step_cleanup running now, afresh.cleanup now, by simp⟩

/-! ## Runs in which a session starts with an incomplete message -/

/-- Publish calls can send all fragments of every message in the buffer, and the
fragments it holds are of the sessions so far. -/
structure Supplied (traced : TracedSubscriber) : Prop where
  valid : traced.partialMessages.Valid
  nonempty : ∀ messageId entry,
    traced.partialMessages messageId = some entry →
      entry.receivedFragments.Nonempty
  storedIn_le : ∀ messageId entry,
    traced.partialMessages messageId = some entry →
      ∀ fragNum ∈ entry.receivedFragments,
        traced.storedIn messageId fragNum ≤ traced.session
  sender : ∀ messageId entry,
    traced.partialMessages messageId = some entry →
      ∃ call : PublishCall, call.messageId = messageId ∧
        call.fragmentCount = entry.totalFragments ∧
        ∀ fragNum, fragNum < call.fragmentCount →
          SentByCall (call.datagram fragNum) messageId

theorem create_supplied : create.Supplied := by
  refine ⟨ReassemblyBuffer.empty_valid, ?_, ?_, ?_⟩
  all_goals
    intro messageId entry found
    cases found

/-- A datagram of a publish call keeps the buffer supplied. -/
theorem Supplied.received
    (supplied : self.Supplied)
    {data : ByteString}
    {messageId : UInt32}
    (sent : SentByCall data messageId)
    {now : Int}
    {next : ReassemblyBuffer}
    {deliveries : List Delivery}
    (processed : self.partialMessages.processFragment data now =
      .ok (next, deliveries)) :
    Supplied { self with
      partialMessages := next
      storedIn := self.storedInAfter data now } := by
  have entryBefore {other : UInt32} {entry : PartialMessage}
      (found : next other = some entry) :=
    entry_of_processed supplied.valid processed found
  refine ⟨ReassemblyBuffer.processFragment_valid supplied.valid processed,
    ?_, ?_, ?_⟩
  · intro other entry found
    rcases entryBefore found with ⟨before, _⟩ | ⟨_, _, _, holds⟩
    · exact supplied.nonempty other entry before
    · rw [holds]
      exact Finset.insert_nonempty _ _
  · intro other entry found fragNum received
    change self.storedInAfter data now other fragNum ≤ self.session
    rcases entryBefore found with ⟨before, unchanged⟩ | ⟨rfl, accepts, _, holds⟩
    · rw [unchanged fragNum received]
      exact supplied.storedIn_le other entry before fragNum received
    · rw [holds] at received
      rcases Finset.mem_insert.mp received with rfl | already
      · exact (storedInAfter_self accepts).le
      · rw [storedInAfter_of_mem already]
        exact supplied.storedIn_le _ _
          (ReassemblyBuffer.found_of_mem_met supplied.valid already) fragNum
          already
  · intro other entry found
    rcases entryBefore found with ⟨before, _⟩ | ⟨rfl, _, counted, _⟩
    · exact supplied.sender other entry before
    · obtain ⟨call, fragNum, rfl, _, rfl, sender⟩ := sent.exists_whole_call
      rw [PublishCall.totalFragments_datagram] at counted
      rw [PublishCall.messageId_datagram]
      exact ⟨call, rfl, counted.symm, sender⟩

/-- Every step on datagrams of publishers is defined and keeps the buffer
supplied. -/
theorem Supplied.step
    (supplied : self.Supplied)
    {event : SessionEvent}
    (fromPublisher : event.FromPublisher) :
    ∃ next emitted,
      TracedSubscriber.step reassemblyTimeoutMs self event =
        .ok (next, emitted) ∧ next.Supplied := by
  cases event with
  | call made =>
      cases made with
      | start attempt =>
          refine ⟨_, _, rfl, supplied.valid, supplied.nonempty, ?_,
            supplied.sender⟩
          intro messageId entry found fragNum received
          have before := supplied.storedIn_le messageId entry found fragNum
            received
          dsimp only
          split_ifs
          · exact Nat.le_succ_of_le before
          · exact before
      | stop =>
          exact ⟨_, _, rfl, supplied.valid, supplied.nonempty,
            supplied.storedIn_le, supplied.sender⟩
  | received data now =>
      cases running : self.control.running with
      | false => exact ⟨_, _, step_of_stopped running trivial, supplied⟩
      | true =>
          obtain ⟨messageId, sent⟩ := fromPublisher
          obtain ⟨next, deliveries, processed⟩ :=
            processed_of_sent supplied.valid sent now
          exact ⟨_, _, step_received running processed,
            supplied.received sent processed⟩
  | cleanup now =>
      cases running : self.control.running with
      | false => exact ⟨_, _, step_of_stopped running trivial, supplied⟩
      | true =>
          have foundBefore {messageId : UInt32} {entry : PartialMessage}
              (found : self.partialMessages.cleanupStaleMessages
                reassemblyTimeoutMs now messageId = some entry) :=
            ReassemblyBuffer.some_of_cleanupStaleMessages found
          refine ⟨_, _, step_cleanup running now,
            ReassemblyBuffer.cleanupStaleMessages_valid supplied.valid _ now,
            ?_, ?_, ?_⟩
          · exact fun messageId entry found =>
              supplied.nonempty messageId entry (foundBefore found)
          · exact fun messageId entry found =>
              supplied.storedIn_le messageId entry (foundBefore found)
          · exact fun messageId entry found =>
              supplied.sender messageId entry (foundBefore found)

/-- A fragment that an entry lacks completes its message or is stored. -/
theorem processed_missing
    (valid : self.partialMessages.Valid)
    {call : PublishCall}
    {entry : PartialMessage}
    (found : self.partialMessages call.messageId = some entry)
    (counted : call.fragmentCount = entry.totalFragments)
    {fragNum : ℕ}
    (inside : fragNum < call.fragmentCount)
    (missing : fragNum ∉ entry.receivedFragments)
    (now : Int) :
    self.partialMessages.met (call.datagram fragNum) now = entry ∧
      ∃ next deliveries,
        self.partialMessages.processFragment (call.datagram fragNum) now =
          .ok (next, deliveries) ∧
        (deliveries ≠ [] ∨
          ∃ extended, next call.messageId = some extended ∧
            extended.totalFragments = entry.totalFragments ∧
            extended.receivedFragments =
              insert fragNum entry.receivedFragments) := by
  have met : self.partialMessages.met (call.datagram fragNum) now = entry := by
    apply ReassemblyBuffer.met_of_some valid
    rwa [PublishCall.messageId_datagram]
  refine ⟨met, ?_⟩
  have effect := ReassemblyBuffer.processFragment_effect valid
    (call.datagram fragNum) now
  generalize self.partialMessages.processFragment (call.datagram fragNum) now =
    result at effect ⊢
  cases effect with
  | tooShort short =>
      exact absurd (PublishCall.size_le_length_datagram fragNum)
        (Nat.not_le.mpr short)
  | inconsistent _ differs =>
      rw [met, PublishCall.totalFragments_datagram] at differs
      exact absurd counted.symm differs
  | duplicate _ _ present =>
      rw [met, PublishCall.fragmentNum_datagram inside] at present
      exact absurd present missing
  | topicTooLong _ first outside =>
      rw [PublishCall.fragmentNum_datagram inside] at first
      subst first
      rw [PublishCall.length_datagram_sub,
        PublishCall.topicLen_datagram] at outside
      exact absurd PublishCall.topicLen_le_body (Nat.not_le.mpr outside)
  | outOfRange _ outside =>
      rw [PublishCall.totalFragments_datagram,
        PublishCall.fragmentNum_datagram inside] at outside
      exact absurd inside (Nat.not_lt.mpr outside)
  | complete _ _ _ => exact ⟨_, _, rfl, Or.inl (by simp)⟩
  | stored _ _ _ =>
      refine ⟨_, _, rfl, Or.inr ⟨entry.store fragNum
        (ReassemblyBuffer.topicAfter entry (call.datagram fragNum))
        (ReassemblyBuffer.contentOf (call.datagram fragNum)), ?_, rfl, rfl⟩⟩
      rw [PublishCall.messageId_datagram, Function.update_self, met,
        PublishCall.fragmentNum_datagram inside]

/-- The missing fragments of a message that a running subscriber holds from an
earlier session make it deliver the message with these. -/
theorem Supplied.exists_stale
    (supplied : self.Supplied)
    (running : self.control.running = true)
    {messageId : UInt32}
    {entry : PartialMessage}
    (found : self.partialMessages messageId = some entry)
    {old : ℕ}
    (held : old ∈ entry.receivedFragments)
    (stale : self.storedIn messageId old ≠ self.session) :
    ∃ later : List SessionEvent,
      (∀ event ∈ later, event.FromPublisher ∧ event.Receives) ∧
        ∃ final outputs, run (TracedSubscriber.step reassemblyTimeoutMs) self
          later = .ok (final, outputs) ∧ ∃ output ∈ outputs, ¬output.Fresh := by
  generalize missingCount :
    entry.totalFragments - entry.receivedFragments.card = count
  induction count generalizing self entry with
  | zero =>
      have incomplete := (supplied.valid messageId entry found).incomplete
      omega
  | succ count inductionHypothesis =>
      have entryValid := supplied.valid messageId entry found
      obtain ⟨call, rfl, counted, sender⟩ := supplied.sender messageId entry found
      have fewer : entry.receivedFragments.card <
          (Finset.range call.fragmentCount).card := by
        rw [Finset.card_range, counted]
        exact entryValid.incomplete
      obtain ⟨fragNum, inRange, missing⟩ :=
        Finset.exists_mem_notMem_of_card_lt_card fewer
      have inside := Finset.mem_range.mp inRange
      obtain ⟨met, next, deliveries, processed, outcome⟩ :=
        processed_missing supplied.valid found counted inside missing 0
      have sent := sender fragNum inside
      have stillStale :
          self.storedInAfter (call.datagram fragNum) 0 call.messageId old ≠
            self.session := by
        have kept : self.storedInAfter (call.datagram fragNum) 0
            (FragmentHeader.ofBytes (call.datagram fragNum)).messageId old = _ :=
          storedInAfter_of_mem (by rwa [met])
        rw [PublishCall.messageId_datagram] at kept
        rwa [kept]
      have stepped : self.step reassemblyTimeoutMs
          (.received (call.datagram fragNum) 0) = _ :=
        step_received running processed
      rcases outcome with delivered | ⟨extended, extendedAt, sameCount, holds⟩
      · obtain ⟨delivery, among⟩ := List.exists_mem_of_ne_nil deliveries delivered
        refine ⟨[.received (call.datagram fragNum) 0], ?_, _, _,
          Run.run_cons_ok stepped (Run.run_nil _), _,
          List.mem_append_left _ (List.mem_map.mpr ⟨delivery, among, rfl⟩), ?_⟩
        · intro event member
          obtain rfl := List.mem_singleton.mp member
          exact ⟨⟨_, sent⟩, trivial⟩
        · intro fresh
          apply stillStale
          apply fresh
          refine List.mem_map.mpr ⟨old, ?_, by
            rw [PublishCall.messageId_datagram]⟩
          rw [PublishCall.totalFragments_datagram, counted]
          exact List.mem_range.mpr (entryValid.received_lt old held)
      · have extendedHeld : old ∈ extended.receivedFragments := by
          rw [holds]
          exact Finset.mem_insert_of_mem held
        have oneFewer :
            extended.totalFragments - extended.receivedFragments.card =
              count := by
          rw [sameCount, holds, Finset.card_insert_of_notMem missing]
          omega
        obtain ⟨later, admissible, final, outputs, ran, output, member,
          notFresh⟩ := inductionHypothesis (supplied.received sent processed)
            running extendedAt extendedHeld stillStale oneFewer
        refine ⟨.received (call.datagram fragNum) 0 :: later, ?_, final, _,
          Run.run_cons_ok stepped ran, output, List.mem_append_right _ member,
          notFresh⟩
        intro event memberLater
        rcases List.mem_cons.mp memberLater with rfl | afterwards
        · exact ⟨⟨_, sent⟩, trivial⟩
        · exact admissible event afterwards

/-- A session that starts with an incomplete message can deliver it. -/
theorem Supplied.exists_stale_of_start
    (supplied : self.Supplied)
    {event : SessionEvent}
    (pending : ¬self.StartsEmpty event) :
    ∃ next later,
      self.step reassemblyTimeoutMs event = .ok (next, []) ∧
        (∀ event ∈ later, event.FromPublisher ∧ event.Receives) ∧
        ∃ final outputs, run (TracedSubscriber.step reassemblyTimeoutMs) next
          later = .ok (final, outputs) ∧ ∃ output ∈ outputs, ¬output.Fresh := by
  cases event with
  | received _ _ | cleanup _ => exact absurd trivial pending
  | call made =>
      cases made with
      | stop => exact absurd trivial pending
      | start attempt =>
          simp only [StartsEmpty, Classical.not_imp] at pending
          obtain ⟨stopped, returned, partly⟩ := pending
          obtain ⟨messageId, notNone⟩ := Function.ne_iff.mp partly
          obtain ⟨entry, found⟩ := Option.ne_none_iff_exists'.mp notNone
          obtain ⟨old, held⟩ := supplied.nonempty messageId entry found
          have before := supplied.storedIn_le messageId entry found old held
          have started : ∃ descriptor : ℕ,
              (self.control.start attempt).control = ⟨descriptor, true, false⟩ := by
            rcases SubscriberControl.start_cases stopped with
              ⟨_, failed⟩ | ⟨descriptor, _, abandoned | started⟩
            · rw [failed] at returned
              cases returned
            · rw [abandoned] at returned
              cases returned
            · exact ⟨descriptor, by rw [started]⟩
          obtain ⟨descriptor, started⟩ := started
          obtain ⟨next, emitted, stepped, suppliedNext⟩ :
              ∃ next emitted, self.step reassemblyTimeoutMs
                (.call (.start attempt)) = .ok (next, emitted) ∧
                  next.Supplied :=
            supplied.step trivial
          obtain ⟨rfl, rfl⟩ := Prod.mk.inj (Except.ok.inj stepped)
          have stale : self.storedIn messageId old ≠
              if (self.control.start attempt).returned &&
                !self.control.running then self.session + 1
              else self.session := by
            rw [returned, stopped]
            exact (Nat.lt_succ_of_le before).ne
          obtain ⟨later, admissible, ran⟩ :=
            suppliedNext.exists_stale (by rw [started]) found held stale
          exact ⟨_, later, stepped, admissible, ran⟩

/-- Where a run and everything sent after its prefixes delivers only fresh
messages, its sessions start empty. -/
theorem Supplied.startsEmpty
    (supplied : self.Supplied)
    {events : List SessionEvent}
    (fromPublishers : ∀ event ∈ events, event.FromPublisher)
    (fresh : ∀ early, early <+: events →
      ∀ later : List SessionEvent,
        (∀ event ∈ later, event.FromPublisher ∧ event.Receives) →
        ∃ final outputs,
          run (TracedSubscriber.step reassemblyTimeoutMs) self
            (early ++ later) = .ok (final, outputs) ∧
              ∀ output ∈ outputs, output.Fresh) :
    EachStep (TracedSubscriber.step reassemblyTimeoutMs) StartsEmpty self
      events := by
  induction events generalizing self with
  | nil => trivial
  | cons event events inductionHypothesis =>
      constructor
      · by_contra pending
        obtain ⟨next, later, stepped, admissible, final, outputs, ran, output,
          member, stale⟩ := supplied.exists_stale_of_start pending
        obtain ⟨final', outputs', ran', allFresh⟩ :=
          fresh [event] (by simp) later admissible
        rw [List.singleton_append, Run.run_cons_ok stepped ran, Except.ok.injEq,
          Prod.mk.injEq] at ran'
        rw [← ran'.2] at allFresh
        exact stale (allFresh output (List.mem_append_right _ member))
      · intro next emitted stepped
        obtain ⟨next', emitted', stepped', suppliedNext⟩ :=
          supplied.step (fromPublishers event List.mem_cons_self)
        rw [stepped, Except.ok.injEq, Prod.mk.injEq] at stepped'
        obtain ⟨rfl, rfl⟩ := stepped'
        apply inductionHypothesis suppliedNext fun later member =>
          fromPublishers later (List.mem_cons_of_mem event member)
        intro early isPrefix later admissible
        obtain ⟨final, outputs, ran, allFresh⟩ := fresh (event :: early)
          (List.cons_prefix_cons.mpr ⟨rfl, isPrefix⟩) later admissible
        obtain ⟨next', emitted', rest, stepped', ranRest, rfl⟩ :=
          Run.run_cons_inv ran
        rw [stepped, Except.ok.injEq, Prod.mk.injEq] at stepped'
        obtain ⟨rfl, rfl⟩ := stepped'
        exact ⟨final, rest, ranRest, fun output member =>
          allFresh output (List.mem_append_right _ member)⟩

theorem create_afresh : create.Afresh := by
  refine ⟨ReassemblyBuffer.empty_valid, ?_⟩
  intro running
  cases running

/-- For every sequence of calls and datagrams, messages are assembled only from
datagrams since the start that began the session, whatever is sent after any
prefix of it, exactly when every such start finds no incomplete message. -/
theorem discardsIncomplete_iff
    (reassemblyTimeoutMs : Int)
    (events : List SessionEvent)
    (fromPublishers : ∀ event ∈ events, event.FromPublisher) :
    DiscardsIncomplete reassemblyTimeoutMs events ↔
      EachStep (step reassemblyTimeoutMs) StartsEmpty create events := by
  constructor
  · intro discards
    exact create_supplied.startsEmpty fromPublishers discards
  · rintro startsEmpty early ⟨late, rfl⟩ later admissible
    have startsAll : EachStep (step reassemblyTimeoutMs) StartsEmpty create
        (early ++ later) := by
      refine EachStep.append_of_forall (EachStep.of_append startsEmpty) ?_
      intro event member state
      obtain ⟨_, receives⟩ := admissible event member
      cases event with
      | call made => exact receives.elim
      | received _ _ | cleanup _ => trivial
    have fromAll : ∀ event ∈ early ++ later, event.FromPublisher := by
      intro event member
      rcases List.mem_append.mp member with before | after
      · exact fromPublishers event (List.mem_append_left _ before)
      · exact (admissible event after).1
    have stepOk : ∀ (traced : TracedSubscriber) (event : SessionEvent),
        traced.Afresh → event.FromPublisher ∧ traced.StartsEmpty event →
        ∃ next emitted, traced.step reassemblyTimeoutMs event =
          .ok (next, emitted) ∧ next.Afresh ∧ ∀ output ∈ emitted, output.Fresh :=
      fun _ _ afresh conditions => afresh.step conditions.1 conditions.2
    obtain ⟨final, outputs, ran, _, fresh⟩ := Run.run_ok_of_eachStep stepOk
      create_afresh (EachStep.and_forall startsAll fromAll)
    exact ⟨final, outputs, ran, fresh⟩

/-- A subscriber that is stopped between messages starts again with nothing. -/
theorem discardsIncomplete_iff_between_messages :
    DiscardsIncomplete 1000
      [.call (.start (.successful 3)), .received wholeMessage 0, .call .stop,
        .call (.start (.successful 4))] := by
  refine (discardsIncomplete_iff 1000 _ ?_).mpr ⟨fun _ _ => rfl, ?_⟩
  · simp only [List.mem_cons, List.not_mem_nil, or_false]
    rintro event (rfl | rfl | rfl | rfl)
    · trivial
    · exact ⟨1, wholeMessage_sent⟩
    · trivial
    · trivial
  · rintro first _ ⟨⟩
    refine ⟨trivial, ?_⟩
    intro second emitted received
    obtain ⟨deliveries, processed⟩ :=
      process_wholeMessage ReassemblyBuffer.empty_valid rfl 0
    rw [step_received rfl processed, Except.ok.injEq, Prod.mk.injEq] at received
    obtain ⟨rfl, _⟩ := received
    refine ⟨trivial, ?_⟩
    rintro third _ ⟨⟩
    exact ⟨fun _ _ => rfl, fun _ _ _ => trivial⟩

/-- A fragment received before a stop completes a message after the next
start. -/
theorem stop_keeps_incomplete_message :
    ¬DiscardsIncomplete 1000
        [.call (.start (.successful 3)), .received openingFragment 0, .call .stop,
          .call (.start (.successful 4))] ∧
      (run (step 1000) create
        [.call (.start (.successful 3)), .received openingFragment 0, .call .stop,
          .call (.start (.successful 4)), .received closingFragment 1]).map Prod.snd =
        .ok [⟨⟨[65, 47, 66], [1, 2, 3, 4, 5, 6, 7]⟩, [1, 2], 2⟩] := by
  have delivered : (run (step 1000) create
      [.call (.start (.successful 3)), .received openingFragment 0, .call .stop,
        .call (.start (.successful 4)), .received closingFragment 1]).map Prod.snd =
      .ok [⟨⟨[65, 47, 66], [1, 2, 3, 4, 5, 6, 7]⟩, [1, 2], 2⟩] := by
    rfl
  refine ⟨?_, delivered⟩
  intro discards
  obtain ⟨final, outputs, ran, fresh⟩ := discards _ (List.prefix_refl _)
    [.received closingFragment 1] (by
      intro event member
      obtain rfl := List.mem_singleton.mp member
      exact ⟨⟨0, twoFragments_sent _ (by simp)⟩, trivial⟩)
  rw [List.cons_append, List.cons_append, List.cons_append, List.cons_append,
    List.nil_append] at ran
  rw [ran] at delivered
  obtain rfl := Except.ok.inj delivered
  exact absurd (fresh _ List.mem_cons_self 1 (by simp)) (by decide)

end TracedSubscriber
end PubSub
end StarterCpp
