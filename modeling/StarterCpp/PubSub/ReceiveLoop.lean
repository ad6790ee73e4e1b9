import StarterCpp.PubSub.Traffic

/-!
# The receive loop and the reassembly timeout

The loop polls the socket.  Only a poll that times out without data considers a
cleanup, and it runs one when more than 500 ms have passed since the last.  A
message is kept no longer than the timeout, the cleanup period and two polls
exactly under traffic that leaves room for such idle polls: between any two
datagrams farther apart than that, a cleanup must have found the entry of the
earlier one stale.
-/

namespace StarterCpp
namespace PubSub

/-- One iteration of the receive loop: `poll` fails, times out, or reports a
datagram, which `recv` may still fail to return.  A timeout reads the clock, and
the cleanup it may run reads it again. -/
inductive Poll (Data : Type*)
  | failed
  | idle (now cleanupNow : Int)
  | recvFailed
  | received (data : Data) (now : Int)

namespace Poll

variable {Data Other : Type*}

/-- The same iteration with other data. -/
def map (replace : Data → Other) : Poll Data → Poll Other
  | .failed => .failed
  | .idle now cleanupNow => .idle now cleanupNow
  | .recvFailed => .recvFailed
  | .received data now => .received (replace data) now

/-- The clock readings of an iteration, in order. -/
def readings : Poll Data → List Int
  | .idle now cleanupNow => [now, cleanupNow]
  | .received _ now => [now]
  | .failed => []
  | .recvFailed => []

/-- A received datagram was sent by some well-formed publish call. -/
def WellFormed : Poll ByteString → Prop
  | .received data _ => ∃ messageId, SentByCall data messageId
  | _ => True

end Poll

/-- The state that the receive loop carries from one iteration to the next. -/
structure ReceiveLoop where
  partialMessages : ReassemblyBuffer
  lastCleanup : Int

namespace ReceiveLoop

/-- The loop before its first iteration. -/
def start (now : Int) : ReceiveLoop := ⟨ReassemblyBuffer.empty, now⟩

/-- One iteration of `receiveLoop`. -/
def step (reassemblyTimeoutMs : Int) (self : ReceiveLoop) :
    Poll ByteString → Except MemoryFault (ReceiveLoop × List Delivery)
  | .failed => .ok (self, [])
  | .idle now cleanupNow =>
      if 500 < elapsedMs now self.lastCleanup then
        .ok (⟨self.partialMessages.cleanupStaleMessages reassemblyTimeoutMs
          cleanupNow, now⟩, [])
      else .ok (self, [])
  | .recvFailed => .ok (self, [])
  | .received data now =>
      if FragmentHeader.size ≤ data.length then
        match self.partialMessages.processFragment data now with
        | .error fault => .error fault
        | .ok (partialMessages, deliveries) =>
            .ok ({ self with partialMessages := partialMessages }, deliveries)
      else .ok (self, [])

/-- The timeout, the cleanup period and two polls, in nanoseconds. -/
def limit (reassemblyTimeoutMs : Int) : Int :=
  (reassemblyTimeoutMs + 700) * 1000000

/-- No entry of a buffer is older than the limit. -/
def Recent
    (reassemblyTimeoutMs now : Int) (partialMessages : ReassemblyBuffer) : Prop :=
  ∀ messageId entry, partialMessages messageId = some entry →
    now - entry.firstFragmentTime ≤ limit reassemblyTimeoutMs

/-- An iteration leaves no entry older than the limit, and delivers no message
whose entry was. -/
def OnTime (reassemblyTimeoutMs : Int) (self : ReceiveLoop)
    (poll : Poll ByteString) : Prop :=
  ∀ next deliveries, self.step reassemblyTimeoutMs poll =
      .ok (next, deliveries) →
    match poll with
    | .failed => True
    | .idle now _ => Recent reassemblyTimeoutMs now next.partialMessages
    | .recvFailed => True
    | .received data now =>
        Recent reassemblyTimeoutMs now next.partialMessages ∧
          (deliveries ≠ [] → ∀ entry, self.partialMessages
              (FragmentHeader.ofBytes data).messageId = some entry →
            now - entry.firstFragmentTime ≤ limit reassemblyTimeoutMs)

end ReceiveLoop

/-! ## Schedules -/

section Schedule

variable {Data : Type*}

/-- The clock readings of the cleanups that a schedule runs. -/
def cleanups : Int → List (Poll Data) → List Int
  | _, [] => []
  | lastCleanup, .idle now cleanupNow :: polls =>
      if 500 < elapsedMs now lastCleanup then
        cleanupNow :: cleanups now polls
      else cleanups lastCleanup polls
  | lastCleanup, _ :: polls => cleanups lastCleanup polls

/-- The loop's `lastCleanup` after a schedule. -/
def lastCleanupAfter : Int → List (Poll Data) → Int
  | lastCleanup, [] => lastCleanup
  | lastCleanup, .idle now _ :: polls =>
      if 500 < elapsedMs now lastCleanup then lastCleanupAfter now polls
      else lastCleanupAfter lastCleanup polls
  | lastCleanup, _ :: polls => lastCleanupAfter lastCleanup polls

end Schedule

/-- Before any datagram received beyond the limit after a given time, a cleanup
finds entries of that time stale. -/
def DrainedSince
    (reassemblyTimeoutMs lastCleanup time : Int)
    (schedule : List (Poll Unit)) : Prop :=
  ∀ middle now late, schedule = middle ++ .received () now :: late →
    ReceiveLoop.limit reassemblyTimeoutMs < now - time →
    ∃ reading ∈ cleanups lastCleanup middle,
      reassemblyTimeoutMs < elapsedMs reading time

/-- Between any two datagrams farther apart than the limit, a cleanup finds
entries of the earlier one's time stale. -/
def Drained
    (reassemblyTimeoutMs lastCleanup : Int)
    (schedule : List (Poll Unit)) : Prop :=
  ∀ early time late, schedule = early ++ .received () time :: late →
    DrainedSince reassemblyTimeoutMs (lastCleanupAfter lastCleanup early) time
      late

/-! ## Age of the entries -/

/-- Whole milliseconds against nanoseconds. -/
theorem elapsedMs_le_iff
    {bound : Int}
    (nonneg : 0 ≤ bound)
    (now earlier : Int) :
    elapsedMs now earlier ≤ bound ↔
      now - earlier < (bound + 1) * 1000000 := by
  unfold elapsedMs
  rcases Int.le_total 0 (now - earlier) with forward | backward
  · rw [Int.tdiv_eq_ediv_of_nonneg forward]
    omega
  · have mirrored : (now - earlier).tdiv 1000000 =
        -((earlier - now).tdiv 1000000) := by
      rw [← Int.neg_tdiv, Int.neg_sub]
    have nonnegMirror : 0 ≤ earlier - now := by omega
    rw [mirrored, Int.tdiv_eq_ediv_of_nonneg nonnegMirror]
    omega

namespace ReassemblyBuffer

/-- An entry after a datagram is as old as the entry of its id before, or is new
with the datagram. -/
theorem firstFragmentTime_of_processFragment
    {buffer next : ReassemblyBuffer}
    (valid : buffer.Valid)
    {data : ByteString}
    {now : Int}
    {deliveries : List Delivery}
    (processed : buffer.processFragment data now = .ok (next, deliveries))
    {messageId : UInt32}
    {entry : PartialMessage}
    (found : next messageId = some entry) :
    (∃ earlier, buffer messageId = some earlier ∧
        entry.firstFragmentTime = earlier.firstFragmentTime) ∨
      (buffer messageId = none ∧ entry.firstFragmentTime = now) := by
  by_cases same : messageId = (FragmentHeader.ofBytes data).messageId
  · have metTime : (∃ earlier, buffer messageId = some earlier ∧
          (buffer.met data now).firstFragmentTime =
            earlier.firstFragmentTime) ∨
        (buffer messageId = none ∧
          (buffer.met data now).firstFragmentTime = now) := by
      rw [same]
      unfold ReassemblyBuffer.met
      cases held : buffer (FragmentHeader.ofBytes data).messageId with
      | none => exact Or.inr ⟨rfl, by rw [getOrCreate_of_none held]⟩
      | some earlier =>
          exact Or.inl ⟨earlier, rfl, by
            rw [getOrCreate_of_some held (valid _ earlier held)]⟩
    have effect := processFragment_effect valid data now
    rw [processed] at effect
    rw [same] at found
    cases effect with
    | tooShort _ =>
        exact Or.inl ⟨entry, same ▸ found, rfl⟩
    | inconsistent _ _ | topicTooLong _ _ _ | complete _ _ _ =>
        simp at found
    | duplicate _ _ _ =>
        rw [Function.update_self, Option.some.injEq] at found
        exact found ▸ metTime
    | stored _ _ _ =>
        rw [Function.update_self, Option.some.injEq] at found
        exact found ▸ metTime
  · exact Or.inl ⟨entry, (processFragment_frame valid processed same).symm.trans
      found, rfl⟩

/-- What a cleanup keeps was not stale. -/
theorem not_stale_of_cleanupStaleMessages
    {buffer : ReassemblyBuffer}
    {reassemblyTimeoutMs now : Int}
    {messageId : UInt32}
    {entry : PartialMessage}
    (found : buffer.cleanupStaleMessages reassemblyTimeoutMs now messageId =
      some entry) :
    elapsedMs now entry.firstFragmentTime ≤ reassemblyTimeoutMs := by
  unfold cleanupStaleMessages at found
  cases held : buffer messageId with
  | none => simp [held] at found
  | some kept =>
      simp only [held, Option.ite_none_left_eq_some, Option.some.injEq] at found
      obtain ⟨fresh, rfl⟩ := found
      omega

/-- A cleanup that finds nothing stale changes nothing. -/
theorem cleanupStaleMessages_eq_self
    {buffer : ReassemblyBuffer}
    {reassemblyTimeoutMs now : Int}
    (fresh : ∀ messageId entry, buffer messageId = some entry →
      elapsedMs now entry.firstFragmentTime ≤ reassemblyTimeoutMs) :
    buffer.cleanupStaleMessages reassemblyTimeoutMs now = buffer := by
  funext messageId
  unfold cleanupStaleMessages
  cases held : buffer messageId with
  | none => rfl
  | some entry =>
      have kept := fresh messageId entry held
      simp only [Int.not_lt.mpr kept, if_false]

end ReassemblyBuffer

/-! ## Drained schedules keep the timeout -/

/-- The schedule of a list of iterations. -/
def scheduleOf (polls : List (Poll ByteString)) : List (Poll Unit) :=
  polls.map (Poll.map fun _ => ())

/-- The clock never goes back, from the last cleanup on. -/
def Monotone (lastCleanup : Int) (schedule : List (Poll Unit)) : Prop :=
  (lastCleanup :: schedule.flatMap Poll.readings).Pairwise (· ≤ ·)

section Tail

theorem lastCleanupAfter_cons
    {Data : Type*}
    (lastCleanup : Int)
    (poll : Poll Data)
    (polls : List (Poll Data)) :
    lastCleanupAfter lastCleanup (poll :: polls) =
      lastCleanupAfter (lastCleanupAfter lastCleanup [poll]) polls := by
  cases poll with
  | idle now cleanupNow =>
      simp only [lastCleanupAfter]
      split_ifs <;> rfl
  | failed | recvFailed | received _ _ => rfl

theorem cleanups_cons
    {Data : Type*}
    (lastCleanup : Int)
    (poll : Poll Data)
    (polls : List (Poll Data)) :
    cleanups lastCleanup (poll :: polls) = cleanups lastCleanup [poll] ++
      cleanups (lastCleanupAfter lastCleanup [poll]) polls := by
  cases poll with
  | idle now cleanupNow =>
      simp only [cleanups, lastCleanupAfter]
      split_ifs <;> rfl
  | failed | recvFailed | received _ _ => rfl

variable {reassemblyTimeoutMs lastCleanup : Int}
variable {poll : Poll Unit}
variable {schedule : List (Poll Unit)}

theorem Drained.tail
    (drained : Drained reassemblyTimeoutMs lastCleanup (poll :: schedule)) :
    Drained reassemblyTimeoutMs (lastCleanupAfter lastCleanup [poll])
      schedule := by
  intro early time late split
  have later := drained (poll :: early) time late (by rw [split]; rfl)
  rwa [lastCleanupAfter_cons] at later

/-- An entry that the cleanup of an iteration keeps is found stale later. -/
theorem DrainedSince.tail
    {time : Int}
    (drained : DrainedSince reassemblyTimeoutMs lastCleanup time
      (poll :: schedule))
    (kept : ∀ reading ∈ cleanups lastCleanup [poll],
      elapsedMs reading time ≤ reassemblyTimeoutMs) :
    DrainedSince reassemblyTimeoutMs (lastCleanupAfter lastCleanup [poll]) time
      schedule := by
  intro middle now late split old
  obtain ⟨reading, member, stale⟩ :=
    drained (poll :: middle) now late (by rw [split]; rfl) old
  rw [cleanups_cons] at member
  rcases List.mem_append.mp member with early | later
  · have fresh := kept reading early
    omega
  · exact ⟨reading, later, stale⟩

theorem Monotone.tail
    (monotone : Monotone lastCleanup (poll :: schedule)) :
    Monotone (lastCleanupAfter lastCleanup [poll]) schedule := by
  unfold Monotone at monotone ⊢
  rw [List.flatMap_cons, List.pairwise_cons, List.pairwise_append] at monotone
  obtain ⟨below, _, sorted, across⟩ := monotone
  rw [List.pairwise_cons]
  refine ⟨fun reading member => ?_, sorted⟩
  have fromStart := below reading (List.mem_append_right _ member)
  cases poll with
  | idle now cleanupNow =>
      simp only [lastCleanupAfter]
      split_ifs
      · exact across now List.mem_cons_self reading member
      · exact fromStart
  | failed | recvFailed | received _ _ => exact fromStart

end Tail

namespace ReceiveLoop

variable {reassemblyTimeoutMs : Int}

/-- What the loop keeps about its entries, with the schedule that remains: none
was stale at the last cleanup, and each is found stale in time. -/
structure Keeps
    (reassemblyTimeoutMs : Int)
    (loop : ReceiveLoop)
    (schedule : List (Poll Unit)) : Prop where
  valid : loop.partialMessages.Valid
  monotone : Monotone loop.lastCleanup schedule
  drained : Drained reassemblyTimeoutMs loop.lastCleanup schedule
  fresh : ∀ messageId entry, loop.partialMessages messageId = some entry →
    loop.lastCleanup - entry.firstFragmentTime <
      (reassemblyTimeoutMs + 1) * 1000000
  drainedSince : ∀ messageId entry,
    loop.partialMessages messageId = some entry →
    DrainedSince reassemblyTimeoutMs loop.lastCleanup entry.firstFragmentTime
      schedule

/-- An entry that a datagram meets is within the limit. -/
theorem Keeps.recent
    {loop : ReceiveLoop}
    {now : Int}
    {schedule : List (Poll Unit)}
    (keeps : loop.Keeps reassemblyTimeoutMs (.received () now :: schedule)) :
    Recent reassemblyTimeoutMs now loop.partialMessages := by
  intro messageId entry found
  by_contra old
  obtain ⟨reading, member, _⟩ := keeps.drainedSince messageId entry found [] now
    schedule rfl (Int.not_le.mp old)
  exact absurd member List.not_mem_nil

/-- The loop after an iteration that keeps some of its entries and adds none
but those that are new with a datagram. -/
theorem Keeps.next
    {loop after : ReceiveLoop}
    {poll : Poll Unit}
    {schedule : List (Poll Unit)}
    (nonneg : 0 ≤ reassemblyTimeoutMs)
    (keeps : loop.Keeps reassemblyTimeoutMs (poll :: schedule))
    (valid : after.partialMessages.Valid)
    (cleaned : after.lastCleanup = lastCleanupAfter loop.lastCleanup [poll])
    (entries : ∀ messageId entry,
      after.partialMessages messageId = some entry →
      (∃ earlier, loop.partialMessages messageId = some earlier ∧
          entry.firstFragmentTime = earlier.firstFragmentTime ∧
          after.lastCleanup - earlier.firstFragmentTime <
            (reassemblyTimeoutMs + 1) * 1000000 ∧
          ∀ reading ∈ cleanups loop.lastCleanup [poll],
            elapsedMs reading earlier.firstFragmentTime ≤
              reassemblyTimeoutMs) ∨
        poll = .received () entry.firstFragmentTime) :
    after.Keeps reassemblyTimeoutMs schedule := by
  refine ⟨valid, cleaned ▸ keeps.monotone.tail, cleaned ▸ keeps.drained.tail,
    ?_, ?_⟩
  · intro messageId entry found
    rcases entries messageId entry found with
      ⟨earlier, _, sameTime, fresh, _⟩ | new
    · rwa [sameTime]
    · have ordered := (List.pairwise_cons.mp keeps.monotone).1
        entry.firstFragmentTime (by simp [new, Poll.readings])
      rw [cleaned, new]
      change loop.lastCleanup - entry.firstFragmentTime < _
      omega
  · intro messageId entry found
    rw [cleaned]
    rcases entries messageId entry found with
      ⟨earlier, foundEarlier, sameTime, _, kept⟩ | new
    · rw [sameTime]
      exact (keeps.drainedSince messageId earlier foundEarlier).tail kept
    · rw [new]
      exact keeps.drained [] entry.firstFragmentTime schedule (by rw [new]; rfl)

/-- A received datagram keeps the loop's entries in time. -/
theorem Keeps.received
    {loop : ReceiveLoop}
    {data : ByteString}
    {now : Int}
    {schedule : List (Poll Unit)}
    (nonneg : 0 ≤ reassemblyTimeoutMs)
    (keeps : loop.Keeps reassemblyTimeoutMs (.received () now :: schedule))
    {next : ReceiveLoop}
    {deliveries : List Delivery}
    (stepped : loop.step reassemblyTimeoutMs (.received data now) =
      .ok (next, deliveries)) :
    next.Keeps reassemblyTimeoutMs schedule ∧
      Recent reassemblyTimeoutMs now next.partialMessages := by
  have recent := keeps.recent
  have limitNonneg : 0 ≤ limit reassemblyTimeoutMs := by
    unfold limit
    omega
  have entries : next.partialMessages.Valid ∧
      next.lastCleanup = loop.lastCleanup ∧
      ∀ messageId entry, next.partialMessages messageId = some entry →
        (∃ earlier, loop.partialMessages messageId = some earlier ∧
            entry.firstFragmentTime = earlier.firstFragmentTime) ∨
          entry.firstFragmentTime = now := by
    simp only [step] at stepped
    split_ifs at stepped with long
    · cases processed : loop.partialMessages.processFragment data now with
      | error fault => simp [processed] at stepped
      | ok result =>
          obtain ⟨buffer, delivered⟩ := result
          simp only [processed, Except.ok.injEq, Prod.mk.injEq] at stepped
          obtain ⟨rfl, rfl⟩ := stepped
          refine ⟨ReassemblyBuffer.processFragment_valid keeps.valid processed,
            rfl, ?_⟩
          intro messageId entry found
          rcases ReassemblyBuffer.firstFragmentTime_of_processFragment
              keeps.valid processed found with older | ⟨_, new⟩
          · exact Or.inl older
          · exact Or.inr new
    · obtain ⟨rfl, _⟩ := Prod.mk.inj (Except.ok.inj stepped)
      exact ⟨keeps.valid, rfl, fun messageId entry found =>
        Or.inl ⟨entry, found, rfl⟩⟩
  obtain ⟨valid, sameCleanup, origins⟩ := entries
  refine ⟨keeps.next nonneg valid sameCleanup ?_, ?_⟩
  · intro messageId entry found
    rcases origins messageId entry found with
      ⟨earlier, foundEarlier, sameTime⟩ | new
    · refine Or.inl ⟨earlier, foundEarlier, sameTime, ?_, by simp [cleanups]⟩
      rw [sameCleanup]
      exact keeps.fresh messageId earlier foundEarlier
    · exact Or.inr (by rw [new])
  · intro messageId entry found
    rcases origins messageId entry found with
      ⟨earlier, foundEarlier, sameTime⟩ | new
    · rw [sameTime]
      exact recent messageId earlier foundEarlier
    · rw [new, Int.sub_self]
      exact limitNonneg

/-- A poll that times out keeps the loop's entries in time. -/
theorem Keeps.idle
    {loop : ReceiveLoop}
    {now cleanupNow : Int}
    {schedule : List (Poll Unit)}
    (nonneg : 0 ≤ reassemblyTimeoutMs)
    (keeps : loop.Keeps reassemblyTimeoutMs (.idle now cleanupNow :: schedule))
    {next : ReceiveLoop}
    {deliveries : List Delivery}
    (stepped : loop.step reassemblyTimeoutMs (.idle now cleanupNow) =
      .ok (next, deliveries)) :
    next.Keeps reassemblyTimeoutMs schedule ∧
      Recent reassemblyTimeoutMs now next.partialMessages := by
  have ordered : now ≤ cleanupNow := by
    have sorted := (List.pairwise_cons.mp keeps.monotone).2
    rw [List.flatMap_cons] at sorted
    exact (List.pairwise_cons.mp sorted).1 cleanupNow (by simp)
  simp only [step] at stepped
  split_ifs at stepped with due
  · obtain ⟨rfl, _⟩ := Prod.mk.inj (Except.ok.inj stepped)
    have survivor : ∀ messageId entry,
        loop.partialMessages.cleanupStaleMessages reassemblyTimeoutMs cleanupNow
          messageId = some entry →
        loop.partialMessages messageId = some entry ∧
          elapsedMs cleanupNow entry.firstFragmentTime ≤ reassemblyTimeoutMs ∧
          now - entry.firstFragmentTime <
            (reassemblyTimeoutMs + 1) * 1000000 := by
      intro messageId entry found
      have fresh := ReassemblyBuffer.not_stale_of_cleanupStaleMessages found
      have young := (elapsedMs_le_iff nonneg _ _).mp fresh
      exact ⟨ReassemblyBuffer.some_of_cleanupStaleMessages found, fresh,
        by omega⟩
    refine ⟨keeps.next nonneg
      (ReassemblyBuffer.cleanupStaleMessages_valid keeps.valid _ _)
      (by simp [lastCleanupAfter, due]) ?_, ?_⟩
    · intro messageId entry found
      obtain ⟨foundBefore, fresh, young⟩ := survivor messageId entry found
      exact Or.inl ⟨entry, foundBefore, rfl, young, by
        simpa [cleanups, due] using fresh⟩
    · intro messageId entry found
      obtain ⟨_, _, young⟩ := survivor messageId entry found
      unfold limit
      omega
  · obtain ⟨rfl, _⟩ := Prod.mk.inj (Except.ok.inj stepped)
    refine ⟨keeps.next nonneg keeps.valid (by simp [lastCleanupAfter, due]) ?_,
      ?_⟩
    · intro messageId entry found
      exact Or.inl ⟨entry, found, rfl, keeps.fresh messageId entry found, by
        simp [cleanups, due]⟩
    · -- The last cleanup is at most 500 ms ago, and the entry was fresh then.
      intro messageId entry found
      have fresh := keeps.fresh messageId entry found
      have soon := (elapsedMs_le_iff (by decide : (0 : Int) ≤ 500) now
        loop.lastCleanup).mp (Int.not_lt.mp due)
      unfold limit
      omega

/-- An iteration of a loop whose remaining schedule is drained is on time and
leaves such a loop. -/
theorem Keeps.step
    {loop : ReceiveLoop}
    {poll : Poll ByteString}
    {schedule : List (Poll Unit)}
    (nonneg : 0 ≤ reassemblyTimeoutMs)
    (keeps : loop.Keeps reassemblyTimeoutMs
      (poll.map (fun _ => ()) :: schedule)) :
    loop.OnTime reassemblyTimeoutMs poll ∧
      ∀ next deliveries, loop.step reassemblyTimeoutMs poll =
        .ok (next, deliveries) → next.Keeps reassemblyTimeoutMs schedule := by
  have unchanged : ∀ next, next = loop →
      (cleanups loop.lastCleanup [poll.map fun _ => ()] = []) →
      loop.lastCleanup =
        lastCleanupAfter loop.lastCleanup [poll.map fun _ => ()] →
      next.Keeps reassemblyTimeoutMs schedule := by
    rintro next rfl none same
    apply keeps.next nonneg keeps.valid same
    intro messageId entry found
    exact Or.inl ⟨entry, found, rfl, keeps.fresh messageId entry found, by
      simp [none]⟩
  cases poll with
  | failed | recvFailed =>
      refine ⟨fun _ _ _ => trivial, fun next deliveries stepped => ?_⟩
      obtain ⟨rfl, _⟩ := Prod.mk.inj (Except.ok.inj stepped)
      exact unchanged _ rfl rfl rfl
  | idle now cleanupNow =>
      exact ⟨fun next deliveries stepped => (keeps.idle nonneg stepped).2,
        fun next deliveries stepped => (keeps.idle nonneg stepped).1⟩
  | received data now =>
      refine ⟨fun next deliveries stepped =>
        ⟨(keeps.received nonneg stepped).2, fun _ entry found => ?_⟩,
        fun next deliveries stepped => (keeps.received nonneg stepped).1⟩
      exact keeps.recent _ entry found

/-- Along a drained schedule every iteration is on time. -/
theorem Keeps.eachStep
    {loop : ReceiveLoop}
    {polls : List (Poll ByteString)}
    (nonneg : 0 ≤ reassemblyTimeoutMs)
    (keeps : loop.Keeps reassemblyTimeoutMs (scheduleOf polls)) :
    EachStep (ReceiveLoop.step reassemblyTimeoutMs)
      (ReceiveLoop.OnTime reassemblyTimeoutMs) loop polls := by
  induction polls generalizing loop with
  | nil => trivial
  | cons poll polls inductionHypothesis =>
      obtain ⟨onTime, later⟩ := Keeps.step nonneg keeps
      exact ⟨onTime, fun next deliveries stepped =>
        inductionHypothesis (later next deliveries stepped)⟩

end ReceiveLoop

/-! ## Schedules that are not drained -/

/-- The only fragment of an empty message with id one. -/
def wholeMessage : ByteString :=
  [1, 0, 0, 0, 0, 0, 1, 0, 3, 0, 0, 0, 65, 47, 66]

/-- The first of two fragments of a message with id zero. -/
def openingFragment : ByteString :=
  [0, 0, 0, 0, 0, 0, 2, 0, 3, 0, 0, 0, 65, 47, 66, 1, 2, 3, 4, 5]

/-- The second fragment of that message. -/
def closingFragment : ByteString := [0, 0, 0, 0, 1, 0, 2, 0, 0, 0, 0, 0, 6, 7]

theorem wholeMessage_sent : SentByCall wholeMessage 1 := by
  let publisher : Publisher :=
    { Publisher.create [65] 20 3 true with messageIdCounter := 1 }
  let request : PublishRequest := ⟨[66], some [], fun _ => true⟩
  have sized : request.Sized publisher := by
    refine ⟨by simp [publisher, request, Publisher.create], ?_⟩
    intro serialized same
    rw [← Option.some.inj same]
    simp
  have sent : (publisher.publish request).map (fun result => result.2.sent) =
      .ok [wholeMessage] := by decide
  have created : (Publisher.create [65] 20 3 true).WellFormed :=
    Publisher.create_wellFormed _ (by norm_num) _ _
  have wellFormed : publisher.WellFormed :=
    ⟨created.mtu_lt, created.maxPayload_eq⟩
  exact SentByCall.of_sent wellFormed sized sent (by simp)

theorem twoFragments_sent :
    ∀ data ∈ [openingFragment, closingFragment], SentByCall data 0 := by
  let publisher := Publisher.create [65] 20 3 true
  let request : PublishRequest :=
    ⟨[66], some [1, 2, 3, 4, 5, 6, 7], fun _ => true⟩
  have sized : request.Sized publisher := by
    refine ⟨by simp [publisher, request, Publisher.create], ?_⟩
    intro serialized same
    rw [← Option.some.inj same]
    simp
  have sent : (publisher.publish request).map (fun result => result.2.sent) =
      .ok [openingFragment, closingFragment] := by
    decide
  intro data member
  exact SentByCall.of_sent (Publisher.create_wellFormed _ (by norm_num) _ _)
    sized sent member

theorem openingFragment_sent : SentByCall openingFragment 0 :=
  twoFragments_sent _ List.mem_cons_self

/-- A whole message leaves the buffer as it was. -/
theorem process_wholeMessage
    {buffer : ReassemblyBuffer}
    (valid : buffer.Valid)
    (absent : buffer 1 = none)
    (now : Int) :
    ∃ deliveries, buffer.processFragment wholeMessage now =
      .ok (buffer, deliveries) := by
  obtain ⟨call, fragNum, sameId, inside, same⟩ := wholeMessage_sent.exists_call
  have callCount : call.fragmentCount = 1 := by
    rw [← PublishCall.totalFragments_datagram fragNum, ← same]
    rfl
  have first : fragNum = 0 := by omega
  subst first
  have collected : call.Collected buffer ∅ := Or.inl ⟨rfl, sameId ▸ absent⟩
  obtain ⟨next, processed, collectedNext, frame⟩ :=
    collected.process valid inside now
  have whole : insert 0 ∅ = call.needed := by
    rw [PublishCall.needed, callCount]
    rfl
  rw [Collector.step_arrive_last (Finset.notMem_empty 0) whole]
    at collectedNext
  have unchanged : next = buffer := by
    funext messageId
    by_cases own : messageId = call.messageId
    · rcases collectedNext with ⟨_, gone⟩ | ⟨nonempty, _⟩
      · rw [own, gone, sameId, absent]
      · exact absurd nonempty Finset.not_nonempty_empty
    · exact frame messageId own
  rw [← same, unchanged] at processed
  exact ⟨_, processed⟩

/-- A first fragment opens an entry at its time. -/
theorem process_openingFragment
    {buffer : ReassemblyBuffer}
    (valid : buffer.Valid)
    (absent : buffer 0 = none)
    (now : Int) :
    ∃ next deliveries entry,
      buffer.processFragment openingFragment now = .ok (next, deliveries) ∧
        next 0 = some entry ∧ entry.firstFragmentTime = now ∧
        ∀ other, other ≠ 0 → next other = buffer other := by
  obtain ⟨call, fragNum, sameId, inside, same⟩ :=
    openingFragment_sent.exists_call
  have callCount : call.fragmentCount = 2 := by
    rw [← PublishCall.totalFragments_datagram fragNum, ← same]
    rfl
  have first : fragNum = 0 := by
    rw [← PublishCall.fragmentNum_datagram inside, ← same]
    rfl
  subst first
  have collected : call.Collected buffer ∅ := Or.inl ⟨rfl, sameId ▸ absent⟩
  obtain ⟨next, processed, collectedNext, frame⟩ :=
    collected.process valid inside now
  have partly : insert 0 ∅ ≠ call.needed := by
    rw [PublishCall.needed, callCount]
    decide
  rw [Collector.step_arrive_more (Finset.notMem_empty 0) partly]
    at collectedNext
  rw [sameId] at frame
  rw [← same] at processed
  rcases collectedNext with ⟨none, _⟩ | ⟨_, entry, found, _⟩
  · exact absurd none (Finset.insert_ne_empty 0 ∅)
  · rw [sameId] at found
    rcases ReassemblyBuffer.firstFragmentTime_of_processFragment valid processed
        found with ⟨earlier, foundEarlier, _⟩ | ⟨_, new⟩
    · rw [absent] at foundEarlier
      simp at foundEarlier
    · exact ⟨next, _, entry, processed, found, new, frame⟩

/-- A schedule whose datagrams are all whole messages. -/
def quiet (schedule : List (Poll Unit)) : List (Poll ByteString) :=
  schedule.map (Poll.map fun _ => wholeMessage)

theorem scheduleOf_quiet (schedule : List (Poll Unit)) :
    scheduleOf (quiet schedule) = schedule := by
  unfold scheduleOf quiet
  rw [List.map_map]
  have same : (Poll.map fun _ => ()) ∘ (Poll.map fun _ => wholeMessage) =
      (id : Poll Unit → Poll Unit) := by
    funext poll
    cases poll <;> rfl
  rw [same, List.map_id]

namespace ReceiveLoop

variable {reassemblyTimeoutMs : Int}

/-- Whole messages and cleanups that find nothing stale leave the entries of the
loop as they were. -/
theorem run_quiet
    {buffer : ReassemblyBuffer}
    (valid : buffer.Valid)
    (absent : buffer 1 = none)
    (lastCleanup : Int)
    {schedule : List (Poll Unit)}
    (fresh : ∀ messageId entry, buffer messageId = some entry →
      ∀ reading ∈ cleanups lastCleanup schedule,
        elapsedMs reading entry.firstFragmentTime ≤ reassemblyTimeoutMs) :
    ∃ deliveries,
      run (step reassemblyTimeoutMs) ⟨buffer, lastCleanup⟩ (quiet schedule) =
        .ok (⟨buffer, lastCleanupAfter lastCleanup schedule⟩, deliveries) := by
  induction schedule generalizing lastCleanup with
  | nil => exact ⟨[], rfl⟩
  | cons poll schedule inductionHypothesis =>
      have stepped : ∃ emitted, step reassemblyTimeoutMs ⟨buffer, lastCleanup⟩
          (poll.map fun _ => wholeMessage) =
            .ok (⟨buffer, lastCleanupAfter lastCleanup [poll]⟩, emitted) := by
        cases poll with
        | failed | recvFailed => exact ⟨[], rfl⟩
        | idle now cleanupNow =>
            simp only [Poll.map, step, lastCleanupAfter]
            split_ifs with due
            · refine ⟨[], ?_⟩
              rw [ReassemblyBuffer.cleanupStaleMessages_eq_self]
              intro messageId entry found
              exact fresh messageId entry found cleanupNow (by
                simp [cleanups, due])
            · exact ⟨[], rfl⟩
        | received data now =>
            obtain ⟨deliveries, processed⟩ :=
              process_wholeMessage valid absent now
            have long : FragmentHeader.size ≤ wholeMessage.length := by decide
            refine ⟨deliveries, ?_⟩
            simp only [Poll.map, step, if_pos long, processed]
            rfl
      obtain ⟨emitted, stepped⟩ := stepped
      have freshNext : ∀ messageId entry, buffer messageId = some entry →
          ∀ reading ∈ cleanups (lastCleanupAfter lastCleanup [poll]) schedule,
            elapsedMs reading entry.firstFragmentTime ≤
              reassemblyTimeoutMs := by
        intro messageId entry found reading member
        apply fresh messageId entry found reading
        rw [cleanups_cons]
        exact List.mem_append_right _ member
      obtain ⟨later, ran⟩ := inductionHypothesis _ freshNext
      refine ⟨emitted ++ later, ?_⟩
      rw [lastCleanupAfter_cons]
      exact Run.run_cons_ok stepped ran

/-- A first fragment among whole messages leaves an entry of its time, which
lasts while no cleanup finds it stale. -/
theorem run_opening
    (start : Int)
    (early : List (Poll Unit))
    (time : Int)
    {middle : List (Poll Unit)}
    (fresh : ∀ reading ∈ cleanups (lastCleanupAfter start early) middle,
      elapsedMs reading time ≤ reassemblyTimeoutMs) :
    ∃ buffer lastCleanup entry deliveries,
      run (step reassemblyTimeoutMs) (ReceiveLoop.start start)
          (quiet early ++ .received openingFragment time :: quiet middle) =
        .ok (⟨buffer, lastCleanup⟩, deliveries) ∧
        buffer.Valid ∧ buffer 1 = none ∧
        buffer 0 = some entry ∧ entry.firstFragmentTime = time := by
  have emptyFresh : ∀ messageId entry,
      ReassemblyBuffer.empty messageId = some entry →
      ∀ reading ∈ cleanups start early,
        elapsedMs reading entry.firstFragmentTime ≤ reassemblyTimeoutMs := by
    intro messageId entry found
    simp [ReassemblyBuffer.empty] at found
  obtain ⟨deliveriesEarly, ranEarly⟩ :=
    run_quiet ReassemblyBuffer.empty_valid rfl start emptyFresh
  obtain ⟨buffer, deliveries, entry, opened, found, opening, frame⟩ :=
    process_openingFragment ReassemblyBuffer.empty_valid rfl time
  have valid :=
    ReassemblyBuffer.processFragment_valid ReassemblyBuffer.empty_valid opened
  have long : FragmentHeader.size ≤ openingFragment.length := by decide
  have openedStep : step reassemblyTimeoutMs
      ⟨ReassemblyBuffer.empty, lastCleanupAfter start early⟩
      (.received openingFragment time) =
        .ok (⟨buffer, lastCleanupAfter start early⟩, deliveries) := by
    simp only [step, if_pos long, opened]
  have absent : buffer 1 = none := frame 1 (by decide)
  have bufferFresh : ∀ messageId other, buffer messageId = some other →
      ∀ reading ∈ cleanups (lastCleanupAfter start early) middle,
        elapsedMs reading other.firstFragmentTime ≤ reassemblyTimeoutMs := by
    intro messageId other foundOther reading member
    by_cases own : messageId = 0
    · rw [own, found, Option.some.injEq] at foundOther
      rw [← foundOther, opening]
      exact fresh reading member
    · rw [frame messageId own] at foundOther
      simp [ReassemblyBuffer.empty] at foundOther
  obtain ⟨deliveriesMiddle, ranMiddle⟩ :=
    run_quiet valid absent _ bufferFresh
  exact ⟨buffer, _, entry, _,
    Run.run_append ranEarly (Run.run_cons_ok openedStep ranMiddle), valid,
    absent, found, opening⟩

theorem wellFormed_of_mem_quiet
    {schedule : List (Poll Unit)}
    {poll : Poll ByteString}
    (member : poll ∈ quiet schedule) :
    poll.WellFormed := by
  obtain ⟨source, _, rfl⟩ := List.mem_map.mp member
  cases source with
  | received _ _ => exact ⟨1, wholeMessage_sent⟩
  | failed | idle _ _ | recvFailed => trivial

/-- Where a schedule is not drained, some traffic leaves an entry older than the
limit. -/
theorem drained_of_onTime
    {start : Int}
    {schedule : List (Poll Unit)}
    (onTime : ∀ polls, scheduleOf polls = schedule →
      (∀ poll ∈ polls, poll.WellFormed) →
      EachStep (step reassemblyTimeoutMs) (OnTime reassemblyTimeoutMs)
        (ReceiveLoop.start start) polls) :
    Drained reassemblyTimeoutMs start schedule := by
  intro early time tail split middle now late splitTail old
  by_contra undrained
  have fresh : ∀ reading ∈ cleanups (lastCleanupAfter start early) middle,
      elapsedMs reading time ≤ reassemblyTimeoutMs := by
    intro reading member
    by_contra stale
    exact undrained ⟨reading, member, Int.not_le.mp stale⟩
  obtain ⟨buffer, lastCleanup, entry, deliveries, ran, valid, absent, found,
    opening⟩ := run_opening start early time fresh
  let polls := (quiet early ++ .received openingFragment time :: quiet middle) ++
    .received wholeMessage now :: quiet late
  have scheduled : scheduleOf polls = schedule := by
    have parts : scheduleOf polls = scheduleOf (quiet early) ++
        .received () time :: (scheduleOf (quiet middle) ++
          .received () now :: scheduleOf (quiet late)) := by
      simp [polls, scheduleOf, Poll.map]
    rw [parts, scheduleOf_quiet, scheduleOf_quiet, scheduleOf_quiet, split,
      splitTail]
  have wellFormed : ∀ poll ∈ polls, poll.WellFormed := by
    intro poll member
    simp only [polls, List.mem_append, List.mem_cons] at member
    rcases member with (inEarly | rfl | inMiddle) | rfl | inLate
    · exact wellFormed_of_mem_quiet inEarly
    · exact ⟨0, openingFragment_sent⟩
    · exact wellFormed_of_mem_quiet inMiddle
    · exact ⟨1, wholeMessage_sent⟩
    · exact wellFormed_of_mem_quiet inLate
  have lastOnTime := (onTime polls scheduled wellFormed).reached ran
  obtain ⟨delivered, processed⟩ := process_wholeMessage valid absent now
  have long : FragmentHeader.size ≤ wholeMessage.length := by decide
  have stepped : step reassemblyTimeoutMs ⟨buffer, lastCleanup⟩
      (.received wholeMessage now) =
        .ok (⟨buffer, lastCleanup⟩, delivered) := by
    simp only [step, if_pos long, processed]
  have recent := (lastOnTime _ _ stepped).1 0 entry found
  rw [opening] at recent
  exact absurd old (Int.not_lt.mpr recent)

end ReceiveLoop

/-- The reassembly timeout is enforced on a schedule, whatever well-formed
datagrams fill it, exactly when the schedule is drained. -/
theorem onTime_iff_drained
    {reassemblyTimeoutMs start : Int}
    {schedule : List (Poll Unit)}
    (nonneg : 0 ≤ reassemblyTimeoutMs)
    (monotone : Monotone start schedule) :
    (∀ polls, scheduleOf polls = schedule →
        (∀ poll ∈ polls, poll.WellFormed) →
        EachStep (ReceiveLoop.step reassemblyTimeoutMs)
          (ReceiveLoop.OnTime reassemblyTimeoutMs) (ReceiveLoop.start start)
          polls) ↔
      Drained reassemblyTimeoutMs start schedule := by
  constructor
  · exact ReceiveLoop.drained_of_onTime
  · rintro drained polls rfl _
    refine ReceiveLoop.Keeps.eachStep nonneg ⟨ReassemblyBuffer.empty_valid,
      monotone, drained, ?_, ?_⟩
    · intro messageId entry found
      simp [ReceiveLoop.start, ReassemblyBuffer.empty] at found
    · intro messageId entry found
      simp [ReceiveLoop.start, ReassemblyBuffer.empty] at found

/-- A schedule with one idle poll between two distant datagrams enforces the
timeout. -/
theorem onTime_iff_drained_one_idle :
    Drained 1000 0
        [.received () 0, .idle 1600000000 1600000000,
          .received () 2000000000] ∧
      ∀ polls, scheduleOf polls =
          [.received () 0, .idle 1600000000 1600000000,
            .received () 2000000000] →
        (∀ poll ∈ polls, poll.WellFormed) →
        EachStep (ReceiveLoop.step 1000) (ReceiveLoop.OnTime 1000)
          (ReceiveLoop.start 0) polls := by
  have drained : Drained 1000 0
      [.received () 0, .idle 1600000000 1600000000,
        .received () 2000000000] := by
    intro early time tail split middle now late splitTail old
    rcases early with _ | ⟨first, _ | ⟨second, _ | ⟨third, _⟩⟩⟩
    · obtain ⟨rfl, rfl⟩ : time = 0 ∧ tail = _ := by
        simpa [eq_comm] using split
      rcases middle with _ | ⟨idle, _ | ⟨other, middle⟩⟩
      · simp at splitTail
      · obtain ⟨rfl, _⟩ := List.cons.inj splitTail
        exact ⟨1600000000, by decide, by decide⟩
      · simp at splitTail
    · simp at split
    · obtain rfl : tail = [] := by simpa [eq_comm] using (List.cons.inj
        (List.cons.inj (List.cons.inj split).2).2).2
      simp at splitTail
    · simp at split
  have monotone : Monotone 0
      [.received () 0, .idle 1600000000 1600000000,
        .received () 2000000000] := by
    simp [Monotone, Poll.readings]
  exact ⟨drained, (onTime_iff_drained (by decide) monotone).mpr drained⟩

/-- Under steady traffic a message completes 1750 ms after its first fragment,
although the timeout is 1000 ms. -/
theorem late_delivery_under_steady_traffic :
    let polls := (.received openingFragment 0 ::
      (List.range 17).map fun number : ℕ =>
        .received wholeMessage (100000000 * (number + 1))) ++
        [.received closingFragment 1750000000]
    Monotone 0 (scheduleOf polls) ∧ (∀ poll ∈ polls, poll.WellFormed) ∧
      ¬EachStep (ReceiveLoop.step 1000) (ReceiveLoop.OnTime 1000)
        (ReceiveLoop.start 0) polls := by
  intro polls
  refine ⟨?_, ?_, ?_⟩
  · unfold Monotone
    decide
  · intro poll member
    rcases List.mem_append.mp member with before | last
    · rcases List.mem_cons.mp before with rfl | between
      · exact ⟨0, openingFragment_sent⟩
      · obtain ⟨number, _, rfl⟩ := List.mem_map.mp between
        exact ⟨1, wholeMessage_sent⟩
    · obtain rfl := List.mem_singleton.mp last
      exact ⟨0, twoFragments_sent _ (by simp)⟩
  · intro conditions
    have onTime := conditions.reached rfl
    have late := (onTime _ _ rfl).2 (by simp) _ rfl
    exact absurd late (by decide)

end PubSub
end StarterCpp
