import StarterCpp.Omniscope.UploadedPlayback

/-!
# Waking a playback thread

A stop raises the flag and notifies without the mutex of the wait between two
messages.  A playback thread that has found the flag low and has not blocked yet
misses the notification and sleeps on, with the flag raised, until its timeout.
-/

namespace StarterCpp
namespace Omniscope

open PubSub Text

/-! ## Sleeping threads -/

namespace PlaybackThread

/-- The thread is at a point of its wait between two messages. -/
def AtWait (wait : Wait) (thread : PlaybackThread) : Prop :=
  ∃ index topic rec, thread.position = .sleep index wait topic rec

/-- The thread has found the flag low and has not been woken since. -/
def Asleep (thread : PlaybackThread) : Prop :=
  thread.AtWait .blocking ∨ thread.AtWait .blocked

theorem not_asleep_start (lines : List ByteString) : ¬(start lines).Asleep := by
  rintro (⟨_, _, _, position⟩ | ⟨_, _, _, position⟩)
  · cases position
  · cases position

/-- A notification leaves asleep only a thread that is about to block. -/
theorem asleep_notify
    {thread : PlaybackThread}
    (asleep : thread.notify.Asleep) :
    thread.AtWait .blocking := by
  cases position : thread.position with
  | sleep index wait topic rec =>
      have notified : thread.notify.position = .sleep index wait.notify topic rec := by
        simp [notify, position, moveTo]
      rcases asleep with ⟨_, _, _, sleeps⟩ | ⟨_, _, _, sleeps⟩
      · rw [notified, PlaybackPosition.sleep.injEq] at sleeps
        obtain rfl := Wait.notify_eq_blocking.mp sleeps.2.1
        exact ⟨index, topic, rec, position⟩
      · rw [notified, PlaybackPosition.sleep.injEq] at sleeps
        exact absurd sleeps.2.1 wait.notify_ne_blocked
  | loadFirst | loopTest _ | decode _ | checkStop _ _ _ | publish _ _ _
  | progress _ | readFlag | clearPlaying _ | complete _ | finished =>
      rcases asleep with ⟨_, _, _, sleeps⟩ | ⟨_, _, _, sleeps⟩
      · simp [notify, position] at sleeps
      · simp [notify, position] at sleeps

/-- A notification does not reach a thread that is about to block. -/
theorem AtWait.notify
    {thread : PlaybackThread}
    (blocking : thread.AtWait .blocking) :
    thread.notify.AtWait .blocking := by
  obtain ⟨index, topic, rec, position⟩ := blocking
  exact ⟨index, topic, rec, by simp [PlaybackThread.notify, position, moveTo, Wait.notify]⟩

/-- With the flag raised, a thread does not fall asleep. -/
theorem Moves.not_asleep
    {host : PlaybackHost}
    {thread next : PlaybackThread}
    {emitted : List PlaybackOutput}
    (moves : thread.Moves host true emitted next)
    (awake : ¬thread.Asleep) :
    ¬next.Asleep := by
  cases moves with
  | wait position waits =>
      rintro (⟨_, _, _, sleeps⟩ | ⟨_, _, _, sleeps⟩)
      · rw [moveTo, PlaybackPosition.sleep.injEq] at sleeps
        rw [sleeps.2.1] at waits
        cases (Wait.advance_eq_blocking waits).2
      · rw [moveTo, PlaybackPosition.sleep.injEq] at sleeps
        rw [sleeps.2.1] at waits
        rw [Wait.advance_eq_blocked waits] at position
        exact awake (.inl ⟨_, _, _, position⟩)
  | loadFirst | enter | leave | skip | sleep | proceed | wake | awake | interrupt
  | goOn | publish | progress | readFlag | clearPlaying | complete =>
      rintro (⟨_, _, _, sleeps⟩ | ⟨_, _, _, sleeps⟩)
      · cases sleeps
      · cases sleeps

end PlaybackThread

/-! ## Stops and their notifications -/

namespace ClientPosition

/-- About to notify. -/
def notifies : ClientPosition → Bool
  | .notifyAll _ => true
  | .idle | .setStopFlag _ | .testJoinable _ | .joining _ _ | .clearPlaying _
  | .snapshot | .completeEmpty | .clearStopFlag _ | .setPlaying _ | .assign _
  | .countMessages | .announceStarted _ | .loadLines _ | .announceLoaded _ =>
      false

/-- Inside a stop, after its notification. -/
def hasNotified : ClientPosition → Bool
  | .testJoinable _ | .joining _ _ | .clearPlaying _ => true
  | .idle | .setStopFlag _ | .notifyAll _ | .snapshot | .completeEmpty
  | .clearStopFlag _ | .setPlaying _ | .assign _ | .countMessages
  | .announceStarted _ | .loadLines _ | .announceLoaded _ => false

theorem notifies_eq_true {position : ClientPosition} :
    position.notifies = true ↔ ∃ command, position = .notifyAll command := by
  cases position <;> simp [notifies]

@[simp] theorem notifies_afterStop (command : PlaybackCommand) :
    (afterStop command).notifies = false := by
  cases command <;> rfl

end ClientPosition

namespace PlaybackEngine

variable {Client : Type*}

/-- A stop has given its notification, no other stop is about to give one, and a
playback thread is blocked although the flag is raised. -/
structure Stalled (engine : PlaybackEngine Client) : Prop where
  stopping : ∃ client, (engine.clients client).hasNotified = true
  notified : ∀ client, (engine.clients client).notifies = false
  raised : engine.stopFlag = true
  blocked : ∃ thread ∈ engine.thread.threads, thread.AtWait .blocked

/-- The last stop that is about to notify does not do so, with the flag raised,
while a playback thread is between its test of the flag and its block. -/
def NotificationReaches (engine : PlaybackEngine Client) : Action Client → Prop
  | .client client =>
      (engine.clients client).notifies = true →
        (∀ other, (engine.clients other).notifies = true → other = client) →
          engine.stopFlag = true →
            ∀ thread ∈ engine.thread.threads, ¬thread.AtWait .blocking
  | .command _ _ | .thread _ _ => True

/-- With the flag raised and no notification to come, no thread is asleep. -/
def Awake (engine : PlaybackEngine Client) : Prop :=
  engine.stopFlag = true →
    (∀ client, (engine.clients client).notifies = false) →
      ∀ thread ∈ engine.thread.threads, ¬thread.Asleep

namespace Awake

variable {engine next : PlaybackEngine Client}

theorem new : Awake (new : PlaybackEngine Client) := by
  intro raised
  cases raised

theorem not_stalled (awake : engine.Awake) : ¬engine.Stalled := by
  rintro ⟨_, notified, raised, thread, member, blocked⟩
  exact awake raised notified thread member (.inr blocked)

/-- A step after which the flag is raised and no notification is to come only if
that was so before, and which puts no thread to sleep. -/
theorem mono
    (awake : engine.Awake)
    (raised : next.stopFlag = true → engine.stopFlag = true)
    (notified : (∀ client, (next.clients client).notifies = false) →
      ∀ client, (engine.clients client).notifies = false)
    (threads : ∀ thread ∈ next.thread.threads,
      thread ∈ engine.thread.threads ∨ ¬thread.Asleep) :
    next.Awake := by
  intro nowRaised nowNotified thread member
  rcases threads thread member with before | notAsleep
  · exact awake (raised nowRaised) (notified nowNotified) thread before
  · exact notAsleep

variable [DecidableEq Client]

/-- Nobody is about to notify after a handler has moved to where it is not, if it
was not before. -/
theorem notified_of_moveClient
    {client : Client}
    {position : ClientPosition}
    (before : (engine.clients client).notifies = false)
    (notified : ∀ other,
      ((engine.moveClient client position).clients other).notifies = false)
    (other : Client) :
    (engine.clients other).notifies = false := by
  by_cases same : other = client
  · rw [same]
    exact before
  · have after := notified other
    rw [clients_moveClient_of_ne engine same] at after
    exact after

/-- The notification of a stop wakes every thread, or the next one will. -/
theorem notifyAll
    {client : Client}
    {command : PlaybackCommand}
    (position : engine.clients client = .notifyAll command)
    (reaches : engine.NotificationReaches (.client client)) :
    ({ engine with
      thread := engine.thread.map PlaybackThread.notify }.moveClient client
        (.testJoinable command)).Awake := by
  intro raised notified thread member asleep
  obtain ⟨before, among, rfl⟩ := List.mem_map.mp member
  have notifies : (engine.clients client).notifies = true := by
    rw [position]
    rfl
  refine reaches notifies ?_ raised before among
    (PlaybackThread.asleep_notify asleep)
  intro other otherNotifies
  by_contra different
  have silent := notified other
  rw [clients_moveClient_of_ne _ different] at silent
  rw [otherNotifies] at silent
  cases silent

/-- A step of a handler. -/
theorem advance
    (awake : engine.Awake)
    {client : Client}
    {emitted : List PlaybackOutput}
    (reaches : engine.NotificationReaches (.client client))
    (advances : engine.Advances client emitted next) :
    next.Awake := by
  cases advances with
  | setStopFlag position =>
      intro _ notified
      have pending := notified client
      rw [clients_moveClient_self] at pending
      cases pending
  | notifyAll position => exact notifyAll position reaches
  | clearStopFlag position =>
      intro raised
      cases raised
  | assign position released =>
      refine awake.mono (fun raised => raised) ?_ ?_
      · exact notified_of_moveClient (by rw [position]; rfl)
      · intro thread member
        rcases List.mem_append.mp member with before | started
        · exact .inl before
        · rw [List.mem_singleton.mp started]
          exact .inr (PlaybackThread.not_asleep_start _)
  | assignFatal position held =>
      exact awake.mono (fun raised => raised) (fun notified => notified)
        (fun _ member => .inl member)
  | notJoinable position _ | joinable position _ | joined position _ _
  | clearPlaying position | nothingLoaded position _ | snapshot position _
  | completeEmpty position | setPlaying position | countMessages position
  | announceStarted position | loadLines position | announceLoaded position =>
      refine awake.mono (fun raised => raised) ?_ ?_
      · exact notified_of_moveClient (by rw [position]; rfl)
      · exact fun thread member => .inl member

/-- Every step keeps the threads awake, if the notifications reach them. -/
theorem preserved
    (awake : engine.Awake)
    {host : PlaybackHost}
    {action : Action Client}
    {emitted : List PlaybackOutput}
    (reaches : engine.NotificationReaches action)
    (takes : engine.Takes host action emitted next) :
    next.Awake := by
  cases takes with
  | @command client command position =>
      have silent : (engine.clients client).notifies = false := by
        rw [position]
        rfl
      unfold receive
      split
      · exact awake
      · exact awake.mono (fun raised => raised) (notified_of_moveClient silent)
          (fun _ member => .inl member)
  | client advances => exact awake.advance reaches advances
  | @thread index event thread moved emitted found moves =>
      intro raised notified other member
      rcases List.mem_or_eq_of_mem_set member with before | rfl
      · exact awake raised notified other before
      · have flag : engine.stopFlag = true := raised
        rw [flag] at moves
        exact moves.not_asleep
          (awake raised notified thread (List.mem_of_getElem? found))
  | throws found throws =>
      exact awake.mono (fun raised => raised) (fun notified => notified)
        (fun _ member => .inl member)

end Awake

variable [DecidableEq Client]

/-- A thread that is about to block blocks. -/
theorem exists_blocks
    (host : PlaybackHost)
    (engine : PlaybackEngine Client)
    (alive : engine.fatal = none)
    {index : ℕ}
    {thread : PlaybackThread}
    (found : engine.thread.threads[index]? = some thread)
    (blocking : thread.AtWait .blocking) :
    ∃ moved playing, moved.AtWait .blocked ∧
      engine.step host (.thread index .advance) =
        .ok ({ engine with
          thread := engine.thread.set index moved
          playing := playing }, []) := by
  obtain ⟨line, topic, rec, position⟩ := blocking
  refine ⟨thread.moveTo (.sleep line .blocked topic rec),
    engine.playing && !thread.clearsPlaying, ⟨_, _, _, rfl⟩, ?_⟩
  rw [step_thread alive, advanceThread, found]
  simp only [PlaybackThread.step, PlaybackThread.advance, position, Wait.advance]

/-- After a notification that misses a thread, the thread blocks. -/
theorem stalled_of_missed
    {host : PlaybackHost}
    {engine next : PlaybackEngine Client}
    {action : Action Client}
    {emitted : List PlaybackOutput}
    (stepped : engine.step host action = .ok (next, emitted))
    (missed : ¬engine.NotificationReaches action) :
    ∃ more final later,
      run (step host) next more = .ok (final, later) ∧ final.Stalled := by
  cases action with
  | command client command | thread index event => exact absurd trivial missed
  | client client =>
      simp only [NotificationReaches, Classical.not_imp, not_forall, not_not] at missed
      obtain ⟨notifies, last, raised, thread, member, blocking⟩ := missed
      obtain ⟨command, position⟩ := ClientPosition.notifies_eq_true.mp notifies
      have alive := (takes_of_step stepped).1
      rw [step_client alive, advance, position, Except.ok.injEq,
        Prod.mk.injEq] at stepped
      obtain ⟨rfl, rfl⟩ := stepped
      obtain ⟨index, found⟩ := List.mem_iff_getElem?.mp member
      let missing := { engine with
        thread := engine.thread.map PlaybackThread.notify }.moveClient client
          (.testJoinable command)
      have stays : missing.thread.threads[index]? = some thread.notify := by
        change (engine.thread.threads.map PlaybackThread.notify)[index]? = _
        rw [List.getElem?_map, found]
        rfl
      obtain ⟨moved, playing, blocked, taken⟩ :=
        exists_blocks host missing alive stays blocking.notify
      refine ⟨[.thread index .advance], _, [], Run.run_cons_ok taken rfl, ?_⟩
      refine ⟨⟨client, ?_⟩, ?_, raised, moved, ?_, blocked⟩
      · change ((missing.clients client).hasNotified) = true
        rw [clients_moveClient_self]
        rfl
      · intro other
        change ((missing.clients other).notifies) = false
        rw [clients_moveClient]
        split_ifs with same
        · rfl
        · by_contra otherNotifies
          rw [Bool.not_eq_false] at otherNotifies
          exact same (last other otherNotifies)
      · exact List.mem_set (List.getElem?_eq_some_iff.mp stays).1 moved

/-- For any clients, recordings and interleavings, no stop is left to wait for a
thread that sleeps on exactly as long as no notification falls between a thread's
test of the flag and its block. -/
theorem notification_decides_wakeup (host : PlaybackHost) :
    Decides (step host) (new : PlaybackEngine Client) NotificationReaches
      fun _ engine => ¬engine.Stalled := by
  let Holds : List PlaybackOutput → PlaybackEngine Client → Prop :=
    fun _ engine => engine.Awake
  have initial : Holds [] new := Awake.new
  apply Decides.of_invariant initial
  · intro _ _ _ _ _ awake reaches stepped
    exact Awake.preserved awake reaches (takes_of_step stepped).2
  · intro _ engine awake
    exact Awake.not_stalled awake
  · intro _ engine action next emitted _ stepped missed
    obtain ⟨more, final, later, ran, stalled⟩ := stalled_of_missed stepped missed
    exact ⟨more, final, later, ran, not_not.mpr stalled⟩

/-! ## A stop that waits -/

/-- A stop that arrives while the thread is about to block is left in its join. -/
theorem stop_stalls
    (host : PlaybackHost)
    {engine : PlaybackEngine Client}
    (alive : engine.fatal = none)
    {client : Client}
    (idle : engine.clients client = .idle)
    (silent : ∀ other, (engine.clients other).notifies = false)
    {index : ℕ}
    {thread : PlaybackThread}
    (held : engine.thread.handle = some index)
    (found : engine.thread.threads[index]? = some thread)
    (blocking : thread.AtWait .blocking) :
    ∃ final : PlaybackEngine Client,
      run (step host) engine [.command client .playbackStop, .client client,
          .client client, .thread index .advance, .client client] =
        .ok (final, []) ∧
      final.Stalled ∧ final.clients client = .joining index .playbackStop := by
  let arrived := engine.moveClient client (.setStopFlag .playbackStop)
  let raised := { arrived with stopFlag := true }.moveClient client
    (.notifyAll .playbackStop)
  let notified := { raised with
    thread := raised.thread.map PlaybackThread.notify }.moveClient client
      (.testJoinable .playbackStop)
  have arrives : engine.step host (.command client .playbackStop) =
      .ok (arrived, []) := by
    simp [step, alive, idle, guarded, receive, arrived]
  have raises : arrived.step host (.client client) = .ok (raised, []) := by
    rw [step_client (by exact alive), advance, clients_moveClient_self]
  have notifies : raised.step host (.client client) = .ok (notified, []) := by
    rw [step_client (by exact alive), advance, clients_moveClient_self]
  have stays : notified.thread.threads[index]? = some thread.notify := by
    change (engine.thread.threads.map PlaybackThread.notify)[index]? = _
    rw [List.getElem?_map, found]
    rfl
  obtain ⟨moved, playing, blocked, blocks⟩ :=
    exists_blocks host notified alive stays blocking.notify
  let asleep : PlaybackEngine Client :=
    { notified with thread := notified.thread.set index moved, playing := playing }
  have joins : asleep.step host (.client client) =
      .ok (asleep.moveClient client (.joining index .playbackStop), []) := by
    have position : asleep.clients client = .testJoinable .playbackStop :=
      clients_moveClient_self _ _ _
    have joinable : asleep.thread.handle = some index := held
    rw [step_client (by exact alive), advance, position, joinable]
  refine ⟨_, Run.run_cons_ok arrives (Run.run_cons_ok raises
    (Run.run_cons_ok notifies (Run.run_cons_ok blocks (Run.run_cons_ok joins
      (Run.run_nil _))))), ⟨⟨client, ?_⟩, ?_, rfl, moved, ?_, blocked⟩, ?_⟩
  · rw [clients_moveClient_self]
    rfl
  · intro other
    rw [clients_moveClient]
    split_ifs with same
    · rfl
    · have unchanged : asleep.clients other = engine.clients other := by
        simp [asleep, notified, raised, arrived, same]
      rw [unchanged]
      exact silent other
  · exact List.mem_set (List.getElem?_eq_some_iff.mp stays).1 moved
  · exact clients_moveClient_self _ _ _

/-- A record with a time. -/
def recordedAt (time : Int64) : Json :=
  .object [(ascii "topic", .string (ascii "Command")),
    (ascii "timestamp_ms", .integer time), (ascii "data", .null)]

/-- A playback of two messages five seconds apart comes to where it is about to
block between them. -/
theorem run_to_blocking
    {host : PlaybackHost}
    {first second : ByteString}
    (loadsFirst : host.load first = some (recordedAt 1000))
    (loadsSecond : host.load second = some (recordedAt 6000))
    (returns : host.publish (ascii "Command") (host.dump .null) = true) :
    ∃ thread emitted,
      run (PlaybackThread.step host false) (.start [first, second])
          (List.replicate 9 .advance) = .ok (thread, emitted) ∧
        thread.AtWait .blocking := by
  have decodesFirst : decodeLine host first =
      .message (ascii "Command") 1000 (recordedAt 1000) := by
    rw [decodeLine, loadsFirst]
    rfl
  have decodesSecond : decodeLine host second =
      .message (ascii "Command") 6000 (recordedAt 6000) := by
    rw [decodeLine, loadsSecond]
    rfl
  have base : firstTime host [first, second] = some 1000 := by
    rw [firstTime, loadsFirst]
    rfl
  have text : publishRecord host (ascii "Command") (recordedAt 1000) =
      some (host.dump .null) :=
    publishRecord_eq_some.mpr ⟨rfl, returns⟩
  refine ⟨{
    lines := [first, second]
    baseTime := 1000
    prevOffset := 5000
    position := .sleep 1 .blocking (ascii "Command") (recordedAt 6000) },
    [.published (ascii "Command") (host.dump .null), .progressed 1 2, .sleeping 5000],
    ?_, 1, ascii "Command", recordedAt 6000, rfl⟩
  simp [run, List.replicate, PlaybackThread.step, PlaybackThread.advance,
    PlaybackThread.start, base, decodesFirst, decodesSecond, text,
    PlaybackThread.moveTo, PlaybackThread.schedule, Wait.advance]
  decide

/-- An upload to a new engine. -/
theorem run_loaded
    (host : PlaybackHost)
    (client : Client)
    {body : ByteString}
    (nonempty : body ≠ []) :
    run (step host) new
        (.command client (.playbackLoad body) ::
          List.replicate 6 (.client client)) =
      .ok ({ new with lines := loadRecording body, stopFlag := true },
        [.loaded (loadRecording body).length]) := by
  obtain ⟨byte, body, rfl⟩ := List.exists_cons_of_ne_nil nonempty
  simp [run, step, advance, receive, guarded, moveClient, new,
    List.replicate, ThreadSlot.empty, ThreadSlot.map, ClientPosition.afterStop]

/-- A recorded line. -/
def firstLine : ByteString :=
  ascii "\x7b\"topic\":\"Command\",\"timestamp_ms\":1000,\"data\":null\x7d"

/-- A line that was recorded five seconds later. -/
def secondLine : ByteString :=
  ascii "\x7b\"topic\":\"Command\",\"timestamp_ms\":6000,\"data\":null\x7d"

/-- Between two messages the thread finds the flag low, a stop raises it and
notifies, the thread blocks, and the stop joins it. -/
theorem stop_waits_out_sleep :
    ∃ (host : PlaybackHost) (final : PlaybackEngine Unit)
        (outputs : List PlaybackOutput),
      run (step host) new
          (.command () (.playbackLoad (firstLine ++ [newline] ++ secondLine)) ::
              List.replicate 6 (.client ()) ++
            .command () .playbackStart :: List.replicate 8 (.client ()) ++
            [.client (), .client ()] ++
            (List.replicate 9 .advance).map (.thread 0) ++
            [.command () .playbackStop, .client (), .client (),
              .thread 0 .advance, .client ()]) = .ok (final, outputs) ∧
        final.Stalled ∧ final.clients () = .joining 0 .playbackStop := by
  let host : PlaybackHost := {
    load := fun text =>
      if text = firstLine then some (recordedAt 1000)
      else if text = secondLine then some (recordedAt 6000) else none
    dump := fun _ => ascii "null"
    lexicalCast := fun _ => none
    publish := fun _ _ => true }
  have different : secondLine ≠ firstLine := by
    decide
  have loadsFirst : host.load firstLine = some (recordedAt 1000) := by
    simp only [host, if_true]
  have loadsSecond : host.load secondLine = some (recordedAt 6000) := by
    simp only [host, if_neg different, if_true]
  have loaded : loadRecording (firstLine ++ [newline] ++ secondLine) =
      [firstLine, secondLine] := by
    decide
  let playing : PlaybackEngine Unit :=
    { assigned () [firstLine, secondLine] with clients := fun _ => .idle }
  have announces : run (step host) (assigned () [firstLine, secondLine])
      [.client (), .client ()] = .ok (playing, [.started 2]) := by
    simp [run, step, advance, moveClient, assigned, playing]
  have uploaded : firstLine ++ [newline] ++ secondLine ≠ [] := by
    simp
  have loads := run_loaded host () uploaded
  rw [loaded] at loads
  have starts := run_assigned host () true (List.cons_ne_nil firstLine [secondLine])
  obtain ⟨thread, emitted, ran, blocking⟩ := run_to_blocking loadsFirst loadsSecond rfl
  have startedAt : playing.thread.threads[0]? =
      some (PlaybackThread.start [firstLine, secondLine]) := rfl
  obtain ⟨reached, replays, alive, _, found, sameClients, sameHandle⟩ :=
    run_thread rfl rfl startedAt ran
  have idle : ∀ client, reached.clients client = .idle := fun client => by
    rw [sameClients]
  have held : reached.thread.handle = some 0 := sameHandle
  obtain ⟨final, stops, stalled, joining⟩ := stop_stalls host alive (idle ())
    (fun other => by rw [idle other]; rfl) held found blocking
  have whole := Run.run_append (Run.run_append (Run.run_append
    (Run.run_append loads starts) announces) replays) stops
  exact ⟨host, final, _, whole, stalled, joining⟩

end PlaybackEngine
end Omniscope
end StarterCpp
