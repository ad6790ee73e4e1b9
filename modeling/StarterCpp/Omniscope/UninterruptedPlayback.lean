import StarterCpp.Omniscope.Playback
import StarterCpp.Omniscope.PlaybackEngine

/-!
# A start that nothing interrupts

When a client starts an engine at rest and no further command arrives, the engine
replays its lines: what the playback thread has done and what it has still to do
are the playback of the lines, and every run can be completed.
-/

namespace StarterCpp
namespace Omniscope

open PubSub Text

/-- Whether an output is one of a playback thread. -/
def PlaybackOutput.ofThread : PlaybackOutput → Bool
  | .sleeping _ | .published _ _ | .progressed _ _ | .completed _ => true
  | .started _ | .loaded _ => false

/-- A thread emits its own outputs only. -/
theorem PlaybackThread.Moves.ofThread
    {host : PlaybackHost}
    {stopFlag : Bool}
    {thread next : PlaybackThread}
    {emitted : List PlaybackOutput}
    (moves : thread.Moves host stopFlag emitted next) :
    emitted.filter PlaybackOutput.ofThread = emitted := by
  cases moves <;> rfl

namespace PlaybackEngine

variable {Client : Type*}

/-- Whether an action is the arrival of a command. -/
def Action.isCommand : Action Client → Bool
  | .command _ _ => true
  | .client _ | .thread _ _ => false

/-- Every playback thread has ended. -/
def Silent (engine : PlaybackEngine Client) : Prop :=
  ∀ thread, engine.thread.current = some thread → thread.Ended

/-- No handler is at work and no playback thread runs. -/
structure AtRest (engine : PlaybackEngine Client) : Prop where
  idle : ∀ client, engine.clients client = .idle
  alive : engine.fatal = none
  sole : engine.thread.Sole PlaybackThread.Ended
  silent : engine.Silent

/-- A new engine is at rest, whatever lines it is given. -/
theorem atRest_of_new (lines : List ByteString) :
    AtRest { (new : PlaybackEngine Client) with lines := lines } where
  idle := fun _ => rfl
  alive := rfl
  sole := .empty
  silent := by
    intro thread isCurrent
    cases isCurrent

/-- How far a start has come and what the playback threads have done since it was
asked for, by the position of its handler. -/
def Stage
    (host : PlaybackHost)
    (lines : List ByteString)
    (past : List PlaybackOutput)
    (engine : PlaybackEngine Client) : ClientPosition → Prop
  | .setStopFlag command | .notifyAll command | .testJoinable command =>
      command = .playbackStart ∧ engine.lines = lines ∧ engine.Silent ∧
        past.filter PlaybackOutput.ofThread = []
  | .joining index command =>
      command = .playbackStart ∧ engine.lines = lines ∧ engine.Silent ∧
        past.filter PlaybackOutput.ofThread = [] ∧
        engine.thread.handle = some index
  | .clearPlaying command =>
      command = .playbackStart ∧ engine.lines = lines ∧
        past.filter PlaybackOutput.ofThread = [] ∧ engine.thread.handle = none
  | .snapshot =>
      engine.lines = lines ∧ past.filter PlaybackOutput.ofThread = [] ∧
        engine.thread.handle = none
  | .clearStopFlag copied =>
      copied = lines ∧ past.filter PlaybackOutput.ofThread = [] ∧
        engine.thread.handle = none
  | .setPlaying copied | .assign copied =>
      copied = lines ∧ past.filter PlaybackOutput.ofThread = [] ∧
        engine.thread.handle = none ∧ engine.stopFlag = false
  | .countMessages | .announceStarted _ | .idle =>
      engine.stopFlag = false ∧
        ∃ thread, engine.thread.current = some thread ∧ thread.Ready host ∧
          past.filter PlaybackOutput.ofThread ++ thread.remaining host =
            play host lines
  | .completeEmpty | .loadLines _ | .announceLoaded _ => False

/-- What holds after a client's start when no other command arrives. -/
structure Uninterrupted
    (host : PlaybackHost)
    (lines : List ByteString)
    (client : Client)
    (past : List PlaybackOutput)
    (engine : PlaybackEngine Client) : Prop where
  others : ∀ other, other ≠ client → engine.clients other = .idle
  alive : engine.fatal = none
  sole : engine.thread.Sole PlaybackThread.Ended
  stage : Stage host lines past engine (engine.clients client)

/-- The handler is back and the playback thread has ended. -/
structure Done (client : Client) (engine : PlaybackEngine Client) : Prop where
  idle : engine.clients client = .idle
  silent : engine.Silent

/-- How far a handler is from the end of its start. -/
def handlerLeft : ClientPosition → ℕ
  | .setStopFlag _ => 11
  | .notifyAll _ => 10
  | .testJoinable _ => 9
  | .joining _ _ => 8
  | .clearPlaying _ => 7
  | .snapshot => 6
  | .clearStopFlag _ => 5
  | .setPlaying _ => 4
  | .assign _ => 3
  | .countMessages => 2
  | .announceStarted _ => 1
  | .idle | .completeEmpty | .loadLines _ | .announceLoaded _ => 0

/-- How far the playback thread is from its end, before it is assigned and after
that. -/
def threadLeft
    (lines : List ByteString)
    (thread : ThreadSlot PlaybackThread) : ClientPosition → ℕ
  | .countMessages | .announceStarted _ | .idle =>
      thread.current.elim 0 PlaybackThread.stepsLeft
  | .setStopFlag _ | .notifyAll _ | .testJoinable _ | .joining _ _
  | .clearPlaying _ | .snapshot | .completeEmpty | .clearStopFlag _
  | .setPlaying _ | .assign _ | .loadLines _ | .announceLoaded _ =>
      (PlaybackThread.start lines).stepsLeft

/-- How far an engine is from the end of a playback. -/
def stepsLeft
    (lines : List ByteString)
    (client : Client)
    (engine : PlaybackEngine Client) : ℕ :=
  handlerLeft (engine.clients client) +
    threadLeft lines engine.thread (engine.clients client)

variable [DecidableEq Client]

theorem Advances.not_idle
    {engine next : PlaybackEngine Client}
    {client : Client}
    {emitted : List PlaybackOutput}
    (advances : engine.Advances client emitted next) :
    engine.clients client ≠ .idle := by
  intro idle
  cases advances <;> simp_all

namespace Uninterrupted

variable {host : PlaybackHost}
variable {lines : List ByteString}
variable {client : Client}
variable {past : List PlaybackOutput}
variable {engine : PlaybackEngine Client}

/-- A start arrives at an engine at rest. -/
theorem received
    (atRest : engine.AtRest)
    (client : Client) :
    Uninterrupted host engine.lines client [] (engine.receive client .playbackStart)
    where
  others := by
    intro other different
    rw [receive, clients_moveClient_of_ne _ different]
    · exact atRest.idle other
    · intro impossible
      cases impossible
  alive := atRest.alive
  sole := atRest.sole
  stage := by
    rw [receive, clients_moveClient_self]
    · exact ⟨rfl, rfl, atRest.silent, rfl⟩
    · intro impossible
      cases impossible

/-- The handler moves to its next position. -/
theorem moved
    {position : ClientPosition}
    (others : ∀ other, other ≠ client → engine.clients other = .idle)
    (alive : engine.fatal = none)
    (sole : engine.thread.Sole PlaybackThread.Ended)
    (stage : Stage host lines past (engine.moveClient client position) position) :
    Uninterrupted host lines client past (engine.moveClient client position) where
  others := by
    intro other different
    rw [clients_moveClient_of_ne _ different]
    exact others other different
  alive := alive
  sole := sole
  stage := by
    rw [clients_moveClient_self]
    exact stage

omit [DecidableEq Client] in
/-- A notification ends no thread and wakes none that has ended. -/
theorem silent_notify (silent : engine.Silent) :
    Silent { engine with thread := engine.thread.map PlaybackThread.notify } := by
  intro notified isCurrent
  rw [ThreadSlot.current_map] at isCurrent
  obtain ⟨thread, isBefore, rfl⟩ := Option.map_eq_some_iff.mp isCurrent
  rw [PlaybackThread.ended_notify]
  exact silent thread isBefore

/-- The steps of the handler. -/
theorem advanced
    (uninterrupted : Uninterrupted host lines client past engine)
    (plays : ∀ line ∈ lines, PlaybackThread.Plays host line)
    (nonempty : lines ≠ [])
    {emitted : List PlaybackOutput}
    {next : PlaybackEngine Client}
    (advances : engine.Advances client emitted next) :
    Uninterrupted host lines client (past ++ emitted) next := by
  obtain ⟨others, alive, sole, stage⟩ := uninterrupted
  cases advances with
  | setStopFlag position =>
      rw [position] at stage
      rw [List.append_nil]
      exact moved others alive sole stage
  | notifyAll position =>
      rw [position] at stage
      obtain ⟨isStart, loaded, silent, nothing⟩ := stage
      rw [List.append_nil]
      refine moved others alive ?_
        ⟨isStart, loaded, silent_notify silent, nothing⟩
      apply sole.map
      intro thread ended
      rw [PlaybackThread.ended_notify]
      exact ended
  | notJoinable position released =>
      rw [position] at stage
      obtain ⟨isStart, loaded, _, nothing⟩ := stage
      rw [List.append_nil]
      exact moved others alive sole ⟨isStart, loaded, nothing, released⟩
  | joinable position held =>
      rw [position] at stage
      obtain ⟨isStart, loaded, silent, nothing⟩ := stage
      rw [List.append_nil]
      exact moved others alive sole ⟨isStart, loaded, silent, nothing, held⟩
  | joined position _ _ =>
      rw [position] at stage
      obtain ⟨isStart, loaded, silent, nothing, _⟩ := stage
      rw [List.append_nil]
      exact moved others alive (sole.release silent)
        ⟨isStart, loaded, nothing, rfl⟩
  | clearPlaying position =>
      rw [position] at stage
      obtain ⟨rfl, loaded, nothing, released⟩ := stage
      rw [List.append_nil]
      exact moved others alive sole ⟨loaded, nothing, released⟩
  | nothingLoaded position empty =>
      rw [position] at stage
      exact absurd (stage.1.symm.trans empty) nonempty
  | snapshot position _ =>
      rw [position] at stage
      rw [List.append_nil]
      exact moved others alive sole stage
  | completeEmpty position | loadLines position | announceLoaded position =>
      rw [position] at stage
      exact stage.elim
  | clearStopFlag position =>
      rw [position] at stage
      obtain ⟨same, nothing, released⟩ := stage
      rw [List.append_nil]
      exact moved others alive sole ⟨same, nothing, released, rfl⟩
  | setPlaying position =>
      rw [position] at stage
      rw [List.append_nil]
      exact moved others alive sole stage
  | assignFatal position held =>
      rw [position] at stage
      rw [stage.2.2.1] at held
      cases held
  | @assign copied position released =>
      rw [position] at stage
      obtain ⟨rfl, nothing, _, running⟩ := stage
      rw [List.append_nil]
      refine moved others alive (sole.spawn released _)
        ⟨running, .start copied, ThreadSlot.current_spawn _ _, .start plays, ?_⟩
      rw [nothing]
      rfl
  | countMessages position =>
      rw [position] at stage
      rw [List.append_nil]
      exact moved others alive sole stage
  | announceStarted position =>
      rw [position] at stage
      obtain ⟨running, thread, isCurrent, ready, whole⟩ := stage
      refine moved others alive sole ⟨running, thread, isCurrent, ready, ?_⟩
      rw [List.filter_append, ← whole]
      simp [PlaybackOutput.ofThread]

omit [DecidableEq Client] in
/-- While a playback thread runs the engine has been started. -/
theorem started_of_running
    (uninterrupted : Uninterrupted host lines client past engine)
    {index : ℕ}
    {thread : PlaybackThread}
    (found : engine.thread.threads[index]? = some thread)
    (running : ¬thread.Ended) :
    (engine.clients client = .countMessages ∨
      (∃ count, engine.clients client = .announceStarted count) ∨
        engine.clients client = .idle) ∧
      Stage host lines past engine .idle := by
  have stage := uninterrupted.stage
  have isCurrent := uninterrupted.sole.current_of_alive found running
  have held := uninterrupted.sole.others index thread found running
  cases position : engine.clients client with
  | setStopFlag _ | notifyAll _ | testJoinable _ | joining _ _ =>
      rw [position] at stage
      exact absurd (stage.2.2.1 thread isCurrent) running
  | clearPlaying _ =>
      rw [position] at stage
      rw [stage.2.2.2] at held
      cases held
  | snapshot | clearStopFlag _ =>
      rw [position] at stage
      rw [stage.2.2] at held
      cases held
  | setPlaying _ | assign _ =>
      rw [position] at stage
      rw [stage.2.2.1] at held
      cases held
  | countMessages =>
      rw [position] at stage
      exact ⟨.inl rfl, stage⟩
  | announceStarted count =>
      rw [position] at stage
      exact ⟨.inr (.inl ⟨count, rfl⟩), stage⟩
  | idle =>
      rw [position] at stage
      exact ⟨.inr (.inr rfl), stage⟩
  | completeEmpty | loadLines _ | announceLoaded _ =>
      rw [position] at stage
      exact stage.elim

omit [DecidableEq Client] in
/-- The steps of the playback thread. -/
theorem threadMoved
    (uninterrupted : Uninterrupted host lines client past engine)
    {index : ℕ}
    {thread next : PlaybackThread}
    {emitted : List PlaybackOutput}
    (found : engine.thread.threads[index]? = some thread)
    (moves : thread.Moves host engine.stopFlag emitted next) :
    Uninterrupted host lines client (past ++ emitted)
      { engine with
        thread := engine.thread.set index next
        playing := engine.playing && !thread.clearsPlaying } where
  others := uninterrupted.others
  alive := uninterrupted.alive
  sole := uninterrupted.sole.set found moves.running next
  stage := by
    have sole := uninterrupted.sole
    obtain ⟨position, unstopped, current, isCurrent, ready, whole⟩ :=
      uninterrupted.started_of_running found moves.running
    have same : current = thread := by
      rw [sole.current_of_alive found moves.running,
        Option.some.injEq] at isCurrent
      exact isCurrent.symm
    rw [same] at ready whole
    have reached : engine.stopFlag = false ∧
        ∃ moved, (engine.thread.set index next).current = some moved ∧
          moved.Ready host ∧
          (past ++ emitted).filter PlaybackOutput.ofThread ++
            moved.remaining host = play host lines := by
      refine ⟨unstopped, next, sole.current_set found moves.running next,
        ready.preserved moves, ?_⟩
      rw [unstopped] at moves
      rw [List.filter_append, moves.ofThread, List.append_assoc, moves.remaining]
      exact whole
    change Stage host lines _ _ (engine.clients client)
    rcases position with isCounting | ⟨count, isAnnouncing⟩ | isIdle
    · rw [isCounting]
      exact reached
    · rw [isAnnouncing]
      exact reached
    · rw [isIdle]
      exact reached

/-- Actions that are no commands. -/
theorem preserved
    (uninterrupted : Uninterrupted host lines client past engine)
    (plays : ∀ line ∈ lines, PlaybackThread.Plays host line)
    (nonempty : lines ≠ [])
    {action : Action Client}
    (quiet : action.isCommand = false)
    {emitted : List PlaybackOutput}
    {next : PlaybackEngine Client}
    (takes : engine.Takes host action emitted next) :
    Uninterrupted host lines client (past ++ emitted) next := by
  cases takes with
  | command position => cases quiet
  | @client mover _ _ advances =>
      by_cases same : mover = client
      · rw [same] at advances
        exact uninterrupted.advanced plays nonempty advances
      · exact absurd (uninterrupted.others mover same) advances.not_idle
  | thread found moves => exact uninterrupted.threadMoved found moves
  | @throws index event thread found throws =>
      have threw := (PlaybackThread.step_eq_uncaught.mp throws).2
      have sole := uninterrupted.sole
      obtain ⟨_, _, current, isCurrent, ready, _⟩ :=
        uninterrupted.started_of_running found threw.running
      rw [sole.current_of_alive found threw.running,
        Option.some.injEq] at isCurrent
      rw [← isCurrent] at ready
      exact absurd threw ready.not_throws

/-- A handler that is not back has a step towards its end. -/
theorem exists_handler_step
    (uninterrupted : Uninterrupted host lines client past engine)
    (nonempty : lines ≠ [])
    (working : engine.clients client ≠ .idle) :
    ∃ next emitted, engine.step host (.client client) = .ok (next, emitted) ∧
      next.stepsLeft lines client < engine.stepsLeft lines client := by
  obtain ⟨_, alive, sole, stage⟩ := uninterrupted
  rw [step_client alive, advance]
  cases position : engine.clients client with
  | idle => exact absurd position working
  | setStopFlag _ | notifyAll _ | clearStopFlag _ | setPlaying _
  | countMessages | announceStarted _ =>
      refine ⟨_, _, rfl, ?_⟩
      simp [stepsLeft, position, moveClient, handlerLeft, threadLeft]
  | clearPlaying command =>
      rw [position] at stage
      obtain ⟨rfl, _⟩ := stage
      refine ⟨_, _, rfl, ?_⟩
      simp [stepsLeft, position, moveClient, handlerLeft, threadLeft,
        ClientPosition.afterStop]
  | testJoinable command =>
      cases held : engine.thread.handle with
      | none =>
          refine ⟨_, _, rfl, ?_⟩
          simp [stepsLeft, position, moveClient, handlerLeft, threadLeft]
      | some index =>
          refine ⟨_, _, rfl, ?_⟩
          simp [stepsLeft, position, moveClient, handlerLeft, threadLeft]
  | joining index command =>
      rw [position] at stage
      obtain ⟨_, _, silent, _, held⟩ := stage
      have inside := sole.valid index held
      have found := List.getElem?_eq_getElem inside
      have ended : engine.thread.threads[index].Ended := by
        apply silent
        rw [ThreadSlot.current, held]
        exact found
      refine ⟨_, _, by simp only [found, guarded, ended, if_true]; rfl, ?_⟩
      simp [stepsLeft, position, moveClient, handlerLeft, threadLeft]
  | snapshot =>
      rw [position] at stage
      obtain ⟨line, rest, loaded⟩ := List.exists_cons_of_ne_nil nonempty
      rw [← stage.1] at loaded
      refine ⟨_, _, by simp only [loaded]; rfl, ?_⟩
      simp [stepsLeft, position, moveClient, handlerLeft, threadLeft]
  | assign copied =>
      rw [position] at stage
      obtain ⟨rfl, _, released, _⟩ := stage
      refine ⟨_, _, by simp only [released]; rfl, ?_⟩
      simp [stepsLeft, position, moveClient, handlerLeft, threadLeft]
  | completeEmpty | loadLines _ | announceLoaded _ =>
      rw [position] at stage
      exact stage.elim

/-- A playback that is not done has a step towards its end. -/
theorem exists_step
    (uninterrupted : Uninterrupted host lines client past engine)
    (nonempty : lines ≠ [])
    (undone : ¬engine.Done client) :
    ∃ action next emitted, action.isCommand = false ∧
      engine.step host action = .ok (next, emitted) ∧
        next.stepsLeft lines client < engine.stepsLeft lines client := by
  by_cases idle : engine.clients client = .idle
  · have stage := uninterrupted.stage
    rw [idle] at stage
    obtain ⟨_, thread, isCurrent, ready, _⟩ := stage
    have running : ¬thread.Ended := by
      intro ended
      apply undone
      refine ⟨idle, ?_⟩
      intro current isThread
      rw [isCurrent, Option.some.injEq] at isThread
      rw [← isThread]
      exact ended
    obtain ⟨event, moved, emitted, stepped, nearer⟩ :=
      ready.exists_step engine.stopFlag running
    obtain ⟨index, held, found⟩ := Option.bind_eq_some_iff.mp isCurrent
    have movedCurrent := uninterrupted.sole.current_set found running moved
    have taken : engine.step host (.thread index event) =
        .ok ({ engine with
          thread := engine.thread.set index moved
          playing := engine.playing && !thread.clearsPlaying }, emitted) := by
      rw [step_thread uninterrupted.alive, advanceThread, found]
      simp only [stepped]
    refine ⟨_, _, emitted, rfl, taken, ?_⟩
    simpa [stepsLeft, idle, threadLeft, movedCurrent, isCurrent] using nearer
  · obtain ⟨next, emitted, stepped, nearer⟩ :=
      uninterrupted.exists_handler_step nonempty idle
    exact ⟨.client client, next, emitted, rfl, stepped, nearer⟩

/-- What holds after every run without commands. -/
theorem after_run
    (uninterrupted : Uninterrupted host lines client past engine)
    (plays : ∀ line ∈ lines, PlaybackThread.Plays host line)
    (nonempty : lines ≠ [])
    {actions : List (Action Client)}
    (quiet : ∀ action ∈ actions, action.isCommand = false)
    {final : PlaybackEngine Client}
    {history : List PlaybackOutput}
    (ran : run (step host) engine actions = .ok (final, history)) :
    Uninterrupted host lines client (past ++ history) final := by
  have stepKeeps : ∀ before state action next emitted,
      Uninterrupted host lines client before state →
      action.isCommand = false →
      step host state action = .ok (next, emitted) →
        Uninterrupted host lines client (before ++ emitted) next := by
    intro before state action next emitted holds isQuiet stepped
    exact holds.preserved plays nonempty isQuiet (takes_of_step stepped).2
  exact Run.history_of_eachStep stepKeeps uninterrupted
    (EachStep.of_forall quiet) ran

/-- Every such run can be completed. -/
theorem completes
    (uninterrupted : Uninterrupted host lines client past engine)
    (plays : ∀ line ∈ lines, PlaybackThread.Plays host line)
    (nonempty : lines ≠ []) :
    ∃ actions final history,
      (∀ action ∈ actions, action.isCommand = false) ∧
        run (step host) engine actions = .ok (final, history) ∧
        final.Done client := by
  have progress : ∀ state,
      (∃ before, Uninterrupted host lines client before state) →
      ¬state.Done client →
        ∃ action next emitted, action.isCommand = false ∧
          step host state action = .ok (next, emitted) ∧
          (∃ before, Uninterrupted host lines client before next) ∧
            next.stepsLeft lines client < state.stepsLeft lines client := by
    rintro state ⟨before, holds⟩ undone
    obtain ⟨action, next, emitted, quiet, stepped, nearer⟩ :=
      holds.exists_step nonempty undone
    exact ⟨action, next, emitted, quiet, stepped, ⟨before ++ emitted,
      holds.preserved plays nonempty quiet (takes_of_step stepped).2⟩, nearer⟩
  exact Run.completes progress ⟨past, uninterrupted⟩

omit [DecidableEq Client] in
/-- A playback that is done has replayed the lines. -/
theorem history_of_done
    (uninterrupted : Uninterrupted host lines client past engine)
    (done : engine.Done client) :
    past.filter PlaybackOutput.ofThread = play host lines := by
  have stage := uninterrupted.stage
  rw [done.idle] at stage
  obtain ⟨_, thread, isCurrent, _, whole⟩ := stage
  rw [PlaybackThread.remaining_of_ended (done.silent thread isCurrent),
    List.append_nil] at whole
  exact whole

end Uninterrupted

end PlaybackEngine
end Omniscope
end StarterCpp
