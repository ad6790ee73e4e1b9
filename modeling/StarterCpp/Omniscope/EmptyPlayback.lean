import StarterCpp.Omniscope.UninterruptedPlayback

/-!
# A start with nothing loaded

Without lines a start runs no playback thread: its handler calls the completion
callback itself.  With that, a start that nothing interrupts plays back whatever
lines are loaded.
-/

namespace StarterCpp
namespace Omniscope

open PubSub Text

namespace PlaybackEngine

variable {Client : Type*}

/-- How far a start without lines has come, by the position of its handler. -/
def EmptyStage
    (past : List PlaybackOutput)
    (engine : PlaybackEngine Client) : ClientPosition → Prop
  | .setStopFlag command | .notifyAll command | .testJoinable command
  | .clearPlaying command =>
      command = .playbackStart ∧ past.filter PlaybackOutput.ofThread = []
  | .joining index command =>
      command = .playbackStart ∧ past.filter PlaybackOutput.ofThread = [] ∧
        engine.thread.handle = some index
  | .snapshot | .completeEmpty => past.filter PlaybackOutput.ofThread = []
  | .countMessages | .announceStarted _ | .idle =>
      past.filter PlaybackOutput.ofThread = [.completed false]
  | .clearStopFlag _ | .setPlaying _ | .assign _ | .loadLines _
  | .announceLoaded _ => False

/-- What holds after a client's start without lines when no other command
arrives. -/
structure Unloaded
    (client : Client)
    (past : List PlaybackOutput)
    (engine : PlaybackEngine Client) : Prop where
  others : ∀ other, other ≠ client → engine.clients other = .idle
  alive : engine.fatal = none
  sole : engine.thread.Sole PlaybackThread.Ended
  silent : engine.Silent
  empty : engine.lines = []
  stage : EmptyStage past engine (engine.clients client)

/-- How far a handler is from the end of a start without lines. -/
def emptyLeft : ClientPosition → ℕ
  | .setStopFlag _ => 9
  | .notifyAll _ => 8
  | .testJoinable _ => 7
  | .joining _ _ => 6
  | .clearPlaying _ => 5
  | .snapshot => 4
  | .completeEmpty => 3
  | .countMessages => 2
  | .announceStarted _ => 1
  | .idle | .clearStopFlag _ | .setPlaying _ | .assign _ | .loadLines _
  | .announceLoaded _ => 0

variable [DecidableEq Client]

namespace Unloaded

variable {host : PlaybackHost}
variable {client : Client}
variable {past : List PlaybackOutput}
variable {engine : PlaybackEngine Client}

/-- A start arrives at an engine at rest. -/
theorem received
    (atRest : engine.AtRest)
    (empty : engine.lines = [])
    (client : Client) :
    Unloaded client [] (engine.receive client .playbackStart) where
  others := by
    intro other different
    rw [receive, clients_moveClient_of_ne _ different]
    · exact atRest.idle other
    · intro impossible
      cases impossible
  alive := atRest.alive
  sole := atRest.sole
  silent := atRest.silent
  empty := empty
  stage := by
    rw [receive, clients_moveClient_self]
    · exact ⟨rfl, rfl⟩
    · intro impossible
      cases impossible

/-- The handler moves to its next position. -/
theorem moved
    {position : ClientPosition}
    (others : ∀ other, other ≠ client → engine.clients other = .idle)
    (alive : engine.fatal = none)
    (sole : engine.thread.Sole PlaybackThread.Ended)
    (silent : engine.Silent)
    (empty : engine.lines = [])
    (stage : EmptyStage past (engine.moveClient client position) position) :
    Unloaded client past (engine.moveClient client position) where
  others := by
    intro other different
    rw [clients_moveClient_of_ne _ different]
    exact others other different
  alive := alive
  sole := sole
  silent := silent
  empty := empty
  stage := by
    rw [clients_moveClient_self]
    exact stage

/-- The steps of the handler. -/
theorem advanced
    (unloaded : Unloaded client past engine)
    {emitted : List PlaybackOutput}
    {next : PlaybackEngine Client}
    (advances : engine.Advances client emitted next) :
    Unloaded client (past ++ emitted) next := by
  obtain ⟨others, alive, sole, silent, empty, stage⟩ := unloaded
  cases advances with
  | setStopFlag position =>
      rw [position] at stage
      rw [List.append_nil]
      exact moved others alive sole silent empty stage
  | notifyAll position =>
      rw [position] at stage
      rw [List.append_nil]
      refine moved others alive ?_ (Uninterrupted.silent_notify silent) empty stage
      apply sole.map
      intro thread ended
      rw [PlaybackThread.ended_notify]
      exact ended
  | notJoinable position released =>
      rw [position] at stage
      rw [List.append_nil]
      exact moved others alive sole silent empty stage
  | joinable position held =>
      rw [position] at stage
      rw [List.append_nil]
      exact moved others alive sole silent empty ⟨stage.1, stage.2, held⟩
  | joined position _ _ =>
      rw [position] at stage
      rw [List.append_nil]
      refine moved others alive (sole.release silent) ?_ empty ⟨stage.1, stage.2.1⟩
      intro thread isCurrent
      cases isCurrent
  | clearPlaying position =>
      rw [position] at stage
      obtain ⟨rfl, nothing⟩ := stage
      rw [List.append_nil]
      exact moved others alive sole silent empty nothing
  | nothingLoaded position _ =>
      rw [position] at stage
      rw [List.append_nil]
      exact moved others alive sole silent empty stage
  | snapshot position nonempty => exact absurd empty nonempty
  | completeEmpty position =>
      rw [position] at stage
      refine moved others alive sole silent empty ?_
      change (past ++ [_]).filter PlaybackOutput.ofThread = _
      rw [List.filter_append, show past.filter PlaybackOutput.ofThread = [] from
        stage]
      rfl
  | countMessages position =>
      rw [position] at stage
      rw [List.append_nil]
      exact moved others alive sole silent empty stage
  | announceStarted position =>
      rw [position] at stage
      refine moved others alive sole silent empty ?_
      change (past ++ [_]).filter PlaybackOutput.ofThread = _
      rw [List.filter_append, show past.filter PlaybackOutput.ofThread = _ from
        stage]
      rfl
  | clearStopFlag position | setPlaying position | assignFatal position _
  | assign position _ | loadLines position | announceLoaded position =>
      rw [position] at stage
      exact stage.elim

omit [DecidableEq Client] in
/-- Every playback thread has ended. -/
theorem ended
    (unloaded : Unloaded client past engine)
    {index : ℕ}
    {thread : PlaybackThread}
    (found : engine.thread.threads[index]? = some thread) :
    thread.Ended := by
  by_contra running
  exact running (unloaded.silent thread
    (unloaded.sole.current_of_alive found running))

/-- Actions that are no commands. -/
theorem preserved
    (unloaded : Unloaded client past engine)
    {action : Action Client}
    (quiet : action.isCommand = false)
    {emitted : List PlaybackOutput}
    {next : PlaybackEngine Client}
    (takes : engine.Takes host action emitted next) :
    Unloaded client (past ++ emitted) next := by
  cases takes with
  | command position => cases quiet
  | @client mover _ _ advances =>
      by_cases same : mover = client
      · rw [same] at advances
        exact unloaded.advanced advances
      · exact absurd (unloaded.others mover same) advances.not_idle
  | thread found moves => exact absurd (unloaded.ended found) moves.running
  | throws found throws =>
      have threw := (PlaybackThread.step_eq_uncaught.mp throws).2
      exact absurd (unloaded.ended found) threw.running

/-- A handler that is not back has a step towards its end. -/
theorem exists_step
    (unloaded : Unloaded client past engine)
    (undone : ¬engine.Done client) :
    ∃ action next emitted, action.isCommand = false ∧
      engine.step host action = .ok (next, emitted) ∧
        emptyLeft (next.clients client) < emptyLeft (engine.clients client) := by
  obtain ⟨_, alive, sole, silent, empty, stage⟩ := unloaded
  have handlerSteps (next : PlaybackEngine Client)
      (emitted : List PlaybackOutput)
      (advanced : engine.advance client = .ok (next, emitted))
      (nearer : emptyLeft (next.clients client) <
        emptyLeft (engine.clients client)) :
      ∃ action next emitted, action.isCommand = false ∧
        engine.step host action = .ok (next, emitted) ∧
          emptyLeft (next.clients client) <
            emptyLeft (engine.clients client) :=
    ⟨.client client, next, emitted, rfl, (step_client alive client).trans advanced,
      nearer⟩
  cases position : engine.clients client with
  | idle => exact absurd ⟨position, silent⟩ undone
  | setStopFlag _ | notifyAll _ | completeEmpty | countMessages
  | announceStarted _ =>
      rw [← position]
      apply handlerSteps
      · rw [advance, position]
      · simp [position, emptyLeft]
  | clearPlaying command =>
      rw [position] at stage
      obtain ⟨rfl, _⟩ := stage
      rw [← position]
      apply handlerSteps
      · rw [advance, position]
      · simp [position, emptyLeft, ClientPosition.afterStop]
  | testJoinable command =>
      rw [← position]
      cases held : engine.thread.handle with
      | none =>
          apply handlerSteps
          · simp only [advance, position, held]
            rfl
          · simp [position, emptyLeft]
      | some index =>
          apply handlerSteps
          · simp only [advance, position, held]
            rfl
          · simp [position, emptyLeft]
  | joining index command =>
      rw [position] at stage
      obtain ⟨_, _, held⟩ := stage
      have inside := sole.valid index held
      have found := List.getElem?_eq_getElem inside
      have ended : engine.thread.threads[index].Ended := by
        apply silent
        rw [ThreadSlot.current, held]
        exact found
      rw [← position]
      apply handlerSteps
      · simp only [advance, position, found, guarded, ended, if_true]
        rfl
      · simp [position, emptyLeft]
  | snapshot =>
      rw [← position]
      apply handlerSteps
      · simp only [advance, position, empty]
        rfl
      · simp [position, emptyLeft]
  | clearStopFlag _ | setPlaying _ | assign _ | loadLines _ | announceLoaded _ =>
      rw [position] at stage
      exact stage.elim

/-- What holds after every run without commands. -/
theorem after_run
    (unloaded : Unloaded client past engine)
    {actions : List (Action Client)}
    (quiet : ∀ action ∈ actions, action.isCommand = false)
    {final : PlaybackEngine Client}
    {history : List PlaybackOutput}
    (ran : run (step host) engine actions = .ok (final, history)) :
    Unloaded client (past ++ history) final := by
  have stepKeeps : ∀ before state action next emitted,
      Unloaded client before state → action.isCommand = false →
      step host state action = .ok (next, emitted) →
        Unloaded client (before ++ emitted) next := by
    intro before state action next emitted holds isQuiet stepped
    exact holds.preserved isQuiet (takes_of_step stepped).2
  exact Run.history_of_eachStep stepKeeps unloaded (EachStep.of_forall quiet) ran

/-- Every such run can be completed. -/
theorem completes (unloaded : Unloaded client past engine) :
    ∃ actions final history,
      (∀ action ∈ actions, action.isCommand = false) ∧
        run (step host) engine actions = .ok (final, history) ∧
        final.Done client := by
  have progress : ∀ state,
      (∃ before, Unloaded client before state) → ¬state.Done client →
        ∃ action next emitted, action.isCommand = false ∧
          step host state action = .ok (next, emitted) ∧
          (∃ before, Unloaded client before next) ∧
            emptyLeft (next.clients client) <
              emptyLeft (state.clients client) := by
    rintro state ⟨before, holds⟩ undone
    obtain ⟨action, next, emitted, quiet, stepped, nearer⟩ :=
      holds.exists_step undone
    exact ⟨action, next, emitted, quiet, stepped, ⟨before ++ emitted,
      holds.preserved quiet (takes_of_step stepped).2⟩, nearer⟩
  exact Run.completes progress ⟨past, unloaded⟩

end Unloaded

/-- A start of an engine at rest never ends the program when no other command
arrives: every run can be completed, and a completed one has done exactly the
playback of the lines. -/
theorem start_plays_back
    {host : PlaybackHost}
    {engine : PlaybackEngine Client}
    (atRest : engine.AtRest)
    (plays : ∀ line ∈ engine.lines, PlaybackThread.Plays host line)
    {client : Client}
    {actions : List (Action Client)}
    (quiet : ∀ action ∈ actions, action.isCommand = false)
    {final : PlaybackEngine Client}
    {history : List PlaybackOutput}
    (ran : run (step host) engine (.command client .playbackStart :: actions) =
      .ok (final, history)) :
    final.fatal = none ∧
      (∃ more last later,
        (∀ action ∈ more, action.isCommand = false) ∧
          run (step host) final more = .ok (last, later) ∧ last.Done client) ∧
      (final.Done client →
        history.filter PlaybackOutput.ofThread = play host engine.lines) := by
  obtain ⟨next, emitted, later, first, rest, rfl⟩ := Run.run_cons_inv ran
  have received : engine.step host (.command client .playbackStart) =
      .ok (engine.receive client .playbackStart, []) := by
    rw [step, atRest.alive]
    simp [atRest.idle client]
  rw [received, Except.ok.injEq, Prod.mk.injEq] at first
  obtain ⟨rfl, rfl⟩ := first
  by_cases empty : engine.lines = []
  · have unloaded :=
      (Unloaded.received atRest empty client).after_run quiet rest
    refine ⟨unloaded.alive, unloaded.completes, fun done => ?_⟩
    have stage := unloaded.stage
    rw [done.idle] at stage
    rw [empty]
    exact stage
  · have uninterrupted :=
      (Uninterrupted.received atRest client).after_run plays empty quiet rest
    exact ⟨uninterrupted.alive, uninterrupted.completes plays empty,
      fun done => uninterrupted.history_of_done done⟩

end PlaybackEngine
end Omniscope
end StarterCpp
