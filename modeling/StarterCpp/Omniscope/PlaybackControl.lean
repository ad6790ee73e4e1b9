import StarterCpp.Omniscope.PlaybackEngine

/-!
# Control of playback by several clients

Two starts that overlap can both find the thread variable released, and the second
assignment then ends the program.  Control is safe as long as a start copies the
lines only when the variable is released and no other start is between its copy
and its assignment, and a stop begins a join only when no other join is going on.
-/

namespace StarterCpp
namespace Omniscope

open PubSub Text

namespace ClientPosition

/-- A start that has copied the lines and has not assigned the thread. -/
def starting : ClientPosition → Bool
  | .clearStopFlag _ | .setPlaying _ | .assign _ => true
  | .idle | .setStopFlag _ | .notifyAll _ | .testJoinable _ | .joining _ _
  | .clearPlaying _ | .snapshot | .completeEmpty | .countMessages
  | .announceStarted _ | .loadLines _ | .announceLoaded _ => false

/-- Inside `join`. -/
def joins : ClientPosition → Bool
  | .joining _ _ => true
  | .idle | .setStopFlag _ | .notifyAll _ | .testJoinable _ | .clearPlaying _
  | .snapshot | .completeEmpty | .clearStopFlag _ | .setPlaying _ | .assign _
  | .countMessages | .announceStarted _ | .loadLines _ | .announceLoaded _ =>
      false

theorem joins_eq_true {position : ClientPosition} :
    position.joins = true ↔
      ∃ index command, position = .joining index command := by
  cases position <;> simp [joins]

/-- No command goes on from its stop to a start's assignment or to a join. -/
@[simp] theorem starting_afterStop (command : PlaybackCommand) :
    (afterStop command).starting = false := by
  cases command <;> rfl

@[simp] theorem joins_afterStop (command : PlaybackCommand) :
    (afterStop command).joins = false := by
  cases command <;> rfl

end ClientPosition

namespace PlaybackEngine

variable {Client : Type*}

/-- The thread variable was never assigned while it was joinable, no two clients
join at once, and at most one playback thread has not ended. -/
structure ControlSafe (engine : PlaybackEngine Client) : Prop where
  assigned : engine.fatal ≠ some .assignedWhileJoinable
  joined : ∀ first second, (engine.clients first).joins = true →
    (engine.clients second).joins = true → first = second
  publishing : ∀ (first second : ℕ) (thread other : PlaybackThread),
    engine.thread.threads[first]? = some thread → ¬thread.Ended →
    engine.thread.threads[second]? = some other → ¬other.Ended →
      first = second

/-- A start copies lines only when the thread variable is released and no other
start is about to assign it; a stop joins only when nobody else does. -/
def Orderly (engine : PlaybackEngine Client) : Action Client → Prop
  | .client client =>
      (engine.clients client = .snapshot → engine.lines ≠ [] →
        engine.thread.handle = none ∧
          ∀ other, (engine.clients other).starting = false) ∧
      (∀ command, engine.clients client = .testJoinable command →
        engine.thread.handle ≠ none →
          ∀ other, (engine.clients other).joins = false)
  | .command _ _ | .thread _ _ => True

/-- What holds of an engine whose control has been orderly. -/
structure Controlled (engine : PlaybackEngine Client) : Prop where
  assigned : engine.fatal ≠ some .assignedWhileJoinable
  sole : engine.thread.Sole PlaybackThread.Ended
  /-- The thread variable stays released up to the assignment. -/
  released : ∀ client, (engine.clients client).starting = true →
    engine.thread.handle = none
  oneStarts : ∀ first second, (engine.clients first).starting = true →
    (engine.clients second).starting = true → first = second
  /-- The thread variable stays joinable during a join. -/
  held : ∀ client index command,
    engine.clients client = .joining index command →
      engine.thread.handle = some index
  oneJoins : ∀ first second, (engine.clients first).joins = true →
    (engine.clients second).joins = true → first = second

namespace Controlled

variable {engine : PlaybackEngine Client}

theorem new : Controlled (new : PlaybackEngine Client) where
  assigned := by simp [PlaybackEngine.new]
  sole := .empty
  released := by simp [PlaybackEngine.new, ThreadSlot.empty]
  oneStarts := by simp [PlaybackEngine.new, ClientPosition.starting]
  held := by simp [PlaybackEngine.new]
  oneJoins := by simp [PlaybackEngine.new, ClientPosition.joins]

theorem controlSafe (controlled : Controlled engine) : ControlSafe engine where
  assigned := controlled.assigned
  joined := controlled.oneJoins
  publishing := by
    intro first second thread other foundFirst firstRuns foundSecond secondRuns
    exact controlled.sole.unique foundFirst firstRuns foundSecond secondRuns

variable [DecidableEq Client]

/-- A handler moves; it begins a start or a join only when no other one does and
the thread variable allows it. -/
theorem moveClient
    (controlled : Controlled engine)
    {client : Client}
    {position : ClientPosition}
    (starts : position.starting = true → engine.thread.handle = none ∧
      ∀ other, (engine.clients other).starting = true → other = client)
    (joins : ∀ index command, position = .joining index command →
      engine.thread.handle = some index ∧
        ∀ other, (engine.clients other).joins = true → other = client) :
    Controlled (engine.moveClient client position) where
  assigned := controlled.assigned
  sole := controlled.sole
  released := by
    intro other startsNow
    rw [clients_moveClient] at startsNow
    split_ifs at startsNow with same
    · exact (starts startsNow).1
    · exact controlled.released other startsNow
  oneStarts := by
    intro first second firstStarts secondStarts
    rw [clients_moveClient] at firstStarts secondStarts
    split_ifs at firstStarts secondStarts with isFirst isSecond isSecond
    · rw [isFirst, isSecond]
    · rw [isFirst, (starts firstStarts).2 second secondStarts]
    · rw [isSecond, (starts secondStarts).2 first firstStarts]
    · exact controlled.oneStarts first second firstStarts secondStarts
  held := by
    intro other index command inside
    rw [clients_moveClient] at inside
    split_ifs at inside with same
    · exact (joins index command inside).1
    · exact controlled.held other index command inside
  oneJoins := by
    intro first second firstJoins secondJoins
    rw [clients_moveClient] at firstJoins secondJoins
    split_ifs at firstJoins secondJoins with isFirst isSecond isSecond
    · rw [isFirst, isSecond]
    · obtain ⟨index, command, joining⟩ := ClientPosition.joins_eq_true.mp firstJoins
      rw [isFirst, (joins index command joining).2 second secondJoins]
    · obtain ⟨index, command, joining⟩ :=
        ClientPosition.joins_eq_true.mp secondJoins
      rw [isSecond, (joins index command joining).2 first firstJoins]
    · exact controlled.oneJoins first second firstJoins secondJoins

/-- A handler moves to where it neither starts nor joins. -/
theorem moveClient_calm
    (controlled : Controlled engine)
    (client : Client)
    {position : ClientPosition}
    (starts : position.starting = false)
    (joins : position.joins = false) :
    Controlled (engine.moveClient client position) := by
  apply controlled.moveClient
  · intro startsNow
    rw [starts] at startsNow
    cases startsNow
  · intro index command joining
    rw [joining] at joins
    cases joins

/-- A start goes on to its assignment. -/
theorem moveClient_starting
    (controlled : Controlled engine)
    {client : Client}
    {position : ClientPosition}
    (started : (engine.clients client).starting = true)
    (joins : position.joins = false) :
    Controlled (engine.moveClient client position) := by
  apply controlled.moveClient
  · intro _
    refine ⟨controlled.released client started, ?_⟩
    intro other otherStarts
    exact controlled.oneStarts other client otherStarts started
  · intro index command joining
    rw [joining] at joins
    cases joins

omit [DecidableEq Client] in
/-- The variable is released after a join of its thread. -/
theorem release
    (controlled : Controlled engine)
    (nobodyJoins : ∀ client, (engine.clients client).joins = false)
    (ended : ∀ thread, engine.thread.current = some thread → thread.Ended) :
    Controlled { engine with thread := engine.thread.release } where
  assigned := controlled.assigned
  sole := controlled.sole.release ended
  released := by
    intro client starts
    rfl
  oneStarts := controlled.oneStarts
  held := by
    intro client index command inside
    have outside := nobodyJoins client
    rw [inside] at outside
    cases outside
  oneJoins := controlled.oneJoins

omit [DecidableEq Client] in
/-- A thread is assigned to the released variable. -/
theorem spawn
    (controlled : Controlled engine)
    (nobodyStarts : ∀ client, (engine.clients client).starting = false)
    (released : engine.thread.handle = none)
    (thread : PlaybackThread) :
    Controlled { engine with thread := engine.thread.spawn thread } where
  assigned := controlled.assigned
  sole := controlled.sole.spawn released thread
  released := by
    intro client starts
    rw [nobodyStarts client] at starts
    cases starts
  oneStarts := controlled.oneStarts
  held := by
    intro client index command inside
    have held := controlled.held client index command inside
    rw [released] at held
    cases held
  oneJoins := controlled.oneJoins

/-- A handler returns from its join. -/
theorem joined
    (controlled : Controlled engine)
    {client : Client}
    {index : ℕ}
    {command : PlaybackCommand}
    {thread : PlaybackThread}
    (joining : engine.clients client = .joining index command)
    (found : engine.thread.threads[index]? = some thread)
    (ended : thread.Ended) :
    Controlled ({ engine with thread := engine.thread.release }.moveClient client
      (.clearPlaying command)) := by
  have isCurrent : engine.thread.current = some thread := by
    rw [ThreadSlot.current, controlled.held client index command joining]
    exact found
  apply (controlled.moveClient_calm client rfl rfl).release
  · intro other
    rw [clients_moveClient]
    split_ifs with same
    · rfl
    · by_contra joins
      rw [Bool.not_eq_false] at joins
      apply same
      apply controlled.oneJoins other client joins
      exact ClientPosition.joins_eq_true.mpr ⟨index, command, joining⟩
  · intro current currentThread
    change engine.thread.current = some current at currentThread
    rw [isCurrent, Option.some.injEq] at currentThread
    rw [← currentThread]
    exact ended

/-- A start assigns its thread. -/
theorem assign
    (controlled : Controlled engine)
    {client : Client}
    {lines : List ByteString}
    (assigning : engine.clients client = .assign lines)
    (released : engine.thread.handle = none) :
    Controlled ({ engine with
      thread := engine.thread.spawn (.start lines) }.moveClient client
        .countMessages) := by
  have starts : (engine.clients client).starting = true := by
    rw [assigning]
    rfl
  apply (controlled.moveClient_calm client rfl rfl).spawn
  · intro other
    rw [clients_moveClient]
    split_ifs with same
    · rfl
    · by_contra otherStarts
      rw [Bool.not_eq_false] at otherStarts
      exact same (controlled.oneStarts other client otherStarts starts)
  · exact released

omit [DecidableEq Client] in
/-- The flags and the lines do not matter. -/
theorem change
    (controlled : Controlled engine)
    (lines : List ByteString)
    (stopFlag playing : Bool) :
    Controlled { engine with
      lines := lines
      stopFlag := stopFlag
      playing := playing } where
  assigned := controlled.assigned
  sole := controlled.sole
  released := controlled.released
  oneStarts := controlled.oneStarts
  held := controlled.held
  oneJoins := controlled.oneJoins

omit [DecidableEq Client] in
/-- The threads move and none comes back to life. -/
theorem moveThreads
    (controlled : Controlled engine)
    {threads : ThreadSlot PlaybackThread}
    (sole : threads.Sole PlaybackThread.Ended)
    (sameHandle : threads.handle = engine.thread.handle) :
    Controlled { engine with thread := threads } where
  assigned := controlled.assigned
  sole := sole
  released := by
    intro client starts
    rw [sameHandle]
    exact controlled.released client starts
  oneStarts := controlled.oneStarts
  held := by
    intro client index command inside
    rw [sameHandle]
    exact controlled.held client index command inside
  oneJoins := controlled.oneJoins

omit [DecidableEq Client] in
/-- Every thread is notified. -/
theorem notifyAll (controlled : Controlled engine) :
    Controlled { engine with
      thread := engine.thread.map PlaybackThread.notify } := by
  apply controlled.moveThreads
  · apply controlled.sole.map
    intro thread ended
    rw [PlaybackThread.ended_notify]
    exact ended
  · rfl

/-- An orderly step of a handler keeps control safe. -/
theorem advance
    (controlled : Controlled engine)
    {client : Client}
    {emitted : List PlaybackOutput}
    {next : PlaybackEngine Client}
    (orderly : engine.Orderly (.client client))
    (advances : engine.Advances client emitted next) :
    Controlled next := by
  cases advances with
  | setStopFlag position =>
      apply (controlled.change engine.lines true engine.playing).moveClient_calm
      · rfl
      · rfl
  | notifyAll position =>
      apply controlled.notifyAll.moveClient_calm
      · rfl
      · rfl
  | joinable position held =>
      apply controlled.moveClient
      · intro starts
        cases starts
      · intro index command joining
        have alone := orderly.2 _ position (by simp [held])
        cases joining
        refine ⟨held, ?_⟩
        intro other joins
        rw [alone other] at joins
        cases joins
  | joined position found ended => exact controlled.joined position found ended
  | clearPlaying position =>
      apply (controlled.change engine.lines engine.stopFlag false).moveClient_calm
      · apply ClientPosition.starting_afterStop
      · apply ClientPosition.joins_afterStop
  | snapshot position nonempty =>
      obtain ⟨released, alone⟩ := orderly.1 position nonempty
      apply controlled.moveClient
      · intro _
        refine ⟨released, ?_⟩
        intro other starts
        rw [alone other] at starts
        cases starts
      · intro index command joining
        cases joining
  | clearStopFlag position =>
      apply (controlled.change engine.lines false
        engine.playing).moveClient_starting
      · rw [position]
        rfl
      · rfl
  | setPlaying position =>
      apply (controlled.change engine.lines engine.stopFlag
        true).moveClient_starting
      · rw [position]
        rfl
      · rfl
  | assignFatal position held =>
      have released := controlled.released client (by rw [position]; rfl)
      rw [released] at held
      cases held
  | assign position released => exact controlled.assign position released
  | loadLines position =>
      apply (controlled.change _ engine.stopFlag engine.playing).moveClient_calm
      · rfl
      · rfl
  | notJoinable position _ | nothingLoaded position _ | completeEmpty position
  | countMessages position | announceStarted position
  | announceLoaded position =>
      apply controlled.moveClient_calm
      · rfl
      · rfl

/-- An orderly action keeps control safe. -/
theorem preserved
    (controlled : Controlled engine)
    {host : PlaybackHost}
    {action : Action Client}
    {emitted : List PlaybackOutput}
    {next : PlaybackEngine Client}
    (orderly : engine.Orderly action)
    (takes : engine.Takes host action emitted next) :
    Controlled next := by
  cases takes with
  | @command client command position =>
      cases command with
      | playbackStart | playbackStop =>
          apply controlled.moveClient_calm
          · rfl
          · rfl
      | playbackLoad body =>
          cases body with
          | nil => exact controlled
          | cons byte body =>
              apply controlled.moveClient_calm
              · rfl
              · rfl
  | client advances => exact controlled.advance orderly advances
  | @thread index _ thread moved _ found moves =>
      have threadsMove := controlled.moveThreads
        (controlled.sole.set found moves.running moved) rfl
      exact threadsMove.change engine.lines engine.stopFlag
        (engine.playing && !thread.clearsPlaying)
  | throws found throws =>
      exact
        { assigned := by simp
          sole := controlled.sole
          released := controlled.released
          oneStarts := controlled.oneStarts
          held := controlled.held
          oneJoins := controlled.oneJoins }

end Controlled
/-! ## How disorder ends -/

section Disorder

variable [DecidableEq Client]
variable {host : PlaybackHost}
variable {engine : PlaybackEngine Client}
variable {client : Client}

/-- A start goes on to its assignment by itself, and leaves the thread variable and
the other handlers. -/
theorem reaches_assign
    (alive : engine.fatal = none)
    (starts : (engine.clients client).starting = true) :
    ∃ more reached lines,
      run (step host) engine more = .ok (reached, []) ∧
        reached.fatal = none ∧ reached.thread = engine.thread ∧
        reached.clients client = .assign lines ∧
        ∀ other, other ≠ client → reached.clients other = engine.clients other := by
  have fromSetPlaying : ∀ (before : PlaybackEngine Client) lines,
      before.fatal = none → before.clients client = .setPlaying lines →
        before.step host (.client client) =
          .ok ({ before with playing := true }.moveClient client
            (.assign lines), []) := by
    intro before lines beforeAlive position
    rw [step_client beforeAlive, advance, position]
  cases position : engine.clients client with
  | clearStopFlag lines =>
      have first : engine.step host (.client client) =
          .ok ({ engine with stopFlag := false }.moveClient client
            (.setPlaying lines), []) := by
        rw [step_client alive, advance, position]
      have second := fromSetPlaying
        ({ engine with stopFlag := false }.moveClient client (.setPlaying lines))
        lines alive (by simp)
      refine ⟨[.client client, .client client], _, lines,
        Run.run_cons_ok first (Run.run_cons_ok second rfl), alive, rfl,
        by simp, ?_⟩
      intro other different
      simp [different]
  | setPlaying lines =>
      have first := fromSetPlaying engine lines alive position
      refine ⟨[.client client], _, lines, Run.run_cons_ok first rfl, alive, rfl,
        by simp, ?_⟩
      intro other different
      simp [different]
  | assign lines =>
      exact ⟨[], engine, lines, rfl, alive, rfl, position, fun _ _ => rfl⟩
  | idle | setStopFlag _ | notifyAll _ | testJoinable _ | joining _ _
  | clearPlaying _ | snapshot | completeEmpty | countMessages
  | announceStarted _ | loadLines _ | announceLoaded _ =>
      rw [position] at starts
      cases starts

/-- A start whose thread variable has become joinable ends the program. -/
theorem ends_of_held
    (alive : engine.fatal = none)
    (starts : (engine.clients client).starting = true)
    {index : ℕ}
    (held : engine.thread.handle = some index) :
    ∃ more final,
      run (step host) engine more = .ok (final, []) ∧
        final.fatal = some .assignedWhileJoinable := by
  obtain ⟨more, reached, lines, ran, reachedAlive, sameThread, position, _⟩ :=
    reaches_assign alive starts
  have last : reached.step host (.client client) =
      .ok ({ reached with fatal := some .assignedWhileJoinable }, []) := by
    rw [step_client reachedAlive, advance, position, sameThread, held]
  exact ⟨more ++ [.client client],
    { reached with fatal := some .assignedWhileJoinable },
    Run.run_append ran (Run.run_cons_ok last rfl), rfl⟩

/-- A start that finds the variable released makes it joinable. -/
theorem holds_of_released
    (alive : engine.fatal = none)
    (starts : (engine.clients client).starting = true)
    (released : engine.thread.handle = none) :
    ∃ more reached index,
      run (step host) engine more = .ok (reached, []) ∧
        reached.fatal = none ∧ reached.thread.handle = some index ∧
        ∀ other, other ≠ client → reached.clients other = engine.clients other := by
  obtain ⟨more, reached, lines, ran, reachedAlive, sameThread, position, others⟩ :=
    reaches_assign alive starts
  have last : reached.step host (.client client) =
      .ok ({ reached with
        thread := reached.thread.spawn (.start lines) }.moveClient client
          .countMessages, []) := by
    rw [step_client reachedAlive, advance, position, sameThread, released]
  refine ⟨more ++ [.client client],
    { reached with
      thread := reached.thread.spawn (.start lines) }.moveClient client
        .countMessages, reached.thread.threads.length,
    Run.run_append ran (Run.run_cons_ok last rfl), reachedAlive, ?_, ?_⟩
  · rfl
  · intro other different
    simp [different, others other different]

/-- A start that copies lines while the variable is joinable or another start is
about to assign it can end the program. -/
theorem lost_of_overlap
    (alive : engine.fatal = none)
    (position : engine.clients client = .snapshot)
    (busy : engine.thread.handle = none →
      ∃ other, (engine.clients other).starting = true) :
    ∃ more final,
      run (step host) (engine.moveClient client (.clearStopFlag engine.lines))
          more = .ok (final, []) ∧
        final.fatal = some .assignedWhileJoinable := by
  have aliveNow : (engine.moveClient client
      (.clearStopFlag engine.lines)).fatal = none :=
    alive
  have starts : ((engine.moveClient client (.clearStopFlag engine.lines)).clients
      client).starting = true := by
    rw [clients_moveClient_self]
    rfl
  cases held : engine.thread.handle with
  | some index => exact ends_of_held aliveNow starts held
  | none =>
      obtain ⟨other, otherStarts⟩ := busy held
      have different : other ≠ client := by
        intro same
        rw [same, position] at otherStarts
        cases otherStarts
      have stillStarts : ((engine.moveClient client
          (.clearStopFlag engine.lines)).clients other).starting = true := by
        rw [clients_moveClient_of_ne _ different]
        exact otherStarts
      obtain ⟨more, reached, index, ran, reachedAlive, heldNow, others⟩ :=
        holds_of_released aliveNow stillStarts held
      rw [← others client different.symm] at starts
      obtain ⟨rest, final, ranRest, ended⟩ :=
        ends_of_held reachedAlive starts heldNow
      exact ⟨more ++ rest, final, Run.run_append ran ranRest, ended⟩

omit [DecidableEq Client] in
/-- What a disorderly action is. -/
theorem disorder_cases
    {action : Action Client}
    (disorder : ¬engine.Orderly action) :
    ∃ client, action = .client client ∧
      ((engine.clients client = .snapshot ∧ engine.lines ≠ [] ∧
          (engine.thread.handle = none →
            ∃ other, (engine.clients other).starting = true)) ∨
        ∃ command index other,
          engine.clients client = .testJoinable command ∧
            engine.thread.handle = some index ∧
            (engine.clients other).joins = true) := by
  cases action with
  | command client command | thread index event =>
      exact absurd trivial disorder
  | client client =>
      refine ⟨client, rfl, ?_⟩
      rw [Orderly, not_and_or] at disorder
      rcases disorder with copies | joins
      · left
        push Not at copies
        simpa using copies
      · right
        push Not at joins
        obtain ⟨command, position, held, other, otherJoins⟩ := joins
        obtain ⟨index, isHeld⟩ := Option.ne_none_iff_exists'.mp held
        exact ⟨command, index, other, position, isHeld, by simpa using otherJoins⟩

/-- After a disorderly action some run makes control fail. -/
theorem lost_of_disorder
    {action : Action Client}
    {emitted : List PlaybackOutput}
    {next : PlaybackEngine Client}
    (stepped : engine.step host action = .ok (next, emitted))
    (disorder : ¬engine.Orderly action) :
    ∃ more final later,
      run (step host) next more = .ok (final, later) ∧ ¬ControlSafe final := by
  have alive := (takes_of_step stepped).1
  obtain ⟨client, rfl, ⟨position, nonempty, busy⟩ |
    ⟨command, index, other, position, held, otherJoins⟩⟩ := disorder_cases disorder
  · have taken : engine.step host (.client client) =
        .ok (engine.moveClient client (.clearStopFlag engine.lines), []) := by
      obtain ⟨line, lines, loaded⟩ := List.exists_cons_of_ne_nil nonempty
      rw [step_client alive, advance, position, loaded]
    rw [taken, Except.ok.injEq, Prod.mk.injEq] at stepped
    obtain ⟨rfl, rfl⟩ := stepped
    obtain ⟨more, final, ran, ended⟩ :=
      lost_of_overlap alive position busy
    exact ⟨more, final, [], ran, fun safe => safe.assigned ended⟩
  · have taken : engine.step host (.client client) =
        .ok (engine.moveClient client (.joining index command), []) := by
      rw [step_client alive, advance, position, held]
    rw [taken, Except.ok.injEq, Prod.mk.injEq] at stepped
    obtain ⟨rfl, rfl⟩ := stepped
    refine ⟨[], _, [], rfl, ?_⟩
    intro safe
    have different : other ≠ client := by
      intro same
      rw [same, position] at otherJoins
      cases otherJoins
    apply different
    apply safe.joined
    · rw [clients_moveClient_of_ne _ different]
      exact otherJoins
    · rw [clients_moveClient_self]
      rfl

end Disorder

/-! ## Control is safe as long as it is orderly -/

/-- For any clients and any interleaving, control is safe as long as every action
is orderly, and after the first action that is not some interleaving makes it
fail. -/
theorem controlSafe_decided
    [DecidableEq Client]
    (host : PlaybackHost) :
    Decides (step host) (new : PlaybackEngine Client) Orderly
      (fun _ engine => ControlSafe engine) := by
  let Holds : List PlaybackOutput → PlaybackEngine Client → Prop :=
    fun _ engine => Controlled engine
  have initial : Holds [] new := Controlled.new
  apply Decides.of_invariant initial
  · intro past engine action next emitted controlled orderly stepped
    exact controlled.preserved orderly (takes_of_step stepped).2
  · intro past engine controlled
    exact controlled.controlSafe
  · intro past engine action next emitted controlled stepped disorder
    exact lost_of_disorder stepped disorder

/-- The steps of a handler one after the other. -/
def handles (client : Client) (count : ℕ) : List (Action Client) :=
  List.replicate count (.client client)

/-- Two clients start the same recording: both copy the lines, then both assign. -/
theorem overlapping_starts_terminate :
    ∃ (host : PlaybackHost) (final : PlaybackEngine Bool)
        (outputs : List PlaybackOutput),
      run (step host) new
          (.command true (.playbackLoad (ascii "\x7b\x7d\n")) :: handles true 6 ++
            .command true .playbackStart :: .command false .playbackStart ::
              handles true 5 ++ handles false 5 ++ handles true 3 ++
                handles false 3) = .ok (final, outputs) ∧
        ¬ControlSafe final := by
  let host : PlaybackHost := {
    load := fun _ => some (.object [])
    dump := fun _ => ascii "\x7b\x7d"
    lexicalCast := fun _ => none
    publish := fun _ _ => true }
  refine ⟨host, _, _, rfl, ?_⟩
  intro safe
  exact safe.assigned rfl

end PlaybackEngine
end Omniscope
end StarterCpp
