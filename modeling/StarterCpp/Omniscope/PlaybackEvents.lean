import Mathlib.Data.List.Induction
import StarterCpp.Omniscope.PlaybackControl

/-!
# The order of the playback events

With one client the browser's events come in the order of the protocol, and its
playing flag is right, as long as every started recording has lines, the playback
thread broadcasts nothing between its assignment and the handler's broadcast of the
start, and neither a line nor the publish callback makes it throw.
-/

namespace StarterCpp
namespace Omniscope

open PubSub Text

/-! ## The protocol -/

/-- What the events so far add up to. -/
inductive PlaybackPhase
  | idle
  /-- A playback was announced; its last reported progress. -/
  | playing (last : ℕ)
  deriving DecidableEq, Repr

namespace PlaybackPhase

/-- The phase after an event, if the event is in order. -/
def next : PlaybackPhase → PlaybackOutput → Option PlaybackPhase
  | .idle, .started _ => some (.playing 0)
  | .idle, .progressed _ _ | .idle, .completed _ => none
  | .playing _, .started _ => none
  | .playing last, .progressed current _ =>
      if last < current then some (.playing current) else none
  | .playing _, .completed _ => some .idle
  | phase, .sleeping _ | phase, .published _ _ | phase, .loaded _ => some phase

/-- The page's flag. -/
def flag : PlaybackPhase → Bool
  | .idle => false
  | .playing _ => true

end PlaybackPhase

/-- The phase after a history whose events are in order. -/
def phaseAfter (history : List PlaybackOutput) : Option PlaybackPhase :=
  history.foldlM PlaybackPhase.next .idle

theorem phaseAfter_append
    {past : List PlaybackOutput}
    {phase : PlaybackPhase}
    (reached : phaseAfter past = some phase)
    (emitted : List PlaybackOutput) :
    phaseAfter (past ++ emitted) = emitted.foldlM PlaybackPhase.next phase := by
  rw [phaseAfter] at reached ⊢
  rw [List.foldlM_append, reached]
  rfl

/-- What an event does to the flag `playing` of a page. -/
def onmessage (playing : Bool) : PlaybackOutput → Bool
  | .started _ => true
  | .completed _ => false
  | .sleeping _ | .published _ _ | .progressed _ _ | .loaded _ => playing

/-- The flag of a page that has received the events. -/
def pagePlaying (history : List PlaybackOutput) : Bool :=
  history.foldl onmessage false

theorem flag_next
    {phase after : PlaybackPhase}
    {output : PlaybackOutput}
    (inOrder : phase.next output = some after) :
    after.flag = onmessage phase.flag output := by
  cases phase with
  | idle =>
      cases output with
      | started _ | sleeping _ | published _ _ | loaded _ =>
          cases inOrder
          rfl
      | progressed _ _ | completed _ => cases inOrder
  | playing last =>
      cases output with
      | progressed current total =>
          simp only [PlaybackPhase.next, Option.ite_none_right_eq_some,
            Option.some.injEq] at inOrder
          rw [← inOrder.2]
          rfl
      | completed _ | sleeping _ | published _ _ | loaded _ =>
          cases inOrder
          rfl
      | started _ => cases inOrder

/-- While the events are in order the page's flag follows them. -/
theorem pagePlaying_eq
    {history : List PlaybackOutput}
    {phase : PlaybackPhase}
    (reached : phaseAfter history = some phase) :
    pagePlaying history = phase.flag := by
  induction history using List.reverseRecOn generalizing phase with
  | nil =>
      cases reached
      rfl
  | append_singleton past output inductionHypothesis =>
      rw [phaseAfter, List.foldlM_append, Option.bind_eq_bind,
        Option.bind_eq_some_iff] at reached
      obtain ⟨before, beforeReached, last⟩ := reached
      simp only [List.foldlM_cons, List.foldlM_nil, bind_pure] at last
      rw [pagePlaying, List.foldl_append, ← pagePlaying,
        inductionHypothesis beforeReached, flag_next last]
      rfl

namespace PlaybackThread

/-- Whether the thread's next step is a broadcast. -/
def broadcasts (thread : PlaybackThread) : Bool :=
  match thread.position with
  | .progress _ | .complete _ => true
  | .loadFirst | .loopTest _ | .decode _ | .sleep _ _ _ _ | .checkStop _ _ _
  | .publish _ _ _ | .readFlag | .clearPlaying _ | .finished => false

/-- A thread that has not ended and has reported no more than a number of
messages. -/
def Reported (thread : PlaybackThread) (last : ℕ) : Prop :=
  match thread.position with
  | .loadFirst => last = 0
  | .loopTest index | .decode index | .sleep index _ _ _ | .checkStop index _ _
  | .publish index _ _ | .progress index => last ≤ index
  | .readFlag | .clearPlaying _ | .complete _ => True
  | .finished => False

theorem Reported.running
    {thread : PlaybackThread}
    {last : ℕ}
    (reported : thread.Reported last) :
    ¬thread.Ended := by
  intro ended
  rw [Ended] at ended
  rw [Reported, ended] at reported
  exact reported

/-- A thread that has not ended may have reported nothing. -/
theorem reported_zero
    {thread : PlaybackThread}
    (running : ¬thread.Ended) :
    thread.Reported 0 := by
  cases position : thread.position with
  | finished => exact absurd position running
  | loadFirst | loopTest _ | decode _ | sleep _ _ _ _ | checkStop _ _ _
  | publish _ _ _ | progress _ | readFlag | clearPlaying _ | complete _ =>
      simp [Reported, position]

@[simp] theorem reported_notify (thread : PlaybackThread) (last : ℕ) :
    thread.notify.Reported last ↔ thread.Reported last := by
  cases position : thread.position with
  | sleep index wait topic rec => simp [Reported, notify, moveTo, position]
  | loadFirst | loopTest _ | decode _ | checkStop _ _ _ | publish _ _ _
  | progress _ | readFlag | clearPlaying _ | complete _ | finished =>
      simp [Reported, notify, position]

/-- What a thread emits outside its broadcasts does not concern the protocol. -/
theorem Moves.silent
    {host : PlaybackHost}
    {stopFlag : Bool}
    {thread next : PlaybackThread}
    {emitted : List PlaybackOutput}
    (moves : thread.Moves host stopFlag emitted next)
    (silent : thread.broadcasts = false)
    (phase : PlaybackPhase) :
    emitted.foldlM PlaybackPhase.next phase = some phase ∧ ¬next.Ended := by
  cases moves with
  | progress position | complete position => simp [broadcasts, position] at silent
  | sleep | publish => cases phase <;> simp [PlaybackPhase.next, Ended, moveTo]
  | loadFirst | enter | leave | skip | proceed | wait | wake | awake | interrupt
  | goOn | readFlag | clearPlaying =>
      simp [Ended, moveTo]

end PlaybackThread

/-- The phase fits the thread that the thread variable refers to. -/
def Reports (current : Option PlaybackThread) : PlaybackPhase → Prop
  | .idle => ∀ thread, current = some thread → thread.Ended
  | .playing last => ∃ thread, current = some thread ∧ thread.Reported last

/-- The events of a thread are in order. -/
theorem PlaybackThread.Moves.reports
    {host : PlaybackHost}
    {stopFlag : Bool}
    {thread next : PlaybackThread}
    {emitted : List PlaybackOutput}
    (moves : thread.Moves host stopFlag emitted next)
    {last : ℕ}
    (reported : thread.Reported last) :
    ∃ phase, emitted.foldlM PlaybackPhase.next (.playing last) = some phase ∧
      Reports (some next) phase := by
  rw [Reported] at reported
  cases moves with
  | progress position =>
      rw [position] at reported
      have more : last < _ + 1 := Nat.lt_succ_of_le reported
      refine ⟨.playing _, by simp [PlaybackPhase.next, more]; rfl, _, rfl, ?_⟩
      exact le_rfl
  | complete position =>
      refine ⟨.idle, rfl, ?_⟩
      intro thread isNext
      rw [← Option.some.inj isNext]
      rfl
  | loadFirst position _ =>
      rw [position] at reported
      exact ⟨.playing last, rfl, _, rfl, reported.le⟩
  | skip position _ _ =>
      rw [position] at reported
      exact ⟨.playing last, rfl, _, rfl, Nat.le_succ_of_le reported⟩
  | leave position _ | interrupt position _ | readFlag position
  | clearPlaying position =>
      exact ⟨.playing last, rfl, _, rfl, trivial⟩
  | enter position _ _ | sleep position _ _ _ | proceed position _ _ _
  | wait position _ | wake position | awake position _ | goOn position _
  | publish position _ =>
      rw [position] at reported
      exact ⟨.playing last, rfl, _, rfl, reported⟩

/-- A handler that has started the engine and not yet broadcast the start. -/
def ClientPosition.announcing : ClientPosition → Bool
  | .countMessages | .announceStarted _ => true
  | .idle | .setStopFlag _ | .notifyAll _ | .testJoinable _ | .joining _ _
  | .clearPlaying _ | .snapshot | .completeEmpty | .clearStopFlag _
  | .setPlaying _ | .assign _ | .loadLines _ | .announceLoaded _ => false

namespace PlaybackEngine

/-! ## What the browser sees -/

/-- The events are in order, and outside an announcement the page's flag is true
exactly while a playback thread has not ended. -/
structure EventsInOrder
    (past : List PlaybackOutput)
    (engine : PlaybackEngine Unit) : Prop where
  ordered : phaseAfter past ≠ none
  alive : engine.fatal = none
  flag : (engine.clients ()).announcing = false →
    (pagePlaying past = true ↔
      ∃ (index : ℕ) (thread : PlaybackThread),
        engine.thread.threads[index]? = some thread ∧ ¬thread.Ended)

/-- A recording that is started has lines, no playback thread throws, and none
broadcasts during an announcement. -/
def Undisturbed (host : PlaybackHost) (engine : PlaybackEngine Unit) : Action Unit → Prop
  | .command _ _ => True
  | .client _ => engine.clients () = .snapshot → engine.lines ≠ []
  | .thread index event =>
      ∀ thread, engine.thread.threads[index]? = some thread →
        ¬(event = .advance ∧ thread.Throws host) ∧
          ((engine.clients ()).announcing = true → thread.broadcasts = false)

/-- How the history fits the thread variable, by the position of the handler. -/
def Fits
    (past : List PlaybackOutput)
    (thread : ThreadSlot PlaybackThread) : ClientPosition → Prop
  | .idle | .setStopFlag _ | .notifyAll _ | .testJoinable _ | .joining _ _ =>
      ∃ phase, phaseAfter past = some phase ∧ Reports thread.current phase
  | .clearPlaying _ | .snapshot | .clearStopFlag _ | .setPlaying _ | .assign _
  | .loadLines _ | .announceLoaded _ =>
      phaseAfter past = some .idle ∧ thread.handle = none
  | .countMessages | .announceStarted _ =>
      phaseAfter past = some .idle ∧
        ∃ current, thread.current = some current ∧ ¬current.Ended
  | .completeEmpty => False

/-- What holds of an engine and the history before it when nothing has disturbed
them. -/
structure Following
    (past : List PlaybackOutput)
    (engine : PlaybackEngine Unit) : Prop where
  controlled : engine.Controlled
  alive : engine.fatal = none
  fits : Fits past engine.thread (engine.clients ())

namespace Following

variable {past : List PlaybackOutput}
variable {engine : PlaybackEngine Unit}

theorem new : Following [] new where
  controlled := .new
  alive := rfl
  fits := by
    refine ⟨.idle, rfl, ?_⟩
    intro thread isCurrent
    cases isCurrent

/-- The history that fits the thread variable is in order. -/
theorem ordered (following : Following past engine) :
    ∃ phase, phaseAfter past = some phase := by
  have fits := following.fits
  cases position : engine.clients () with
  | idle | setStopFlag _ | notifyAll _ | testJoinable _ | joining _ _ =>
      rw [position] at fits
      obtain ⟨phase, reached, _⟩ := fits
      exact ⟨phase, reached⟩
  | clearPlaying _ | snapshot | clearStopFlag _ | setPlaying _ | assign _
  | loadLines _ | announceLoaded _ | countMessages | announceStarted _ =>
      rw [position] at fits
      exact ⟨.idle, fits.1⟩
  | completeEmpty =>
      rw [position] at fits
      exact fits.elim

/-- Outside an announcement the phase fits the thread variable. -/
theorem reports
    (following : Following past engine)
    (quiet : (engine.clients ()).announcing = false) :
    ∃ phase, phaseAfter past = some phase ∧
      Reports engine.thread.current phase := by
  have fits := following.fits
  cases position : engine.clients () with
  | idle | setStopFlag _ | notifyAll _ | testJoinable _ | joining _ _ =>
      rw [position] at fits
      exact fits
  | clearPlaying _ | snapshot | clearStopFlag _ | setPlaying _ | assign _
  | loadLines _ | announceLoaded _ =>
      rw [position] at fits
      refine ⟨.idle, fits.1, ?_⟩
      intro thread isCurrent
      rw [following.controlled.sole.current_eq_none.mpr fits.2] at isCurrent
      cases isCurrent
  | countMessages | announceStarted _ =>
      rw [position] at quiet
      cases quiet
  | completeEmpty =>
      rw [position] at fits
      exact fits.elim

theorem eventsInOrder (following : Following past engine) :
    EventsInOrder past engine where
  ordered := by
    obtain ⟨phase, reached⟩ := following.ordered
    simp [reached]
  alive := following.alive
  flag := by
    intro quiet
    obtain ⟨phase, reached, reports⟩ := following.reports quiet
    rw [pagePlaying_eq reached]
    cases phase with
    | idle =>
        simp only [PlaybackPhase.flag, Bool.false_eq_true, false_iff]
        rintro ⟨index, thread, found, running⟩
        have isCurrent :=
          following.controlled.sole.current_of_alive found running
        exact running (reports thread isCurrent)
    | playing last =>
        simp only [PlaybackPhase.flag, true_iff]
        obtain ⟨thread, isCurrent, reported⟩ := reports
        obtain ⟨index, _, found⟩ := Option.bind_eq_some_iff.mp isCurrent
        exact ⟨index, thread, found, reported.running⟩

/-- With one client every action is orderly. -/
theorem orderly
    (following : Following past engine)
    (action : Action Unit) :
    engine.Orderly action := by
  cases action with
  | command client command | thread index event => trivial
  | client client =>
      have fits := following.fits
      constructor
      · intro position _
        change engine.clients () = _ at position
        rw [position] at fits
        refine ⟨fits.2, ?_⟩
        intro other
        rw [position]
        rfl
      · intro command position _ other
        change engine.clients () = _ at position
        rw [position]
        rfl

/-- A released thread variable refers to no thread. -/
theorem reports_idle_of_released
    (following : Following past engine)
    (released : engine.thread.handle = none) :
    Reports engine.thread.current .idle := by
  intro thread isCurrent
  rw [following.controlled.sole.current_eq_none.mpr released] at isCurrent
  cases isCurrent

/-- Without a thread that has not ended the phase is idle. -/
theorem idle_of_ended
    {current : Option PlaybackThread}
    {phase : PlaybackPhase}
    (reports : Reports current phase)
    (ended : ∀ thread, current = some thread → thread.Ended) :
    phase = .idle := by
  cases phase with
  | idle => rfl
  | playing last =>
      obtain ⟨thread, isCurrent, reported⟩ := reports
      exact absurd (ended thread isCurrent) reported.running

/-- A notification does not change what fits. -/
theorem reports_notify
    {thread : ThreadSlot PlaybackThread}
    {phase : PlaybackPhase}
    (reports : Reports thread.current phase) :
    Reports (thread.map PlaybackThread.notify).current phase := by
  rw [ThreadSlot.current_map]
  cases phase with
  | idle =>
      intro notified isCurrent
      obtain ⟨current, isBefore, rfl⟩ := Option.map_eq_some_iff.mp isCurrent
      rw [PlaybackThread.ended_notify]
      exact reports current isBefore
  | playing last =>
      obtain ⟨current, isBefore, reported⟩ := reports
      refine ⟨current.notify, by rw [isBefore]; rfl, ?_⟩
      rw [PlaybackThread.reported_notify]
      exact reported

/-- A step of the handler. -/
theorem advanced
    (following : Following past engine)
    {host : PlaybackHost}
    {emitted : List PlaybackOutput}
    {next : PlaybackEngine Unit}
    (undisturbed : engine.Undisturbed host (.client ()))
    (advances : engine.Advances () emitted next) :
    Fits (past ++ emitted) next.thread (next.clients ()) := by
  have fits := following.fits
  cases advances with
  | setStopFlag position =>
      rw [position] at fits
      rw [List.append_nil, clients_moveClient_self]
      exact fits
  | notifyAll position =>
      rw [position] at fits
      obtain ⟨phase, reached, reports⟩ := fits
      rw [List.append_nil, clients_moveClient_self]
      exact ⟨phase, reached, reports_notify reports⟩
  | notJoinable position released =>
      rw [position] at fits
      obtain ⟨phase, reached, reports⟩ := fits
      have idle := idle_of_ended reports
        (following.reports_idle_of_released released)
      rw [List.append_nil, clients_moveClient_self]
      exact ⟨idle ▸ reached, released⟩
  | joinable position held =>
      rw [position] at fits
      rw [List.append_nil, clients_moveClient_self]
      exact fits
  | @joined command index thread position found ended =>
      rw [position] at fits
      obtain ⟨phase, reached, reports⟩ := fits
      have held := following.controlled.held () index command position
      have idle : phase = .idle := by
        apply idle_of_ended reports
        intro current isCurrent
        rw [ThreadSlot.current, held, Option.bind_some, found,
          Option.some.injEq] at isCurrent
        rw [← isCurrent]
        exact ended
      rw [List.append_nil, clients_moveClient_self]
      exact ⟨idle ▸ reached, rfl⟩
  | @clearPlaying command position =>
      rw [position] at fits
      obtain ⟨reached, released⟩ := fits
      rw [List.append_nil, clients_moveClient_self]
      cases command with
      | playbackStart | playbackLoad body => exact ⟨reached, released⟩
      | playbackStop =>
          exact ⟨.idle, reached, following.reports_idle_of_released released⟩
  | nothingLoaded position empty => exact absurd empty (undisturbed position)
  | snapshot position _ | clearStopFlag position | setPlaying position
  | loadLines position =>
      rw [position] at fits
      rw [List.append_nil, clients_moveClient_self]
      exact fits
  | completeEmpty position =>
      rw [position] at fits
      exact fits.elim
  | assignFatal position held =>
      rw [position] at fits
      rw [fits.2] at held
      cases held
  | @assign lines position released =>
      rw [position] at fits
      rw [List.append_nil, clients_moveClient_self]
      refine ⟨fits.1, .start lines, ThreadSlot.current_spawn _ _, ?_⟩
      simp [PlaybackThread.Ended, PlaybackThread.start]
  | countMessages position =>
      rw [position] at fits
      rw [List.append_nil, clients_moveClient_self]
      exact fits
  | announceStarted position =>
      rw [position] at fits
      obtain ⟨reached, current, isCurrent, running⟩ := fits
      rw [clients_moveClient_self]
      refine ⟨.playing 0, ?_, current, isCurrent,
        PlaybackThread.reported_zero running⟩
      rw [phaseAfter_append reached]
      rfl
  | announceLoaded position =>
      rw [position] at fits
      rw [clients_moveClient_self]
      refine ⟨.idle, ?_, following.reports_idle_of_released fits.2⟩
      rw [phaseAfter_append fits.1]
      rfl

/-- A step of a playback thread. -/
theorem moved
    (following : Following past engine)
    {host : PlaybackHost}
    {index : ℕ}
    {thread next : PlaybackThread}
    {emitted : List PlaybackOutput}
    (found : engine.thread.threads[index]? = some thread)
    (moves : thread.Moves host engine.stopFlag emitted next)
    (silent : (engine.clients ()).announcing = true →
      thread.broadcasts = false) :
    Fits (past ++ emitted) (engine.thread.set index next)
      (engine.clients ()) := by
  have fits := following.fits
  have sole := following.controlled.sole
  have isCurrent := sole.current_of_alive found moves.running
  have movedCurrent := sole.current_set found moves.running next
  have held := sole.others index thread found moves.running
  cases position : engine.clients () with
  | idle | setStopFlag _ | notifyAll _ | testJoinable _ | joining _ _ =>
      rw [position] at fits
      obtain ⟨phase, reached, reports⟩ := fits
      cases phase with
      | idle => exact absurd (reports thread isCurrent) moves.running
      | playing last =>
          obtain ⟨current, isThread, reported⟩ := reports
          rw [isCurrent, Option.some.injEq] at isThread
          rw [← isThread] at reported
          obtain ⟨after, reachedAfter, reportsAfter⟩ := moves.reports reported
          refine ⟨after, ?_, ?_⟩
          · rw [phaseAfter_append reached]
            exact reachedAfter
          · rw [movedCurrent]
            exact reportsAfter
  | clearPlaying _ | snapshot | clearStopFlag _ | setPlaying _ | assign _
  | loadLines _ | announceLoaded _ =>
      rw [position] at fits
      rw [fits.2] at held
      cases held
  | countMessages | announceStarted _ =>
      rw [position] at fits silent
      obtain ⟨unchanged, running⟩ := moves.silent (silent rfl) .idle
      refine ⟨?_, next, movedCurrent, running⟩
      rw [phaseAfter_append fits.1]
      exact unchanged
  | completeEmpty =>
      rw [position] at fits
      exact fits.elim

/-- A command arrives. -/
theorem received
    (following : Following past engine)
    (command : PlaybackCommand)
    (position : engine.clients () = .idle) :
    (engine.receive () command).fatal = none ∧
      Fits past (engine.receive () command).thread
        ((engine.receive () command).clients ()) := by
  have fits := following.fits
  rw [position] at fits
  cases command with
  | playbackStart | playbackStop => exact ⟨following.alive, fits⟩
  | playbackLoad body =>
      cases body with
      | nil =>
          refine ⟨following.alive, ?_⟩
          rw [receive, position]
          exact fits
      | cons byte body => exact ⟨following.alive, fits⟩

/-- An undisturbed action keeps the history fitting. -/
theorem preserved
    (following : Following past engine)
    {host : PlaybackHost}
    {action : Action Unit}
    {emitted : List PlaybackOutput}
    {next : PlaybackEngine Unit}
    (undisturbed : engine.Undisturbed host action)
    (takes : engine.Takes host action emitted next) :
    Following (past ++ emitted) next where
  controlled := following.controlled.preserved (following.orderly action) takes
  alive := by
    have controlled :=
      following.controlled.preserved (following.orderly action) takes
    cases takes with
    | @command client command position =>
        exact (following.received command position).1
    | client advances =>
        cases advances with
        | assignFatal position held => exact absurd rfl controlled.assigned
        | setStopFlag | notifyAll | notJoinable | joinable | joined | clearPlaying
        | nothingLoaded | snapshot | completeEmpty | clearStopFlag | setPlaying
        | assign | countMessages | announceStarted | loadLines | announceLoaded =>
            exact following.alive
    | thread found moves => exact following.alive
    | throws found throws =>
        have threw := PlaybackThread.step_eq_uncaught.mp throws
        exact absurd threw (undisturbed _ found).1
  fits := by
    cases takes with
    | @command client command position =>
        rw [List.append_nil]
        exact (following.received command position).2
    | client advances => exact following.advanced undisturbed advances
    | thread found moves =>
        exact following.moved found moves (undisturbed _ found).2
    | throws found throws =>
        have threw := PlaybackThread.step_eq_uncaught.mp throws
        exact absurd threw (undisturbed _ found).1

/-- Without lines a start calls the completion callback first. -/
theorem lost_of_nothingLoaded
    (following : Following past engine)
    {host : PlaybackHost}
    (position : engine.clients () = .snapshot)
    (empty : engine.lines = []) :
    ∃ next more final later,
      engine.step host (.client ()) = .ok (next, []) ∧
        run (step host) next more = .ok (final, later) ∧
        phaseAfter (past ++ later) = none := by
  have fits := following.fits
  rw [position] at fits
  have first : engine.step host (.client ()) =
      .ok (engine.moveClient () .completeEmpty, []) := by
    rw [step_client following.alive, advance, position, empty]
  have moved : (engine.moveClient () .completeEmpty).clients () =
      .completeEmpty := by
    rw [clients_moveClient_self]
  have alive : (engine.moveClient () .completeEmpty).fatal = none :=
    following.alive
  have second : (engine.moveClient () .completeEmpty).step host (.client ()) =
      .ok ((engine.moveClient () .completeEmpty).moveClient () .countMessages,
        [.completed false]) := by
    rw [step_client alive, advance, moved]
  refine ⟨_, [.client ()], _, _, first, Run.run_cons_ok second rfl, ?_⟩
  rw [phaseAfter_append fits.1]
  rfl

/-- A broadcast of the playback thread during an announcement is out of order. -/
theorem lost_of_broadcast
    (following : Following past engine)
    {host : PlaybackHost}
    {thread next : PlaybackThread}
    {emitted : List PlaybackOutput}
    (moves : thread.Moves host engine.stopFlag emitted next)
    (announcing : (engine.clients ()).announcing = true)
    (broadcasts : thread.broadcasts = true) :
    phaseAfter (past ++ emitted) = none := by
  have idle : phaseAfter past = some .idle := by
    have fits := following.fits
    cases position : engine.clients () with
    | countMessages | announceStarted _ =>
        rw [position] at fits
        exact fits.1
    | idle | setStopFlag _ | notifyAll _ | testJoinable _ | joining _ _
    | clearPlaying _ | snapshot | completeEmpty | clearStopFlag _ | setPlaying _
    | assign _ | loadLines _ | announceLoaded _ =>
        rw [position] at announcing
        cases announcing
  rw [phaseAfter_append idle]
  cases moves with
  | progress | complete => rfl
  | loadFirst position | enter position | leave position | skip position
  | sleep position | proceed position | wait position | wake position
  | awake position | interrupt position | goOn position | publish position
  | readFlag position | clearPlaying position =>
      simp [PlaybackThread.broadcasts, position] at broadcasts

/-- After a disturbed action some run loses the order of the events. -/
theorem lost_of_disturbed
    (following : Following past engine)
    {host : PlaybackHost}
    {action : Action Unit}
    {emitted : List PlaybackOutput}
    {next : PlaybackEngine Unit}
    (stepped : engine.step host action = .ok (next, emitted))
    (disturbed : ¬engine.Undisturbed host action) :
    ∃ more final later,
      run (step host) next more = .ok (final, later) ∧
        ¬EventsInOrder (past ++ emitted ++ later) final := by
  cases action with
  | command client command => exact absurd trivial disturbed
  | client client =>
      rw [Undisturbed] at disturbed
      push Not at disturbed
      obtain ⟨position, empty⟩ := disturbed
      obtain ⟨reached, more, final, later, first, ran, lost⟩ :=
        following.lost_of_nothingLoaded position empty
      rw [first, Except.ok.injEq, Prod.mk.injEq] at stepped
      obtain ⟨rfl, rfl⟩ := stepped
      refine ⟨more, final, later, ran, ?_⟩
      intro inOrder
      rw [List.append_nil] at inOrder
      exact inOrder.ordered lost
  | thread index event =>
      refine ⟨[], next, [], rfl, ?_⟩
      intro inOrder
      rw [List.append_nil] at inOrder
      cases (takes_of_step stepped).2 with
      | throws found throws => exact absurd inOrder.alive (by simp)
      | thread found moves =>
          apply disturbed
          intro thread isThread
          rw [found, Option.some.injEq] at isThread
          rw [← isThread]
          refine ⟨fun throws => moves.not_throws throws.2, ?_⟩
          intro announcing
          by_contra broadcasts
          rw [Bool.not_eq_false] at broadcasts
          exact inOrder.ordered
            (following.lost_of_broadcast moves announcing broadcasts)

end Following

/-- In every interleaving of a handler and the playback threads the events are in
order as long as nothing disturbs them, and after the first action that does some
interleaving puts them out of order. -/
theorem eventsInOrder_decided (host : PlaybackHost) :
    Decides (step host) (new : PlaybackEngine Unit) (Undisturbed host)
      EventsInOrder := by
  apply Decides.of_invariant Following.new
  · intro past engine action next emitted following undisturbed stepped
    exact following.preserved undisturbed (takes_of_step stepped).2
  · intro past engine following
    exact following.eventsInOrder
  · intro past engine action next emitted following stepped disturbed
    exact following.lost_of_disturbed stepped disturbed

/-- A start without a recording: the completion is broadcast before the start, and
the page's flag stays true. -/
theorem empty_start_out_of_order :
    ∃ (host : PlaybackHost) (final : PlaybackEngine Unit)
        (history : List PlaybackOutput),
      run (step host) new (.command () .playbackStart :: handles () 8) =
          .ok (final, history) ∧
        history = [.completed false, .started 0] ∧
        ¬EventsInOrder history final := by
  let host : PlaybackHost := {
    load := fun _ => none
    dump := fun _ => []
    lexicalCast := fun _ => none
    publish := fun _ _ => true }
  refine ⟨host, _, _, rfl, rfl, ?_⟩
  intro inOrder
  exact inOrder.ordered rfl

end PlaybackEngine
end Omniscope
end StarterCpp
