import Mathlib.Logic.Function.Basic
import StarterCpp.Library.Interleaving
import StarterCpp.Library.ThreadSlot
import StarterCpp.Omniscope.PlaybackThread

/-!
# The playback engine and its clients

Every handler runs on a thread of its own and drives the engine's thread variable
and its two flags without a lock.  Each of the three commands begins with a stop.
An assignment to a thread variable that is joinable ends the program, and so does
an exception that leaves a playback thread.
-/

namespace StarterCpp
namespace Omniscope

open PubSub Text

/-- What a client asks for. -/
inductive PlaybackCommand
  | playbackStart
  | playbackStop
  /-- An upload to `/playback/load`. -/
  | playbackLoad (body : ByteString)
  deriving DecidableEq

/-- Where a client's handler stands. -/
inductive ClientPosition
  | idle
  /-- About to set the stop flag, at the beginning of a command. -/
  | setStopFlag (command : PlaybackCommand)
  | notifyAll (command : PlaybackCommand)
  /-- About to test whether the thread is joinable. -/
  | testJoinable (command : PlaybackCommand)
  /-- Inside `join` of a thread. -/
  | joining (index : ℕ) (command : PlaybackCommand)
  | clearPlaying (command : PlaybackCommand)
  /-- About to copy the lines. -/
  | snapshot
  /-- There are no lines; about to call the completion callback. -/
  | completeEmpty
  | clearStopFlag (lines : List ByteString)
  | setPlaying (lines : List ByteString)
  /-- About to assign a new thread to the thread variable. -/
  | assign (lines : List ByteString)
  /-- The engine has been started; about to read the number of messages. -/
  | countMessages
  | announceStarted (count : ℕ)
  /-- About to replace the lines. -/
  | loadLines (body : ByteString)
  | announceLoaded (count : ℕ)
  deriving DecidableEq

namespace ClientPosition

/-- What follows the stop at the beginning of a command. -/
def afterStop : PlaybackCommand → ClientPosition
  | .playbackStart => .snapshot
  | .playbackStop => .idle
  | .playbackLoad body => .loadLines body

end ClientPosition

/-- What has ended the program. -/
inductive Fatal
  | assignedWhileJoinable
  | uncaughtException
  deriving DecidableEq, Repr

/-- The playback engine, the handlers of its clients and its playback threads. -/
structure PlaybackEngine (Client : Type*) where
  lines : List ByteString
  thread : ThreadSlot PlaybackThread
  stopFlag : Bool
  playing : Bool
  clients : Client → ClientPosition
  fatal : Option Fatal

namespace PlaybackThread

/-- Whether the thread's next step clears the engine's playing flag. -/
def clearsPlaying (thread : PlaybackThread) : Bool :=
  match thread.position with
  | .clearPlaying _ => true
  | .loadFirst | .loopTest _ | .decode _ | .sleep _ _ _ _ | .checkStop _ _ _
  | .publish _ _ _ | .progress _ | .readFlag | .complete _ | .finished => false

end PlaybackThread

namespace PlaybackEngine

variable {Client : Type*}

/-- Before the first command. -/
def new : PlaybackEngine Client where
  lines := []
  thread := .empty
  stopFlag := false
  playing := false
  clients := fun _ => .idle
  fatal := none

variable [DecidableEq Client]

def moveClient
    (engine : PlaybackEngine Client)
    (client : Client)
    (position : ClientPosition) : PlaybackEngine Client :=
  { engine with clients := Function.update engine.clients client position }

@[simp] theorem clients_moveClient
    (engine : PlaybackEngine Client)
    (client other : Client)
    (position : ClientPosition) :
    (engine.moveClient client position).clients other =
      if other = client then position else engine.clients other :=
  Function.update_apply _ _ _ _

theorem clients_moveClient_self
    (engine : PlaybackEngine Client)
    (client : Client)
    (position : ClientPosition) :
    (engine.moveClient client position).clients client = position :=
  Function.update_self _ _ _

theorem clients_moveClient_of_ne
    (engine : PlaybackEngine Client)
    {client other : Client}
    (different : other ≠ client)
    (position : ClientPosition) :
    (engine.moveClient client position).clients other = engine.clients other :=
  Function.update_of_ne different _ _

/-- A command of a client, a step of its handler, or a step of a playback
thread. -/
inductive Action (Client : Type*)
  | command (client : Client) (command : PlaybackCommand)
  | client (client : Client)
  | thread (index : ℕ) (event : PlaybackThread.Event)
  deriving DecidableEq

/-- A command arrives; an upload without a body is answered at once. -/
def receive
    (engine : PlaybackEngine Client)
    (client : Client) : PlaybackCommand → PlaybackEngine Client
  | .playbackLoad [] => engine
  | command => engine.moveClient client (.setStopFlag command)

/-- The next step of a handler. -/
def advance
    (engine : PlaybackEngine Client)
    (client : Client) :
    Except Disabled (PlaybackEngine Client × List PlaybackOutput) :=
  match engine.clients client with
  | .idle => .error .disabled
  | .setStopFlag command =>
      .ok ({ engine with stopFlag := true }.moveClient client
        (.notifyAll command), [])
  | .notifyAll command =>
      .ok ({ engine with
        thread := engine.thread.map PlaybackThread.notify }.moveClient client
          (.testJoinable command), [])
  | .testJoinable command =>
      match engine.thread.handle with
      | none => .ok (engine.moveClient client (.clearPlaying command), [])
      | some index => .ok (engine.moveClient client (.joining index command), [])
  | .joining index command =>
      match engine.thread.threads[index]? with
      | none => .error .disabled
      | some thread =>
          guarded thread.Ended
            ({ engine with thread := engine.thread.release }.moveClient client
              (.clearPlaying command)) []
  | .clearPlaying command =>
      .ok ({ engine with playing := false }.moveClient client
        (.afterStop command), [])
  | .snapshot =>
      match engine.lines with
      | [] => .ok (engine.moveClient client .completeEmpty, [])
      | line :: lines =>
          .ok (engine.moveClient client (.clearStopFlag (line :: lines)), [])
  | .completeEmpty =>
      .ok (engine.moveClient client .countMessages, [.completed false])
  | .clearStopFlag lines =>
      .ok ({ engine with stopFlag := false }.moveClient client
        (.setPlaying lines), [])
  | .setPlaying lines =>
      .ok ({ engine with playing := true }.moveClient client (.assign lines), [])
  | .assign lines =>
      match engine.thread.handle with
      | some _ => .ok ({ engine with fatal := some .assignedWhileJoinable }, [])
      | none =>
          .ok ({ engine with
            thread := engine.thread.spawn (.start lines) }.moveClient client
              .countMessages, [])
  | .countMessages =>
      .ok (engine.moveClient client (.announceStarted engine.lines.length), [])
  | .announceStarted count =>
      .ok (engine.moveClient client .idle, [.started count])
  | .loadLines body =>
      .ok ({ engine with lines := loadRecording body }.moveClient client
        (.announceLoaded (loadRecording body).length), [])
  | .announceLoaded count =>
      .ok (engine.moveClient client .idle, [.loaded count])

/-- The next step of a playback thread. -/
def advanceThread
    (host : PlaybackHost)
    (engine : PlaybackEngine Client)
    (index : ℕ)
    (event : PlaybackThread.Event) :
    Except Disabled (PlaybackEngine Client × List PlaybackOutput) :=
  match engine.thread.threads[index]? with
  | none => .error .disabled
  | some thread =>
      match thread.step host engine.stopFlag event with
      | .error .disabled => .error .disabled
      | .error .uncaught =>
          .ok ({ engine with fatal := some .uncaughtException }, [])
      | .ok (next, emitted) =>
          .ok ({ engine with
            thread := engine.thread.set index next
            playing := engine.playing && !thread.clearsPlaying }, emitted)

/-- One action of any of the threads; none after the program has ended. -/
def step
    (host : PlaybackHost)
    (engine : PlaybackEngine Client)
    (action : Action Client) :
    Except Disabled (PlaybackEngine Client × List PlaybackOutput) :=
  match engine.fatal with
  | some _ => .error .disabled
  | none =>
      match action with
      | .command client command =>
          guarded (engine.clients client = .idle) (engine.receive client command) []
      | .client client => engine.advance client
      | .thread index event => engine.advanceThread host index event

/-- A handler takes its steps until the program ends. -/
theorem step_client
    {host : PlaybackHost}
    {engine : PlaybackEngine Client}
    (alive : engine.fatal = none)
    (client : Client) :
    engine.step host (.client client) = engine.advance client := by
  rw [step, alive]

/-- Playback threads take their steps until the program ends. -/
theorem step_thread
    {host : PlaybackHost}
    {engine : PlaybackEngine Client}
    (alive : engine.fatal = none)
    (index : ℕ)
    (event : PlaybackThread.Event) :
    engine.step host (.thread index event) =
      engine.advanceThread host index event := by
  rw [step, alive]

/-! ## What a step can do -/

/-- The steps of a handler, one case each. -/
inductive Advances (engine : PlaybackEngine Client) (client : Client) :
    List PlaybackOutput → PlaybackEngine Client → Prop
  | setStopFlag
      {command : PlaybackCommand}
      (position : engine.clients client = .setStopFlag command) :
      Advances engine client []
        ({ engine with stopFlag := true }.moveClient client (.notifyAll command))
  | notifyAll
      {command : PlaybackCommand}
      (position : engine.clients client = .notifyAll command) :
      Advances engine client []
        ({ engine with
          thread := engine.thread.map PlaybackThread.notify }.moveClient client
            (.testJoinable command))
  | notJoinable
      {command : PlaybackCommand}
      (position : engine.clients client = .testJoinable command)
      (released : engine.thread.handle = none) :
      Advances engine client [] (engine.moveClient client (.clearPlaying command))
  | joinable
      {command : PlaybackCommand}
      {index : ℕ}
      (position : engine.clients client = .testJoinable command)
      (held : engine.thread.handle = some index) :
      Advances engine client [] (engine.moveClient client (.joining index command))
  | joined
      {command : PlaybackCommand}
      {index : ℕ}
      {thread : PlaybackThread}
      (position : engine.clients client = .joining index command)
      (found : engine.thread.threads[index]? = some thread)
      (ended : thread.Ended) :
      Advances engine client []
        ({ engine with thread := engine.thread.release }.moveClient client
          (.clearPlaying command))
  | clearPlaying
      {command : PlaybackCommand}
      (position : engine.clients client = .clearPlaying command) :
      Advances engine client []
        ({ engine with playing := false }.moveClient client (.afterStop command))
  | nothingLoaded
      (position : engine.clients client = .snapshot)
      (empty : engine.lines = []) :
      Advances engine client [] (engine.moveClient client .completeEmpty)
  | snapshot
      (position : engine.clients client = .snapshot)
      (nonempty : engine.lines ≠ []) :
      Advances engine client []
        (engine.moveClient client (.clearStopFlag engine.lines))
  | completeEmpty (position : engine.clients client = .completeEmpty) :
      Advances engine client [.completed false]
        (engine.moveClient client .countMessages)
  | clearStopFlag
      {lines : List ByteString}
      (position : engine.clients client = .clearStopFlag lines) :
      Advances engine client []
        ({ engine with stopFlag := false }.moveClient client (.setPlaying lines))
  | setPlaying
      {lines : List ByteString}
      (position : engine.clients client = .setPlaying lines) :
      Advances engine client []
        ({ engine with playing := true }.moveClient client (.assign lines))
  | assignFatal
      {lines : List ByteString}
      {index : ℕ}
      (position : engine.clients client = .assign lines)
      (held : engine.thread.handle = some index) :
      Advances engine client []
        { engine with fatal := some .assignedWhileJoinable }
  | assign
      {lines : List ByteString}
      (position : engine.clients client = .assign lines)
      (released : engine.thread.handle = none) :
      Advances engine client []
        ({ engine with
          thread := engine.thread.spawn (.start lines) }.moveClient client
            .countMessages)
  | countMessages (position : engine.clients client = .countMessages) :
      Advances engine client []
        (engine.moveClient client (.announceStarted engine.lines.length))
  | announceStarted
      {count : ℕ}
      (position : engine.clients client = .announceStarted count) :
      Advances engine client [.started count] (engine.moveClient client .idle)
  | loadLines
      {body : ByteString}
      (position : engine.clients client = .loadLines body) :
      Advances engine client []
        ({ engine with lines := loadRecording body }.moveClient client
          (.announceLoaded (loadRecording body).length))
  | announceLoaded
      {count : ℕ}
      (position : engine.clients client = .announceLoaded count) :
      Advances engine client [.loaded count] (engine.moveClient client .idle)

/-- Every step of a handler is one of the cases. -/
theorem advances_of_advance
    {engine next : PlaybackEngine Client}
    {client : Client}
    {emitted : List PlaybackOutput}
    (stepped : engine.advance client = .ok (next, emitted)) :
    engine.Advances client emitted next := by
  rw [advance] at stepped
  cases position : engine.clients client with
  | idle => simp [position] at stepped
  | setStopFlag command =>
      rw [position] at stepped
      exact Run.of_ok (.setStopFlag position) stepped
  | notifyAll command =>
      rw [position] at stepped
      exact Run.of_ok (.notifyAll position) stepped
  | testJoinable command =>
      cases held : engine.thread.handle with
      | none =>
          rw [position, held] at stepped
          exact Run.of_ok (.notJoinable position held) stepped
      | some index =>
          rw [position, held] at stepped
          exact Run.of_ok (.joinable position held) stepped
  | joining index command =>
      cases found : engine.thread.threads[index]? with
      | none => simp [position, found] at stepped
      | some thread =>
          simp only [position, found, guarded_eq_ok] at stepped
          obtain ⟨ended, rfl, rfl⟩ := stepped
          exact .joined position found ended
  | clearPlaying command =>
      rw [position] at stepped
      exact Run.of_ok (.clearPlaying position) stepped
  | snapshot =>
      cases loaded : engine.lines with
      | nil =>
          rw [position, loaded] at stepped
          exact Run.of_ok (.nothingLoaded position loaded) stepped
      | cons line lines =>
          simp only [position, loaded, Except.ok.injEq, Prod.mk.injEq] at stepped
          obtain ⟨rfl, rfl⟩ := stepped
          rw [← loaded]
          exact .snapshot position (by simp [loaded])
  | completeEmpty =>
      rw [position] at stepped
      exact Run.of_ok (.completeEmpty position) stepped
  | clearStopFlag lines =>
      rw [position] at stepped
      exact Run.of_ok (.clearStopFlag position) stepped
  | setPlaying lines =>
      rw [position] at stepped
      exact Run.of_ok (.setPlaying position) stepped
  | assign lines =>
      cases held : engine.thread.handle with
      | none =>
          rw [position, held] at stepped
          exact Run.of_ok (.assign position held) stepped
      | some index =>
          rw [position, held] at stepped
          exact Run.of_ok (.assignFatal position held) stepped
  | countMessages =>
      rw [position] at stepped
      exact Run.of_ok (.countMessages position) stepped
  | announceStarted count =>
      rw [position] at stepped
      exact Run.of_ok (.announceStarted position) stepped
  | loadLines body =>
      rw [position] at stepped
      exact Run.of_ok (.loadLines position) stepped
  | announceLoaded count =>
      rw [position] at stepped
      exact Run.of_ok (.announceLoaded position) stepped

/-- The actions of an engine whose program has not ended, one case each. -/
inductive Takes (host : PlaybackHost) (engine : PlaybackEngine Client) :
    Action Client → List PlaybackOutput → PlaybackEngine Client → Prop
  | command
      {client : Client}
      {command : PlaybackCommand}
      (position : engine.clients client = .idle) :
      Takes host engine (.command client command) []
        (engine.receive client command)
  | client
      {client : Client}
      {emitted : List PlaybackOutput}
      {next : PlaybackEngine Client}
      (advances : engine.Advances client emitted next) :
      Takes host engine (.client client) emitted next
  | thread
      {index : ℕ}
      {event : PlaybackThread.Event}
      {thread moved : PlaybackThread}
      {emitted : List PlaybackOutput}
      (found : engine.thread.threads[index]? = some thread)
      (moves : thread.Moves host engine.stopFlag emitted moved) :
      Takes host engine (.thread index event) emitted
        { engine with
          thread := engine.thread.set index moved
          playing := engine.playing && !thread.clearsPlaying }
  | throws
      {index : ℕ}
      {event : PlaybackThread.Event}
      {thread : PlaybackThread}
      (found : engine.thread.threads[index]? = some thread)
      (throws : thread.step host engine.stopFlag event = .error .uncaught) :
      Takes host engine (.thread index event) []
        { engine with fatal := some .uncaughtException }

/-- Every step is one of the cases, and the program has not ended before it. -/
theorem takes_of_step
    {host : PlaybackHost}
    {engine next : PlaybackEngine Client}
    {action : Action Client}
    {emitted : List PlaybackOutput}
    (stepped : engine.step host action = .ok (next, emitted)) :
    engine.fatal = none ∧ engine.Takes host action emitted next := by
  cases fatal : engine.fatal with
  | some _ => simp [step, fatal] at stepped
  | none =>
      refine ⟨rfl, ?_⟩
      cases action with
      | command client command =>
          simp only [step, fatal, guarded_eq_ok] at stepped
          obtain ⟨position, rfl, rfl⟩ := stepped
          exact .command position
      | client client =>
          simp only [step, fatal] at stepped
          exact .client (advances_of_advance stepped)
      | thread index event =>
          rw [step_thread fatal, advanceThread] at stepped
          cases found : engine.thread.threads[index]? with
          | none => simp [found] at stepped
          | some thread =>
              cases taken : thread.step host engine.stopFlag event with
              | error fault =>
                  cases fault with
                  | disabled => simp [found, taken] at stepped
                  | uncaught =>
                      simp only [found, taken, Except.ok.injEq,
                        Prod.mk.injEq] at stepped
                      obtain ⟨rfl, rfl⟩ := stepped
                      exact .throws found taken
              | ok result =>
                  simp only [found, taken, Except.ok.injEq,
                    Prod.mk.injEq] at stepped
                  obtain ⟨rfl, rfl⟩ := stepped
                  exact .thread found (PlaybackThread.moves_of_step taken)

end PlaybackEngine
end Omniscope
end StarterCpp
