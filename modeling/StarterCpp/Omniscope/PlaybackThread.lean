import StarterCpp.Library.Run
import StarterCpp.Library.Waiting
import StarterCpp.Omniscope.Crow

/-!
# The playback thread

A playback thread replays the lines it was started with: it parses a line, sleeps
for the time by which the record is later than the one before, publishes the data
and reports progress.  A line that does not parse is skipped.  A record without the
members that are read makes the thread throw, and so may the publish callback;
nothing catches what the thread throws.
-/

namespace StarterCpp
namespace Omniscope

open PubSub Text

/-- What a playback engine is given: the JSON library, and the publish callback that
it is constructed with. -/
structure PlaybackHost extends Crow where
  /-- Whether the callback returns for a topic and a JSON text; it throws
  otherwise. -/
  publish : ByteString → ByteString → Bool

/-- Where a playback thread stands. -/
inductive PlaybackPosition
  /-- About to read the base time off the first line. -/
  | loadFirst
  /-- About to test the loop condition. -/
  | loopTest (index : ℕ)
  | decode (index : ℕ)
  /-- Inside the wait between two messages. -/
  | sleep (index : ℕ) (wait : Wait) (topic : ByteString) (rec : Json)
  /-- About to test the stop flag after the wait. -/
  | checkStop (index : ℕ) (topic : ByteString) (rec : Json)
  | publish (index : ℕ) (topic : ByteString) (rec : Json)
  | progress (index : ℕ)
  /-- Out of the loop; about to read the stop flag. -/
  | readFlag
  | clearPlaying (stopped : Bool)
  | complete (stopped : Bool)
  | finished

/-- A playback thread: the lines it has captured, its local variables and its
position. -/
structure PlaybackThread where
  lines : List ByteString
  baseTime : Int64
  prevOffset : Int64
  position : PlaybackPosition

/-- What playback does to the outside: the schedule of its waits, the calls of its
callbacks, and what the handlers broadcast. -/
inductive PlaybackOutput
  | sleeping (ms : Int64)
  /-- A call of the publish callback that returned. -/
  | published (topic jsonData : ByteString)
  | progressed (current total : ℕ)
  | completed (wasStopped : Bool)
  | started (count : ℕ)
  | loaded (count : ℕ)
  deriving DecidableEq

/-- Why a thread does not take a step. -/
inductive PlaybackFault
  /-- It is blocked or has finished. -/
  | disabled
  /-- It throws. -/
  | uncaught
  deriving DecidableEq, Repr

/-- What becomes of a line. -/
inductive DecodedLine
  | unreadable
  | throws
  | message (topic : ByteString) (ts : Int64) (rec : Json)

/-- Parse a line and read the topic and the time of its record. -/
def decodeLine (host : PlaybackHost) (line : ByteString) : DecodedLine :=
  match host.load line with
  | none => .unreadable
  | some rec =>
      match (rec.member (ascii "topic")).bind Json.s,
        (rec.member (ascii "timestamp_ms")).bind host.i with
      | some topic, some ts => .message topic ts rec
      | none, _ | _, none => .throws

/-- The base time, from the first line; nothing if reading it throws. -/
def firstTime (host : PlaybackHost) (lines : List ByteString) : Option Int64 :=
  match lines with
  | [] => some 0
  | first :: _ =>
      match host.load first with
      | none => some 0
      | some rec => (rec.member (ascii "timestamp_ms")).bind host.i

/-- The text that is published for a record. -/
def publishedText (host : PlaybackHost) (rec : Json) : Option ByteString :=
  (rec.member (ascii "data")).map host.dump

/-- Publish the data of a record; nothing if reading it or the callback throws. -/
def publishRecord
    (host : PlaybackHost)
    (topic : ByteString)
    (rec : Json) : Option ByteString :=
  match publishedText host rec with
  | none => none
  | some jsonData => if host.publish topic jsonData then some jsonData else none

/-- A record is published if its data is read and the callback returns. -/
theorem publishRecord_eq_some
    {host : PlaybackHost}
    {topic jsonData : ByteString}
    {rec : Json} :
    publishRecord host topic rec = some jsonData ↔
      publishedText host rec = some jsonData ∧
        host.publish topic jsonData = true := by
  unfold publishRecord
  cases publishedText host rec with
  | none => simp
  | some text =>
      simp only [Option.ite_none_right_eq_some, Option.some.injEq]
      constructor
      · rintro ⟨returns, rfl⟩
        exact ⟨rfl, returns⟩
      · rintro ⟨rfl, returns⟩
        exact ⟨returns, rfl⟩

namespace PlaybackThread

/-- A new thread. -/
def start (lines : List ByteString) : PlaybackThread where
  lines := lines
  baseTime := 0
  prevOffset := 0
  position := .loadFirst

/-- A thread that has returned. -/
def Ended (thread : PlaybackThread) : Prop :=
  thread.position = .finished

instance (thread : PlaybackThread) : Decidable thread.Ended :=
  match position : thread.position with
  | .finished => .isTrue position
  | .loadFirst | .loopTest _ | .decode _ | .sleep _ _ _ _ | .checkStop _ _ _
  | .publish _ _ _ | .progress _ | .readFlag | .clearPlaying _ | .complete _ =>
      .isFalse (by simp [Ended, position])

def moveTo (thread : PlaybackThread) (position : PlaybackPosition) : PlaybackThread :=
  { thread with position := position }

/-- The effect of a notification. -/
def notify (thread : PlaybackThread) : PlaybackThread :=
  match thread.position with
  | .sleep index wait topic rec =>
      thread.moveTo (.sleep index wait.notify topic rec)
  | .loadFirst | .loopTest _ | .decode _ | .checkStop _ _ _ | .publish _ _ _
  | .progress _ | .readFlag | .clearPlaying _ | .complete _ | .finished => thread

/-- The longest wait between two messages. -/
def maxSleepMs : Int64 := 5000

/-- Go on to a message at a time: wait for the time by which it is later than the
one before. -/
def schedule
    (thread : PlaybackThread)
    (index : ℕ)
    (topic : ByteString)
    (ts : Int64)
    (rec : Json) : PlaybackThread × List PlaybackOutput :=
  let offset := ts - thread.baseTime
  let delta := offset - thread.prevOffset
  let moved := { thread with prevOffset := offset }
  if 0 < delta then
    (moved.moveTo (.sleep index .testing topic rec),
      [.sleeping (min delta maxSleepMs)])
  else (moved.moveTo (.checkStop index topic rec), [])

/-- A step of the thread itself, or the end of its blocking by the timeout or
spuriously. -/
inductive Event
  | advance
  | wake (timedOut : Bool)
  deriving DecidableEq, Repr

/-- The thread's next step under the stop flag. -/
def advance
    (host : PlaybackHost)
    (stopFlag : Bool)
    (thread : PlaybackThread) :
    Except PlaybackFault (PlaybackThread × List PlaybackOutput) :=
  match thread.position with
  | .loadFirst =>
      match firstTime host thread.lines with
      | none => .error .uncaught
      | some baseTime =>
          .ok ({ thread with baseTime := baseTime, position := .loopTest 0 }, [])
  | .loopTest index =>
      if index < thread.lines.length ∧ stopFlag = false then
        .ok (thread.moveTo (.decode index), [])
      else .ok (thread.moveTo .readFlag, [])
  | .decode index =>
      match thread.lines[index]? with
      | none => .error .disabled
      | some line =>
          match decodeLine host line with
          | .unreadable => .ok (thread.moveTo (.loopTest (index + 1)), [])
          | .throws => .error .uncaught
          | .message topic ts rec => .ok (thread.schedule index topic ts rec)
  | .sleep index wait topic rec =>
      match wait.advance stopFlag with
      | none => .error .disabled
      | some (.inside next) =>
          .ok (thread.moveTo (.sleep index next topic rec), [])
      | some (.returned _) => .ok (thread.moveTo (.checkStop index topic rec), [])
  | .checkStop index topic rec =>
      .ok (thread.moveTo (if stopFlag then .readFlag
        else .publish index topic rec), [])
  | .publish index topic rec =>
      match publishRecord host topic rec with
      | none => .error .uncaught
      | some jsonData =>
          .ok (thread.moveTo (.progress index), [.published topic jsonData])
  | .progress index =>
      .ok (thread.moveTo (.loopTest (index + 1)),
        [.progressed (index + 1) thread.lines.length])
  | .readFlag => .ok (thread.moveTo (.clearPlaying stopFlag), [])
  | .clearPlaying stopped => .ok (thread.moveTo (.complete stopped), [])
  | .complete stopped => .ok (thread.moveTo .finished, [.completed stopped])
  | .finished => .error .disabled

/-- One event of the thread under the stop flag. -/
def step
    (host : PlaybackHost)
    (stopFlag : Bool)
    (thread : PlaybackThread) :
    Event → Except PlaybackFault (PlaybackThread × List PlaybackOutput)
  | .advance => thread.advance host stopFlag
  | .wake timedOut =>
      match thread.position with
      | .sleep index .blocked topic rec =>
          .ok (thread.moveTo (.sleep index (.woken timedOut) topic rec), [])
      | .sleep _ _ _ _ | .loadFirst | .loopTest _ | .decode _ | .checkStop _ _ _
      | .publish _ _ _ | .progress _ | .readFlag | .clearPlaying _ | .complete _
      | .finished => .error .disabled

/-- The steps of a thread under the stop flag, one case each. -/
inductive Moves (host : PlaybackHost) (stopFlag : Bool) (thread : PlaybackThread) :
    List PlaybackOutput → PlaybackThread → Prop
  | loadFirst
      {baseTime : Int64}
      (position : thread.position = .loadFirst)
      (first : firstTime host thread.lines = some baseTime) :
      Moves host stopFlag thread []
        { thread with baseTime := baseTime, position := .loopTest 0 }
  | enter
      {index : ℕ}
      (position : thread.position = .loopTest index)
      (inside : index < thread.lines.length)
      (running : stopFlag = false) :
      Moves host stopFlag thread [] (thread.moveTo (.decode index))
  | leave
      {index : ℕ}
      (position : thread.position = .loopTest index)
      (outside : stopFlag = false → thread.lines.length ≤ index) :
      Moves host stopFlag thread [] (thread.moveTo .readFlag)
  | skip
      {index : ℕ}
      {line : ByteString}
      (position : thread.position = .decode index)
      (found : thread.lines[index]? = some line)
      (decoded : decodeLine host line = .unreadable) :
      Moves host stopFlag thread [] (thread.moveTo (.loopTest (index + 1)))
  | sleep
      {index : ℕ}
      {line topic : ByteString}
      {ts : Int64}
      {rec : Json}
      (position : thread.position = .decode index)
      (found : thread.lines[index]? = some line)
      (decoded : decodeLine host line = .message topic ts rec)
      (early : 0 < ts - thread.baseTime - thread.prevOffset) :
      Moves host stopFlag thread
        [.sleeping (min (ts - thread.baseTime - thread.prevOffset) maxSleepMs)]
        { thread with
          prevOffset := ts - thread.baseTime
          position := .sleep index .testing topic rec }
  | proceed
      {index : ℕ}
      {line topic : ByteString}
      {ts : Int64}
      {rec : Json}
      (position : thread.position = .decode index)
      (found : thread.lines[index]? = some line)
      (decoded : decodeLine host line = .message topic ts rec)
      (due : ¬0 < ts - thread.baseTime - thread.prevOffset) :
      Moves host stopFlag thread []
        { thread with
          prevOffset := ts - thread.baseTime
          position := .checkStop index topic rec }
  | wait
      {index : ℕ}
      {before after : Wait}
      {topic : ByteString}
      {rec : Json}
      (position : thread.position = .sleep index before topic rec)
      (waits : before.advance stopFlag = some (.inside after)) :
      Moves host stopFlag thread [] (thread.moveTo (.sleep index after topic rec))
  | wake
      {index : ℕ}
      {timedOut : Bool}
      {topic : ByteString}
      {rec : Json}
      (position : thread.position = .sleep index .blocked topic rec) :
      Moves host stopFlag thread []
        (thread.moveTo (.sleep index (.woken timedOut) topic rec))
  | awake
      {index : ℕ}
      {wait : Wait}
      {value : Bool}
      {topic : ByteString}
      {rec : Json}
      (position : thread.position = .sleep index wait topic rec)
      (returns : wait.advance stopFlag = some (.returned value)) :
      Moves host stopFlag thread [] (thread.moveTo (.checkStop index topic rec))
  | interrupt
      {index : ℕ}
      {topic : ByteString}
      {rec : Json}
      (position : thread.position = .checkStop index topic rec)
      (stopped : stopFlag = true) :
      Moves host stopFlag thread [] (thread.moveTo .readFlag)
  | goOn
      {index : ℕ}
      {topic : ByteString}
      {rec : Json}
      (position : thread.position = .checkStop index topic rec)
      (running : stopFlag = false) :
      Moves host stopFlag thread [] (thread.moveTo (.publish index topic rec))
  | publish
      {index : ℕ}
      {topic jsonData : ByteString}
      {rec : Json}
      (position : thread.position = .publish index topic rec)
      (read : publishRecord host topic rec = some jsonData) :
      Moves host stopFlag thread [.published topic jsonData]
        (thread.moveTo (.progress index))
  | progress
      {index : ℕ}
      (position : thread.position = .progress index) :
      Moves host stopFlag thread [.progressed (index + 1) thread.lines.length]
        (thread.moveTo (.loopTest (index + 1)))
  | readFlag (position : thread.position = .readFlag) :
      Moves host stopFlag thread [] (thread.moveTo (.clearPlaying stopFlag))
  | clearPlaying
      {stopped : Bool}
      (position : thread.position = .clearPlaying stopped) :
      Moves host stopFlag thread [] (thread.moveTo (.complete stopped))
  | complete
      {stopped : Bool}
      (position : thread.position = .complete stopped) :
      Moves host stopFlag thread [.completed stopped] (thread.moveTo .finished)

section Moves

variable {host : PlaybackHost}
variable {stopFlag : Bool}
variable {thread next : PlaybackThread}
variable {emitted : List PlaybackOutput}

/-- A line is read, skipped or makes the thread throw. -/
theorem moves_of_decode
    {index : ℕ}
    (position : thread.position = .decode index)
    (stepped : thread.advance host stopFlag = .ok (next, emitted)) :
    thread.Moves host stopFlag emitted next := by
  rw [advance, position] at stepped
  cases found : thread.lines[index]? with
  | none => simp [found] at stepped
  | some line =>
      cases decoded : decodeLine host line with
      | unreadable =>
          simp only [found, decoded] at stepped
          exact Run.of_ok (.skip position found decoded) stepped
      | throws => simp [found, decoded] at stepped
      | message topic ts rec =>
          by_cases early : 0 < ts - thread.baseTime - thread.prevOffset
          · simp only [found, decoded, schedule, early, if_true] at stepped
            exact Run.of_ok (.sleep position found decoded early) stepped
          · simp only [found, decoded, schedule, early, if_false] at stepped
            exact Run.of_ok (.proceed position found decoded early) stepped

/-- A step of the thread itself. -/
theorem moves_of_advance
    (stepped : thread.advance host stopFlag = .ok (next, emitted)) :
    thread.Moves host stopFlag emitted next := by
  cases position : thread.position with
  | decode index => exact moves_of_decode position stepped
  | loadFirst =>
      rw [advance, position] at stepped
      cases first : firstTime host thread.lines with
      | none => simp [first] at stepped
      | some baseTime =>
          simp only [first] at stepped
          exact Run.of_ok (.loadFirst position first) stepped
  | loopTest index =>
      rw [advance, position] at stepped
      by_cases inside : index < thread.lines.length ∧ stopFlag = false
      · simp only [inside, and_self, if_true] at stepped
        exact Run.of_ok (.enter position inside.1 inside.2) stepped
      · simp only [inside, if_false] at stepped
        have outside : stopFlag = false → thread.lines.length ≤ index := by
          intro running
          by_contra short
          exact inside ⟨Nat.lt_of_not_le short, running⟩
        exact Run.of_ok (.leave position outside) stepped
  | sleep index wait topic rec =>
      rw [advance, position] at stepped
      cases waits : wait.advance stopFlag with
      | none => simp [waits] at stepped
      | some progress =>
          cases progress with
          | inside after =>
              simp only [waits] at stepped
              exact Run.of_ok (.wait position waits) stepped
          | returned value =>
              simp only [waits] at stepped
              exact Run.of_ok (.awake position waits) stepped
  | checkStop index topic rec =>
      rw [advance, position] at stepped
      cases flag : stopFlag with
      | false =>
          rw [flag] at stepped
          exact Run.of_ok (.goOn position rfl) stepped
      | true =>
          rw [flag] at stepped
          exact Run.of_ok (.interrupt position rfl) stepped
  | publish index topic rec =>
      rw [advance, position] at stepped
      cases read : publishRecord host topic rec with
      | none => simp [read] at stepped
      | some jsonData =>
          simp only [read] at stepped
          exact Run.of_ok (.publish position read) stepped
  | progress index =>
      rw [advance, position] at stepped
      exact Run.of_ok (.progress position) stepped
  | readFlag =>
      rw [advance, position] at stepped
      exact Run.of_ok (.readFlag position) stepped
  | clearPlaying stopped =>
      rw [advance, position] at stepped
      exact Run.of_ok (.clearPlaying position) stepped
  | complete stopped =>
      rw [advance, position] at stepped
      exact Run.of_ok (.complete position) stepped
  | finished => simp [advance, position] at stepped

/-- Every step is one of the cases. -/
theorem moves_of_step
    {event : Event}
    (stepped : thread.step host stopFlag event = .ok (next, emitted)) :
    thread.Moves host stopFlag emitted next := by
  cases event with
  | advance => exact moves_of_advance stepped
  | wake timedOut =>
      rw [step] at stepped
      cases position : thread.position with
      | sleep index wait topic rec =>
          cases wait with
          | blocked =>
              rw [position] at stepped
              exact Run.of_ok (.wake position) stepped
          | testing | blocking | woken _ | lastTesting =>
              simp [position] at stepped
      | loadFirst | loopTest _ | decode _ | checkStop _ _ _ | publish _ _ _
      | progress _ | readFlag | clearPlaying _ | complete _ | finished =>
          simp [position] at stepped

end Moves

/-- The thread's next step throws. -/
def Throws (host : PlaybackHost) (thread : PlaybackThread) : Prop :=
  match thread.position with
  | .loadFirst => firstTime host thread.lines = none
  | .decode index => ∃ line, thread.lines[index]? = some line ∧
      decodeLine host line = .throws
  | .publish _ topic rec => publishRecord host topic rec = none
  | .loopTest _ | .sleep _ _ _ _ | .checkStop _ _ _ | .progress _ | .readFlag
  | .clearPlaying _ | .complete _ | .finished => False

theorem Throws.running
    {host : PlaybackHost}
    {thread : PlaybackThread}
    (throws : thread.Throws host) :
    ¬thread.Ended := by
  intro ended
  rw [Ended] at ended
  rw [Throws, ended] at throws
  exact throws

/-- A thread that throws does so at its next step. -/
theorem step_eq_uncaught
    {host : PlaybackHost}
    {stopFlag : Bool}
    {thread : PlaybackThread}
    {event : Event} :
    thread.step host stopFlag event = .error .uncaught ↔
      event = .advance ∧ thread.Throws host := by
  cases event with
  | wake timedOut =>
      cases position : thread.position with
      | sleep index wait topic rec => cases wait <;> simp [step, position]
      | loadFirst | loopTest _ | decode _ | checkStop _ _ _ | publish _ _ _
      | progress _ | readFlag | clearPlaying _ | complete _ | finished =>
          simp [step, position]
  | advance =>
      cases position : thread.position with
      | loadFirst =>
          cases first : firstTime host thread.lines <;>
            simp [step, advance, Throws, position, first]
      | loopTest index =>
          by_cases inside : index < thread.lines.length ∧ stopFlag = false <;>
            simp [step, advance, Throws, position, inside]
      | decode index =>
          cases found : thread.lines[index]? with
          | none => simp [step, advance, Throws, position, found]
          | some line =>
              cases decoded : decodeLine host line <;>
                simp [step, advance, Throws, position, found, decoded]
      | sleep index wait topic rec =>
          cases waits : wait.advance stopFlag with
          | none => simp [step, advance, Throws, position, waits]
          | some progress =>
              cases progress <;>
                simp [step, advance, Throws, position, waits]
      | publish index topic rec =>
          cases read : publishRecord host topic rec <;>
            simp [step, advance, Throws, position, read]
      | checkStop _ _ _ | progress _ | readFlag | clearPlaying _ | complete _
      | finished =>
          simp [step, advance, Throws, position]

theorem Moves.not_throws
    {host : PlaybackHost}
    {stopFlag : Bool}
    {thread next : PlaybackThread}
    {emitted : List PlaybackOutput}
    (moves : thread.Moves host stopFlag emitted next) :
    ¬thread.Throws host := by
  intro throws
  rw [Throws] at throws
  cases moves with
  | loadFirst position first =>
      rw [position] at throws
      simp [first] at throws
  | skip position found decoded | sleep position found decoded _
  | proceed position found decoded _ =>
      rw [position] at throws
      simp [found, decoded] at throws
  | publish position read =>
      rw [position] at throws
      simp [read] at throws
  | enter position | leave position | wait position | wake position
  | awake position | interrupt position | goOn position | progress position
  | readFlag position | clearPlaying position | complete position =>
      rw [position] at throws
      exact throws

/-- A thread that has a step has not ended. -/
theorem Moves.running
    {host : PlaybackHost}
    {stopFlag : Bool}
    {thread next : PlaybackThread}
    {emitted : List PlaybackOutput}
    (moves : thread.Moves host stopFlag emitted next) :
    ¬thread.Ended := by
  intro ended
  rw [Ended] at ended
  cases moves <;> simp_all

/-- A notification brings no thread back to life and ends none. -/
@[simp] theorem ended_notify (thread : PlaybackThread) :
    thread.notify.Ended ↔ thread.Ended := by
  cases position : thread.position with
  | sleep index wait topic rec => simp [Ended, notify, moveTo, position]
  | loadFirst | loopTest _ | decode _ | checkStop _ _ _ | publish _ _ _
  | progress _ | readFlag | clearPlaying _ | complete _ | finished =>
      simp [Ended, notify, position]

end PlaybackThread

/-- The lines that `loadRecording` keeps of a body. -/
def loadRecording (body : ByteString) : List ByteString :=
  (getlines body).filter fun line => line ≠ []

end Omniscope
end StarterCpp
