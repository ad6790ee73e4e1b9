import StarterCpp.Omniscope.PlaybackThread

/-!
# Uninterrupted playback

Nothing but the lines decides what a playback thread does that nobody stops: every
step does the first part of what remains.  A thread whose lines do not make it throw
always has a step towards its end.
-/

namespace StarterCpp
namespace Omniscope

open PubSub Text

/-! ## The playback of a list of lines -/

/-- The wait for a message that is later than the one before by a time. -/
def sleepFor (delta : Int64) : List PlaybackOutput :=
  if 0 < delta then [.sleeping (min delta PlaybackThread.maxSleepMs)] else []

/-- A message is published, and more happens; reading its data or the callback may
throw. -/
def publishThen
    (host : PlaybackHost)
    (topic : ByteString)
    (rec : Json)
    (later : List PlaybackOutput) : List PlaybackOutput :=
  match publishRecord host topic rec with
  | none => []
  | some jsonData => .published topic jsonData :: later

/-- What happens from a line on, given the base time and the offset of the message
before. -/
def playFrom
    (host : PlaybackHost)
    (total : ℕ)
    (baseTime : Int64) :
    Int64 → ℕ → List ByteString → List PlaybackOutput
  | _, _, [] => [.completed false]
  | prevOffset, index, line :: lines =>
      match decodeLine host line with
      | .unreadable => playFrom host total baseTime prevOffset (index + 1) lines
      | .throws => []
      | .message topic ts rec =>
          sleepFor (ts - baseTime - prevOffset) ++
            publishThen host topic rec
              (.progressed (index + 1) total ::
                playFrom host total baseTime (ts - baseTime) (index + 1) lines)

/-- What an uninterrupted playback of some lines does. -/
def play (host : PlaybackHost) (lines : List ByteString) : List PlaybackOutput :=
  match firstTime host lines with
  | none => []
  | some baseTime => playFrom host lines.length baseTime 0 0 lines

namespace PlaybackThread

/-- What a thread has still to do when nothing interrupts it. -/
def remaining (host : PlaybackHost) (thread : PlaybackThread) : List PlaybackOutput :=
  let total := thread.lines.length
  let fromIndex (index : ℕ) :=
    playFrom host total thread.baseTime thread.prevOffset index
      (thread.lines.drop index)
  match thread.position with
  | .loadFirst =>
      match firstTime host thread.lines with
      | none => []
      | some baseTime =>
          playFrom host total baseTime thread.prevOffset 0 thread.lines
  | .loopTest index | .decode index => fromIndex index
  | .sleep index _ topic rec | .checkStop index topic rec
  | .publish index topic rec =>
      publishThen host topic rec
        (.progressed (index + 1) total :: fromIndex (index + 1))
  | .progress index => .progressed (index + 1) total :: fromIndex (index + 1)
  | .readFlag => [.completed false]
  | .clearPlaying stopped | .complete stopped => [.completed stopped]
  | .finished => []

/-- A step does the first part of what remains. -/
theorem Moves.remaining
    {host : PlaybackHost}
    {thread next : PlaybackThread}
    {emitted : List PlaybackOutput}
    (moves : thread.Moves host false emitted next) :
    emitted ++ next.remaining host = thread.remaining host := by
  cases moves with
  | loadFirst position first => simp [PlaybackThread.remaining, position, first]
  | enter position _ _ => simp [PlaybackThread.remaining, moveTo, position]
  | leave position outside =>
      simp [PlaybackThread.remaining, moveTo, position, List.drop_eq_nil_of_le (outside rfl),
        playFrom]
  | skip position found decoded =>
      rw [List.getElem?_eq_some_iff] at found
      obtain ⟨inside, rfl⟩ := found
      simp only [PlaybackThread.remaining, moveTo, position, List.nil_append]
      rw [List.drop_eq_getElem_cons inside, playFrom, decoded]
  | sleep position found decoded early =>
      rw [List.getElem?_eq_some_iff] at found
      obtain ⟨inside, rfl⟩ := found
      simp only [PlaybackThread.remaining, position]
      rw [List.drop_eq_getElem_cons inside, playFrom, decoded]
      simp only [sleepFor, early, if_true]
  | proceed position found decoded due =>
      rw [List.getElem?_eq_some_iff] at found
      obtain ⟨inside, rfl⟩ := found
      simp only [PlaybackThread.remaining, position]
      rw [List.drop_eq_getElem_cons inside, playFrom, decoded]
      simp only [sleepFor, due, if_false]
  | interrupt _ stopped => cases stopped
  | publish position read =>
      simp [PlaybackThread.remaining, moveTo, position, publishThen, read]
  | wait position _ | wake position | awake position _ | goOn position _
  | progress position | readFlag position | clearPlaying position
  | complete position =>
      simp [PlaybackThread.remaining, moveTo, position]

/-! ## Threads that do not throw -/

/-- A line that does not make the thread throw. -/
def Plays (host : PlaybackHost) (line : ByteString) : Prop :=
  match decodeLine host line with
  | .unreadable => True
  | .throws => False
  | .message topic _ rec => (publishRecord host topic rec).isSome

/-- A thread that does not throw: its lines do not make it, and what it holds can
be published. -/
structure Ready (host : PlaybackHost) (thread : PlaybackThread) : Prop where
  plays : ∀ line ∈ thread.lines, Plays host line
  held : match thread.position with
    | .sleep _ _ topic rec | .checkStop _ topic rec | .publish _ topic rec =>
        (publishRecord host topic rec).isSome
    | .decode index => index < thread.lines.length
    | .loadFirst | .loopTest _ | .progress _ | .readFlag | .clearPlaying _
    | .complete _ | .finished => True

theorem Ready.start
    {host : PlaybackHost}
    {lines : List ByteString}
    (plays : ∀ line ∈ lines, Plays host line) :
    Ready host (start lines) where
  plays := plays
  held := trivial

/-- A step keeps the lines of a thread. -/
theorem Moves.lines
    {host : PlaybackHost}
    {stopFlag : Bool}
    {thread next : PlaybackThread}
    {emitted : List PlaybackOutput}
    (moves : thread.Moves host stopFlag emitted next) :
    next.lines = thread.lines := by
  cases moves <;> rfl

theorem Ready.preserved
    {host : PlaybackHost}
    {stopFlag : Bool}
    {thread next : PlaybackThread}
    {emitted : List PlaybackOutput}
    (ready : Ready host thread)
    (moves : thread.Moves host stopFlag emitted next) :
    Ready host next where
  plays := by
    rw [moves.lines]
    exact ready.plays
  held := by
    have held := ready.held
    cases moves with
    | enter _ inside _ => exact inside
    | sleep _ found decoded _ | proceed _ found decoded _ =>
        have plays := ready.plays _ (List.mem_of_getElem? found)
        simpa only [Plays, decoded] using plays
    | wait position _ | wake position | awake position _ | goOn position _ =>
        rw [position] at held
        exact held
    | loadFirst | leave | skip | interrupt | publish | progress | readFlag
    | clearPlaying | complete => trivial

/-- The base time can be read off lines that do not make the thread throw. -/
theorem firstTime_isSome
    {host : PlaybackHost}
    {lines : List ByteString}
    (plays : ∀ line ∈ lines, Plays host line) :
    ∃ baseTime, firstTime host lines = some baseTime := by
  cases lines with
  | nil => exact ⟨0, rfl⟩
  | cons first rest =>
      have firstPlays := plays first List.mem_cons_self
      cases loaded : host.load first with
      | none => exact ⟨0, by simp [firstTime, loaded]⟩
      | some rec =>
          cases time : (rec.member (ascii "timestamp_ms")).bind host.i with
          | none =>
              cases topic : (rec.member (ascii "topic")).bind Json.s with
              | none => simp [Plays, decodeLine, loaded, time, topic] at firstPlays
              | some _ =>
                  simp [Plays, decodeLine, loaded, time, topic] at firstPlays
          | some baseTime =>
              exact ⟨baseTime, by simp [firstTime, loaded, time]⟩

/-- A thread that does not throw. -/
theorem Ready.not_throws
    {host : PlaybackHost}
    {thread : PlaybackThread}
    (ready : Ready host thread) :
    ¬thread.Throws host := by
  intro throws
  have held := ready.held
  rw [Throws] at throws
  cases position : thread.position with
  | loadFirst =>
      rw [position] at throws
      obtain ⟨baseTime, first⟩ := firstTime_isSome ready.plays
      rw [first] at throws
      cases throws
  | decode index =>
      rw [position] at throws
      obtain ⟨line, found, decoded⟩ := throws
      have plays := ready.plays line (List.mem_of_getElem? found)
      simp [Plays, decoded] at plays
  | publish index topic rec =>
      rw [position] at held throws
      change publishRecord host topic rec = none at throws
      change (publishRecord host topic rec).isSome at held
      rw [throws] at held
      cases held
  | loopTest _ | sleep _ _ _ _ | checkStop _ _ _ | progress _ | readFlag
  | clearPlaying _ | complete _ | finished =>
      rw [position] at throws
      exact throws

/-- How far a wait is from its return. -/
def waitsLeft : Wait → ℕ
  | .woken false => 6
  | .testing => 5
  | .blocking => 4
  | .blocked => 3
  | .woken true => 2
  | .lastTesting => 1

/-- How far a thread is from its end, if its waits time out. -/
def stepsLeft (thread : PlaybackThread) : ℕ :=
  let linesFrom (index : ℕ) := 12 * (thread.lines.length - index)
  match thread.position with
  | .loadFirst => linesFrom 0 + 6
  | .loopTest index => linesFrom index + 5
  | .decode index => linesFrom (index + 1) + 16
  | .sleep index wait _ _ => linesFrom (index + 1) + 9 + waitsLeft wait
  | .checkStop index _ _ => linesFrom (index + 1) + 9
  | .publish index _ _ => linesFrom (index + 1) + 8
  | .progress index => linesFrom (index + 1) + 7
  | .readFlag => 4
  | .clearPlaying _ => 3
  | .complete _ => 2
  | .finished => 0

/-- A wait whose blocking ends by the timeout comes nearer to its return. -/
theorem exists_wait_step (stopFlag : Bool) (wait : Wait) :
    wait = .blocked ∨ (∃ value, wait.advance stopFlag = some (.returned value)) ∨
      ∃ after, wait.advance stopFlag = some (.inside after) ∧
        waitsLeft after < waitsLeft wait := by
  cases wait with
  | testing => cases stopFlag <;> simp [Wait.advance, waitsLeft]
  | blocking | blocked | lastTesting => simp [Wait.advance, waitsLeft]
  | woken timedOut => cases timedOut <;> simp [Wait.advance, waitsLeft]

/-- Decoding a line throws, skips the line or schedules its message. -/
theorem step_or_throws_of_decode
    (host : PlaybackHost)
    {thread : PlaybackThread}
    {index : ℕ}
    {stopFlag : Bool}
    (position : thread.position = .decode index)
    (bound : index < thread.lines.length) :
    thread.Throws host ∨
      ∃ event next emitted,
        thread.step host stopFlag event = .ok (next, emitted) ∧
          next.stepsLeft < thread.stepsLeft := by
  cases decoded : decodeLine host thread.lines[index] with
  | unreadable =>
      right
      refine ⟨.advance, thread.moveTo (.loopTest (index + 1)), [],
        by simp [step, advance, position, bound, decoded], ?_⟩
      simp only [stepsLeft, moveTo, position]
      omega
  | throws =>
      left
      rw [Throws, position]
      exact ⟨_, List.getElem?_eq_getElem bound, decoded⟩
  | message topic ts rec =>
      right
      refine ⟨.advance, (thread.schedule index topic ts rec).1,
        (thread.schedule index topic ts rec).2,
        by simp [step, advance, position, bound, decoded], ?_⟩
      by_cases early : 0 < ts - thread.baseTime - thread.prevOffset
      · simp [schedule, early, stepsLeft, moveTo, position, waitsLeft]
      · simp [schedule, early, stepsLeft, moveTo, position]

/-- A sleeping thread comes nearer to its end, by the timeout where it is blocked. -/
theorem exists_step_of_sleep
    (host : PlaybackHost)
    {thread : PlaybackThread}
    {index : ℕ}
    {wait : Wait}
    {topic : ByteString}
    {rec : Json}
    (stopFlag : Bool)
    (position : thread.position = .sleep index wait topic rec) :
    ∃ event next emitted,
      thread.step host stopFlag event = .ok (next, emitted) ∧
        next.stepsLeft < thread.stepsLeft := by
  rcases exists_wait_step stopFlag wait with
    rfl | ⟨value, returns⟩ | ⟨after, waits, nearer⟩
  · refine ⟨.wake true, thread.moveTo (.sleep index (.woken true) topic rec),
      [], by simp [step, position], ?_⟩
    simp [stepsLeft, moveTo, position, waitsLeft]
  · refine ⟨.advance, thread.moveTo (.checkStop index topic rec), [],
      by simp [step, advance, position, returns], ?_⟩
    have positive : 0 < waitsLeft wait := by
      cases wait with
      | woken timedOut => cases timedOut <;> decide
      | testing | blocking | blocked | lastTesting => decide
    simpa [stepsLeft, moveTo, position] using positive
  · refine ⟨.advance, thread.moveTo (.sleep index after topic rec), [],
      by simp [step, advance, position, waits], ?_⟩
    simpa [stepsLeft, moveTo, position] using nearer

/-- A thread that has not ended throws or has a step towards its end. -/
theorem exists_step_or_throws
    (host : PlaybackHost)
    {thread : PlaybackThread}
    (inside : ∀ index, thread.position = .decode index →
      index < thread.lines.length)
    (stopFlag : Bool)
    (running : ¬thread.Ended) :
    thread.Throws host ∨
      ∃ event next emitted,
        thread.step host stopFlag event = .ok (next, emitted) ∧
          next.stepsLeft < thread.stepsLeft := by
  cases position : thread.position with
  | loadFirst =>
      cases first : firstTime host thread.lines with
      | none =>
          left
          rw [Throws, position]
          exact first
      | some baseTime =>
          right
          refine ⟨.advance, _, _,
            by simp only [step, advance, position, first]; rfl, ?_⟩
          simp [stepsLeft, position]
  | loopTest index =>
      right
      by_cases within : index < thread.lines.length ∧ stopFlag = false
      · refine ⟨.advance, thread.moveTo (.decode index), [],
          by simp [step, advance, position, within], ?_⟩
        simp only [stepsLeft, moveTo, position]
        omega
      · refine ⟨.advance, thread.moveTo .readFlag, [],
          by simp only [step, advance, position, within, if_false], ?_⟩
        simp only [stepsLeft, moveTo, position]
        omega
  | decode index =>
      exact step_or_throws_of_decode host position (inside index position)
  | sleep index wait topic rec =>
      exact .inr (exists_step_of_sleep host stopFlag position)
  | checkStop index topic rec =>
      right
      cases stopFlag with
      | false =>
          refine ⟨.advance, thread.moveTo (.publish index topic rec), [],
            by simp [step, advance, position], ?_⟩
          simp [stepsLeft, moveTo, position]
      | true =>
          refine ⟨.advance, thread.moveTo .readFlag, [],
            by simp [step, advance, position], ?_⟩
          simp only [stepsLeft, moveTo, position]
          omega
  | publish index topic rec =>
      cases read : publishRecord host topic rec with
      | none =>
          left
          rw [Throws, position]
          exact read
      | some jsonData =>
          right
          refine ⟨.advance, thread.moveTo (.progress index),
            [.published topic jsonData],
            by simp only [step, advance, position, read], ?_⟩
          simp [stepsLeft, moveTo, position]
  | progress index =>
      right
      refine ⟨.advance, thread.moveTo (.loopTest (index + 1)),
        [.progressed (index + 1) thread.lines.length],
        by simp only [step, advance, position], ?_⟩
      simp [stepsLeft, moveTo, position]
  | readFlag =>
      right
      refine ⟨.advance, thread.moveTo (.clearPlaying stopFlag), [],
        by simp only [step, advance, position], ?_⟩
      simp [stepsLeft, moveTo, position]
  | clearPlaying stopped =>
      right
      refine ⟨.advance, thread.moveTo (.complete stopped), [],
        by simp only [step, advance, position], ?_⟩
      simp [stepsLeft, moveTo, position]
  | complete stopped =>
      right
      refine ⟨.advance, thread.moveTo .finished, [.completed stopped],
        by simp only [step, advance, position], ?_⟩
      simp [stepsLeft, moveTo, position]
  | finished => exact absurd position running

/-- A thread that does not throw and has not ended has a step towards its end. -/
theorem Ready.exists_step
    {host : PlaybackHost}
    {thread : PlaybackThread}
    (ready : Ready host thread)
    (stopFlag : Bool)
    (running : ¬thread.Ended) :
    ∃ event next emitted, thread.step host stopFlag event = .ok (next, emitted) ∧
      next.stepsLeft < thread.stepsLeft := by
  have inside : ∀ index, thread.position = .decode index →
      index < thread.lines.length := by
    intro index position
    have held := ready.held
    rw [position] at held
    exact held
  exact (exists_step_or_throws host inside stopFlag running).resolve_left
    ready.not_throws

/-- A thread that has ended has done everything. -/
theorem remaining_of_ended
    {host : PlaybackHost}
    {thread : PlaybackThread}
    (ended : thread.Ended) :
    thread.remaining host = [] := by
  rw [Ended] at ended
  simp [remaining, ended]

end PlaybackThread
end Omniscope
end StarterCpp
