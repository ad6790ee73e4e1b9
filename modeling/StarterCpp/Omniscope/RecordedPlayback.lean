import StarterCpp.Omniscope.RecordedSessions
import StarterCpp.Omniscope.EmptyPlayback

/-!
# Playback of a recorded session

The file of a session, loaded and played back, gives the messages that were
recorded, in their order and with the times between them.
-/

namespace StarterCpp
namespace Omniscope

open PubSub Text

/-! ## What was recorded -/

/-- A message as it was recorded: its data is parsed. -/
structure RecordedMessage where
  topic : ByteString
  data : Json
  now : Int64

namespace RecordedMessage

def record (message : RecordedMessage) : Json :=
  Omniscope.record message.topic message.data message.now

def timeMs (message : RecordedMessage) : Int :=
  (epochMs message.now).toInt

end RecordedMessage

namespace Recorder

/-- The message that is recorded for a call while a recording is in progress. -/
def messageOf (crow : Crow) : Event → Option RecordedMessage
  | .onTransportMessage topic jsonData now =>
      (crow.load jsonData).map fun data => ⟨topic, data, now⟩
  | .startRecording _ | .stopRecording => none

/-- The messages that are recorded during some calls. -/
def messages (crow : Crow) (events : List Event) : List RecordedMessage :=
  events.filterMap (messageOf crow)

/-- The recorded text has a line for each message. -/
theorem recordedText_eq (crow : Crow) (events : List Event) :
    recordedText crow events =
      ((messages crow events).map fun message =>
        crow.dump message.record).flatMap fun line => line ++ [newline] := by
  have sameLines : lineOf crow = fun event =>
      (messageOf crow event).map fun message => crow.dump message.record := by
    funext event
    cases event with
    | onTransportMessage topic jsonData now =>
        simp only [lineOf, messageOf, Option.map_map]
        rfl
    | startRecording now | stopRecording => rfl
  rw [recordedText, messages, List.map_filterMap, sameLines]

/-- Loading the recorded text gives the lines that were written. -/
theorem loadRecording_recordedText
    {crow : Crow}
    {events : List Event}
    (prints : ∀ message ∈ messages crow events,
      crow.PrintsOnOneLine message.record) :
    loadRecording (recordedText crow events) =
      (messages crow events).map fun message => crow.dump message.record := by
  have oneLine : ∀ line ∈ (messages crow events).map fun message =>
      crow.dump message.record, newline ∉ line := by
    intro line member
    obtain ⟨message, recorded, rfl⟩ := List.mem_map.mp member
    exact (prints message recorded).oneLine
  rw [loadRecording, recordedText_eq, getlines_flatMap oneLine,
    List.filter_eq_self]
  intro line member
  obtain ⟨message, recorded, rfl⟩ := List.mem_map.mp member
  simpa using (prints message recorded).nonempty

end Recorder

/-! ## What is played back -/

namespace PlaybackOutput

def publication : PlaybackOutput → Option (ByteString × ByteString)
  | .published topic jsonData => some (topic, jsonData)
  | .sleeping _ | .progressed _ _ | .completed _ | .started _ | .loaded _ => none

def progression : PlaybackOutput → Option (ℕ × ℕ)
  | .progressed current total => some (current, total)
  | .sleeping _ | .published _ _ | .completed _ | .started _ | .loaded _ => none

def completion : PlaybackOutput → Option Bool
  | .completed wasStopped => some wasStopped
  | .sleeping _ | .published _ _ | .progressed _ _ | .started _ | .loaded _ => none

end PlaybackOutput

/-- The time that is slept before each message, after a sleep so far. -/
def delays : Int → List PlaybackOutput → List Int
  | _, [] => []
  | slept, output :: outputs =>
      match output with
      | .sleeping ms => delays (slept + ms.toInt) outputs
      | .published _ _ => slept :: delays 0 outputs
      | .progressed _ _ | .completed _ | .started _ | .loaded _ =>
          delays slept outputs

/-- The delay from a message to the next one, given their times. -/
def delayBetween (previous time : Int) : Int :=
  min (max (time - previous) 0) 5000

/-- Playback gives the recorded messages back. -/
structure Replayed
    (crow : Crow)
    (messages : List RecordedMessage)
    (history : List PlaybackOutput) : Prop where
  published : history.filterMap PlaybackOutput.publication =
    messages.map fun message => (message.topic, crow.dump message.data)
  progressed : history.filterMap PlaybackOutput.progression =
    (List.range' 1 messages.length).map fun current =>
      (current, messages.length)
  completed : history.filterMap PlaybackOutput.completion = [false]
  delayed : delays 0 history =
    0 :: List.zipWith delayBetween (messages.map RecordedMessage.timeMs)
      (messages.map RecordedMessage.timeMs).tail
  /-- A clock that does not go back, with gaps of at most 5 s. -/
  onTime : (messages.map RecordedMessage.timeMs).IsChain (fun previous time =>
      previous ≤ time ∧ time - previous ≤ 5000) →
    ∀ first message index, messages.head? = some first →
      messages[index]? = some message →
        ((delays 0 history).take (index + 1)).sum =
          message.timeMs - first.timeMs

/-! ## The clock -/

/-- Readings in milliseconds are far from the bounds of their type. -/
theorem epochMs_bound (now : Int64) :
    -9223372036855 < (epochMs now).toInt ∧ (epochMs now).toInt < 9223372036855 := by
  have low := Int64.le_toInt now
  have high := Int64.toInt_lt now
  have quotient : (epochMs now).toInt = (now.toInt.tdiv 1000000).bmod (2 ^ 64) :=
    Int64.toInt_div now 1000000
  have size : (now.toInt.tdiv 1000000).natAbs = now.toInt.natAbs / 1000000 :=
    Int.natAbs_tdiv now.toInt 1000000
  have small : (now.toInt.tdiv 1000000).bmod (2 ^ 64) = now.toInt.tdiv 1000000 := by
    apply Int.bmod_eq_of_le
    · omega
    · omega
  rw [quotient, small]
  omega

/-- The difference of two readings does not overflow. -/
theorem toInt_epochMs_sub (first second : Int64) :
    (epochMs second - epochMs first).toInt =
      (epochMs second).toInt - (epochMs first).toInt := by
  have firstBound := epochMs_bound first
  have secondBound := epochMs_bound second
  rw [Int64.toInt_sub]
  apply Int.bmod_eq_of_le
  · omega
  · omega

/-! ## The playback of recorded lines -/

/-- A sleep lasts as long as the time between two messages asks for. -/
theorem delays_sleepFor
    (delta : Int64)
    (topic jsonData : ByteString)
    (later : List PlaybackOutput) :
    delays 0 (sleepFor delta ++ .published topic jsonData :: later) =
      min (max delta.toInt 0) 5000 :: delays 0 later := by
  have limit : PlaybackThread.maxSleepMs.toInt = 5000 := rfl
  unfold sleepFor
  by_cases early : 0 < delta
  · have positive := Int64.lt_iff_toInt_lt.mp early
    rw [Int64.toInt_zero] at positive
    have shorter : (min delta PlaybackThread.maxSleepMs).toInt =
        min delta.toInt 5000 := by
      change (if delta ≤ PlaybackThread.maxSleepMs then delta
        else PlaybackThread.maxSleepMs).toInt = _
      split_ifs with short
      · rw [Int64.le_iff_toInt_le, limit] at short
        omega
      · rw [Int64.le_iff_toInt_le, limit] at short
        omega
    simp only [early, if_true, List.singleton_append, delays, shorter]
    congr 1
    omega
  · have negative : delta.toInt ≤ 0 := by
      rw [Int64.lt_iff_toInt_lt, Int64.toInt_zero] at early
      omega
    simp only [early, if_false, List.nil_append, delays]
    congr 1
    omega

@[simp] theorem filterMap_publication_sleepFor (delta : Int64) :
    (sleepFor delta).filterMap PlaybackOutput.publication = [] := by
  unfold sleepFor
  split <;> rfl

@[simp] theorem filterMap_progression_sleepFor (delta : Int64) :
    (sleepFor delta).filterMap PlaybackOutput.progression = [] := by
  unfold sleepFor
  split <;> rfl

@[simp] theorem filterMap_completion_sleepFor (delta : Int64) :
    (sleepFor delta).filterMap PlaybackOutput.completion = [] := by
  unfold sleepFor
  split <;> rfl

/-- A message whose record is read back from its line and whose data the publish
callback takes. -/
structure PlaybackHost.Replays
    (host : PlaybackHost)
    (message : RecordedMessage) : Prop where
  prints : host.PrintsOnOneLine message.record
  returns : host.publish message.topic (host.dump message.data) = true

/-- The line of a message is read back as the message. -/
theorem decodeLine_recorded
    {host : PlaybackHost}
    {message : RecordedMessage}
    (prints : host.PrintsOnOneLine message.record) :
    decodeLine host (host.dump message.record) =
      .message message.topic (epochMs message.now) message.record := by
  rw [decodeLine, prints.readBack]
  rfl

/-- The data of a message is published. -/
theorem publishRecord_recorded
    {host : PlaybackHost}
    {message : RecordedMessage}
    (replays : host.Replays message) :
    publishRecord host message.topic message.record =
      some (host.dump message.data) :=
  publishRecord_eq_some.mpr ⟨rfl, replays.returns⟩

section PlayFrom

variable {host : PlaybackHost}
variable {total : ℕ}
variable {baseTime prevOffset : Int64}
variable {index : ℕ}

/-- A recorded message is played back. -/
theorem playFrom_recorded
    {message : RecordedMessage}
    (replays : host.Replays message)
    (lines : List ByteString) :
    playFrom host total baseTime prevOffset index
        (host.dump message.record :: lines) =
      sleepFor (epochMs message.now - baseTime - prevOffset) ++
        .published message.topic (host.dump message.data) ::
          .progressed (index + 1) total ::
            playFrom host total baseTime (epochMs message.now - baseTime)
              (index + 1) lines := by
  rw [playFrom, decodeLine_recorded replays.prints]
  simp only [publishThen, publishRecord_recorded replays]

variable {messages : List RecordedMessage}
variable (replays : ∀ message ∈ messages, host.Replays message)

include replays

theorem published_playFrom :
    (playFrom host total baseTime prevOffset index
      (messages.map fun message => host.dump message.record)).filterMap
        PlaybackOutput.publication =
      messages.map fun message => (message.topic, host.dump message.data) := by
  induction messages generalizing prevOffset index with
  | nil => rfl
  | cons message messages inductionHypothesis =>
      obtain ⟨first, rest⟩ := List.forall_mem_cons.mp replays
      rw [List.map_cons, playFrom_recorded first, List.filterMap_append,
        filterMap_publication_sleepFor, List.nil_append, List.map_cons]
      simp only [List.filterMap_cons, PlaybackOutput.publication]
      rw [inductionHypothesis rest]

theorem progressed_playFrom :
    (playFrom host total baseTime prevOffset index
      (messages.map fun message => host.dump message.record)).filterMap
        PlaybackOutput.progression =
      (List.range' (index + 1) messages.length).map fun current =>
        (current, total) := by
  induction messages generalizing prevOffset index with
  | nil => rfl
  | cons message messages inductionHypothesis =>
      obtain ⟨first, rest⟩ := List.forall_mem_cons.mp replays
      rw [List.map_cons, playFrom_recorded first, List.filterMap_append,
        filterMap_progression_sleepFor, List.nil_append, List.length_cons,
        List.range'_succ, List.map_cons]
      simp only [List.filterMap_cons, PlaybackOutput.progression]
      rw [inductionHypothesis rest]

theorem completed_playFrom :
    (playFrom host total baseTime prevOffset index
      (messages.map fun message => host.dump message.record)).filterMap
        PlaybackOutput.completion = [false] := by
  induction messages generalizing prevOffset index with
  | nil => rfl
  | cons message messages inductionHypothesis =>
      obtain ⟨first, rest⟩ := List.forall_mem_cons.mp replays
      rw [List.map_cons, playFrom_recorded first, List.filterMap_append,
        filterMap_completion_sleepFor, List.nil_append]
      simp only [List.filterMap_cons, PlaybackOutput.completion]
      exact inductionHypothesis rest

theorem delayed_playFrom (previous : RecordedMessage) :
    delays 0 (playFrom host total baseTime (epochMs previous.now - baseTime) index
      (messages.map fun message => host.dump message.record)) =
      List.zipWith delayBetween
        ((previous :: messages).map RecordedMessage.timeMs)
        (messages.map RecordedMessage.timeMs) := by
  induction messages generalizing previous index with
  | nil => rfl
  | cons message messages inductionHypothesis =>
      obtain ⟨first, rest⟩ := List.forall_mem_cons.mp replays
      have telescopes : epochMs message.now - baseTime -
          (epochMs previous.now - baseTime) =
            epochMs message.now - epochMs previous.now := by
        grind
      rw [List.map_cons, playFrom_recorded first, delays_sleepFor, telescopes,
        toInt_epochMs_sub]
      simp only [delays, List.map_cons, List.zipWith_cons_cons]
      rw [inductionHypothesis rest message]
      rfl

end PlayFrom

/-! ## The time between messages -/

/-- Without gaps that are cut short or run backwards, the delays up to a message
add up to the time since the first one. -/
theorem sum_take_delays
    {previous time : Int}
    {times : List Int}
    {index : ℕ}
    (onTime : (previous :: times).IsChain fun previous time =>
      previous ≤ time ∧ time - previous ≤ 5000)
    (found : (previous :: times)[index]? = some time) :
    ((List.zipWith delayBetween (previous :: times) times).take index).sum =
      time - previous := by
  induction times generalizing previous index with
  | nil =>
      cases index with
      | zero =>
          rw [List.getElem?_cons_zero, Option.some.injEq] at found
          simp [found]
      | succ index => simp at found
  | cons next times inductionHypothesis =>
      cases index with
      | zero =>
          rw [List.getElem?_cons_zero, Option.some.injEq] at found
          simp [found]
      | succ index =>
          obtain ⟨⟨forwards, short⟩, later⟩ := List.isChain_cons_cons.mp onTime
          rw [List.getElem?_cons_succ] at found
          have whole : delayBetween previous next = next - previous := by
            rw [delayBetween]
            omega
          rw [List.zipWith_cons_cons, List.take_succ_cons, List.sum_cons,
            inductionHypothesis later found, whole]
          omega

/-- The base time is the time of the first message. -/
theorem play_recorded
    {host : PlaybackHost}
    {first : RecordedMessage}
    (prints : host.PrintsOnOneLine first.record)
    (messages : List RecordedMessage) :
    play host ((first :: messages).map fun message => host.dump message.record) =
      playFrom host (first :: messages).length (epochMs first.now) 0 0
        ((first :: messages).map fun message => host.dump message.record) := by
  have time : firstTime host ((first :: messages).map fun message =>
      host.dump message.record) = some (epochMs first.now) := by
    rw [List.map_cons, firstTime, prints.readBack]
    rfl
  rw [play, time, List.length_map]

/-- The delays of a playback are those between the messages. -/
theorem delayed_play
    {host : PlaybackHost}
    {first : RecordedMessage}
    {messages : List RecordedMessage}
    (replays : ∀ message ∈ first :: messages, host.Replays message) :
    delays 0 (play host
        ((first :: messages).map fun message => host.dump message.record)) =
      0 :: List.zipWith delayBetween
        ((first :: messages).map RecordedMessage.timeMs)
        (messages.map RecordedMessage.timeMs) := by
  have noOffset : (0 : Int64) = epochMs first.now - epochMs first.now :=
    (Int64.sub_self _).symm
  have noDelay : delayBetween first.timeMs first.timeMs = 0 := by
    simp [delayBetween]
  rw [play_recorded (replays first List.mem_cons_self).prints, noOffset,
    delayed_playFrom replays first, List.map_cons, List.map_cons,
    List.zipWith_cons_cons, noDelay]

/-- Lines of recorded messages are played back as the messages. -/
theorem replayed_play
    {host : PlaybackHost}
    {messages : List RecordedMessage}
    (replays : ∀ message ∈ messages, host.Replays message)
    (nonempty : messages ≠ []) :
    Replayed host.toCrow messages
      (play host (messages.map fun message => host.dump message.record)) := by
  cases messages with
  | nil => exact absurd rfl nonempty
  | cons first messages =>
      have started := play_recorded (replays first List.mem_cons_self).prints messages
      exact
        { published := by
            rw [started]
            exact published_playFrom replays
          progressed := by
            rw [started]
            exact progressed_playFrom replays
          completed := by
            rw [started]
            exact completed_playFrom replays
          delayed := delayed_play replays
          onTime := by
            intro onTime head message index isFirst found
            rw [List.head?_cons, Option.some.injEq] at isFirst
            have foundTime :
                ((first :: messages).map RecordedMessage.timeMs)[index]? =
                  some message.timeMs := by
              rw [List.getElem?_map, found]
              rfl
            rw [delayed_play replays, List.take_succ_cons, List.sum_cons,
              Int.zero_add, ← isFirst]
            exact sum_take_delays onTime foundTime }

/-! ## Recording, loading and playing back -/

section History

variable {Value : Type*}
variable {project : PlaybackOutput → Option Value}

/-- What the engine and its handlers announce does not count. -/
theorem filterMap_ofThread
    (ignores : ∀ output, output.ofThread = false → project output = none)
    (history : List PlaybackOutput) :
    (history.filter PlaybackOutput.ofThread).filterMap project =
      history.filterMap project := by
  rw [List.filterMap_filter]
  apply List.filterMap_congr
  intro output _
  cases counts : output.ofThread with
  | false => rw [ignores output counts]; rfl
  | true => rfl

end History

theorem delays_ofThread (slept : Int) (history : List PlaybackOutput) :
    delays slept (history.filter PlaybackOutput.ofThread) =
      delays slept history := by
  induction history generalizing slept with
  | nil => rfl
  | cons output history inductionHypothesis =>
      cases output with
      | sleeping ms => exact inductionHypothesis (slept + ms.toInt)
      | published topic jsonData =>
          exact congrArg (List.cons slept) (inductionHypothesis 0)
      | progressed _ _ | completed _ | started _ | loaded _ =>
          exact inductionHypothesis slept

/-- A history replays messages if what the playback thread has done does. -/
theorem Replayed.of_ofThread
    {crow : Crow}
    {messages : List RecordedMessage}
    {history : List PlaybackOutput}
    (replayed : Replayed crow messages
      (history.filter PlaybackOutput.ofThread)) :
    Replayed crow messages history where
  published := by
    rw [← replayed.published, filterMap_ofThread]
    intro output
    cases output <;> simp [PlaybackOutput.ofThread, PlaybackOutput.publication]
  progressed := by
    rw [← replayed.progressed, filterMap_ofThread]
    intro output
    cases output <;> simp [PlaybackOutput.ofThread, PlaybackOutput.progression]
  completed := by
    rw [← replayed.completed, filterMap_ofThread]
    intro output
    cases output <;> simp [PlaybackOutput.ofThread, PlaybackOutput.completion]
  delayed := by
    rw [← delays_ofThread]
    exact replayed.delayed
  onTime := by
    rw [← delays_ofThread]
    exact replayed.onTime

namespace Recorder

/-- A session that recorded at least one message leaves a file that is loaded with
one line for each message.  When an engine at rest with these lines is started,
nothing interrupts it and its publish callback takes the messages, the playback can
always be completed, and then has given the messages back. -/
theorem session_replayed
    {Client : Type*}
    [DecidableEq Client]
    (host : PlaybackHost)
    (files : ByteString → Option ByteString)
    (events during : List Event)
    (start : Int64)
    (inProgress : session events = some (start, during))
    (recorded : messages host.toCrow during ≠ [])
    (prints : ∀ message ∈ messages host.toCrow during,
      host.PrintsOnOneLine message.record)
    (returns : ∀ message ∈ messages host.toCrow during,
      host.publish message.topic (host.dump message.data) = true) :
    ∃ contents,
      (after host.toCrow files (events ++ [.stopRecording])).files
        (after host.toCrow files events).stopRecording.2 = some contents ∧
      (loadRecording contents).length = (messages host.toCrow during).length ∧
      ∀ (engine final : PlaybackEngine Client) client actions history,
        engine.AtRest → engine.lines = loadRecording contents →
        (∀ action ∈ actions, action.isCommand = false) →
        run (PlaybackEngine.step host) engine
          (.command client .playbackStart :: actions) = .ok (final, history) →
        (∃ more last later, (∀ action ∈ more, action.isCommand = false) ∧
          run (PlaybackEngine.step host) final more = .ok (last, later) ∧
            last.Done client) ∧
          (final.Done client →
            Replayed host.toCrow (messages host.toCrow during) history) := by
  have follows := follows_after host.toCrow files events
  rw [inProgress] at follows
  obtain ⟨recording, _, _, contents⟩ := follows
  have loaded := loadRecording_recordedText prints
  have replays : ∀ message ∈ messages host.toCrow during, host.Replays message :=
    fun message isRecorded =>
      ⟨prints message isRecorded, returns message isRecorded⟩
  refine ⟨recordedText host.toCrow during, ?_, ?_, ?_⟩
  · rw [stopRecording_name inProgress, after_concat]
    simpa [next, stopRecording, recording] using contents
  · rw [loaded, List.length_map]
  · intro engine final client actions history atRest lines quiet ran
    rw [loaded] at lines
    have plays : ∀ line ∈ engine.lines, PlaybackThread.Plays host line := by
      intro line member
      rw [lines] at member
      obtain ⟨message, isRecorded, rfl⟩ := List.mem_map.mp member
      rw [PlaybackThread.Plays, decodeLine_recorded (prints message isRecorded)]
      exact Option.isSome_iff_exists.mpr
        ⟨_, publishRecord_recorded (replays message isRecorded)⟩
    obtain ⟨_, completes, whole⟩ :=
      PlaybackEngine.start_plays_back atRest plays quiet ran
    refine ⟨completes, ?_⟩
    intro done
    apply Replayed.of_ofThread
    rw [whole done, lines]
    exact replayed_play replays recorded

/-- A message in the first millisecond. -/
def command : RecordedMessage :=
  ⟨ascii "Command", .object [], 1000000⟩

/-- A message 400 ms later. -/
def response : RecordedMessage :=
  ⟨ascii "CommandResponse", .null, 401000000⟩

/-- The line of the first message. -/
def commandRecord : ByteString :=
  ascii ("\x7b\"topic\":\"Command\"," ++
    "\"timestamp\":\"1970-01-01T00:00:00.001Z\"," ++
    "\"timestamp_ms\":1,\"data\":\x7b\x7d\x7d")

/-- The line of the second message. -/
def responseRecord : ByteString :=
  ascii ("\x7b\"topic\":\"CommandResponse\"," ++
    "\"timestamp\":\"1970-01-01T00:00:00.401Z\"," ++
    "\"timestamp_ms\":401,\"data\":null\x7d")

/-- A parser and a printer of the two messages. -/
def commandHost : PlaybackHost where
  load := fun text =>
    if text = commandRecord then some command.record
    else if text = responseRecord then some response.record
    else if text = ascii "\x7b\x7d" then some command.data
    else if text = ascii "null" then some response.data else none
  dump := fun value =>
    match (value.member (ascii "topic")).bind Json.s with
    | some topic => if topic = command.topic then commandRecord else responseRecord
    | none => match value with
        | .object _ => ascii "\x7b\x7d"
        | _ => ascii "null"
  lexicalCast := fun _ => none
  publish := fun _ _ => true

/-- What the application calls during the session. -/
def commandCalls : List Event :=
  [.onTransportMessage command.topic (ascii "\x7b\x7d") command.now,
    .onTransportMessage response.topic (ascii "null") response.now]

theorem commandHost_load :
    commandHost.load commandRecord = some command.record ∧
      commandHost.load responseRecord = some response.record ∧
      commandHost.load (ascii "\x7b\x7d") = some command.data ∧
      commandHost.load (ascii "null") = some response.data := by
  have response_ne : responseRecord ≠ commandRecord := by decide +kernel
  have object_ne : ascii "\x7b\x7d" ≠ commandRecord ∧
      ascii "\x7b\x7d" ≠ responseRecord := by decide +kernel
  have null_ne : ascii "null" ≠ commandRecord ∧
      ascii "null" ≠ responseRecord ∧ ascii "null" ≠ ascii "\x7b\x7d" := by
    decide +kernel
  refine ⟨?_, ?_, ?_, ?_⟩
  · simp only [commandHost, if_true]
  · simp only [commandHost, if_neg response_ne, if_true]
  · simp only [commandHost, if_neg object_ne.1, if_neg object_ne.2, if_true]
  · simp only [commandHost, if_neg null_ne.1, if_neg null_ne.2.1,
      if_neg null_ne.2.2, if_true]

theorem commandHost_prints :
    commandHost.PrintsOnOneLine command.record ∧
      commandHost.PrintsOnOneLine response.record := by
  have printed : commandHost.dump command.record = commandRecord ∧
      commandHost.dump response.record = responseRecord := by
    decide +kernel
  have oneLine : newline ∉ commandRecord ∧ newline ∉ responseRecord := by
    decide +kernel
  have nonempty : commandRecord ≠ [] ∧ responseRecord ≠ [] := by
    decide +kernel
  refine ⟨⟨?_, ?_, ?_⟩, ?_, ?_, ?_⟩
  · rw [printed.1]
    exact nonempty.1
  · rw [printed.1]
    exact oneLine.1
  · rw [printed.1]
    exact commandHost_load.1
  · rw [printed.2]
    exact nonempty.2
  · rw [printed.2]
    exact oneLine.2
  · rw [printed.2]
    exact commandHost_load.2.1

/-- A session with two messages that are 400 ms apart. -/
theorem session_replayed_commands :
    ∃ contents,
      (after commandHost.toCrow (fun _ => none)
        (.startRecording 0 :: commandCalls ++ [.stopRecording])).files
          (ascii "omni_0.dat") = some contents ∧
      (loadRecording contents).length = 2 ∧
      ∃ actions final history,
        run (PlaybackEngine.step commandHost)
          { PlaybackEngine.new with lines := loadRecording contents }
          (.command () .playbackStart :: actions) = .ok (final, history) ∧
        Replayed commandHost.toCrow [command, response] history ∧
        delays 0 history = [0, 400] := by
  obtain ⟨_, _, parsedCommand, parsedResponse⟩ := commandHost_load
  have recorded : messages commandHost.toCrow commandCalls =
      [command, response] := by
    simp only [commandCalls, messages, List.filterMap_cons, messageOf,
      parsedCommand, parsedResponse, Option.map_some, List.filterMap_nil]
  have inProgress : session (.startRecording 0 :: commandCalls) =
      some (0, commandCalls) := rfl
  have named : recordingName 0 = ascii "omni_0.dat" := by decide
  obtain ⟨contents, written, loaded, replays⟩ := @session_replayed Unit _
    commandHost (fun _ => none) _ _ 0 inProgress (by simp [recorded])
    (by simpa [recorded] using commandHost_prints) (fun _ _ => rfl)
  rw [stopRecording_name inProgress, named] at written
  rw [recorded] at loaded replays
  let engine : PlaybackEngine Unit :=
    { PlaybackEngine.new with lines := loadRecording contents }
  have atRest : engine.AtRest := PlaybackEngine.atRest_of_new _
  obtain ⟨more, last, later, quiet, ran, done⟩ :=
    (replays engine (engine.receive () .playbackStart) () [] [] atRest rfl
      (by simp) rfl).1
  have received : PlaybackEngine.step commandHost engine
      (.command () .playbackStart) =
        .ok (engine.receive () .playbackStart, []) :=
    rfl
  have whole := Run.run_cons_ok received ran
  have replayed :=
    (replays engine last () more later atRest rfl quiet whole).2 done
  have apart : (0 : Int) :: List.zipWith delayBetween
      ([command, response].map RecordedMessage.timeMs)
      ([command, response].map RecordedMessage.timeMs).tail = [0, 400] := by
    decide +kernel
  exact ⟨contents, written, loaded, more, last, later, whole, replayed,
    replayed.delayed.trans apart⟩

end Recorder
end Omniscope
end StarterCpp
