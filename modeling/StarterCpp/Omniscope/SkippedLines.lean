import StarterCpp.Omniscope.UploadedPlayback

/-!
# The timing of a playback that skips lines

A recording may hold lines that do not parse, which playback skips.  It reads its
base time off the first line all the same, and takes zero when that line does not
parse; the first message is then slept for as if a message at time zero had come
before it.  The other messages are as far apart as without the skipped lines.
-/

namespace StarterCpp
namespace Omniscope

open PubSub Text

/-- Whether a line parses. -/
def readable (host : PlaybackHost) (line : ByteString) : Bool :=
  (host.load line).isSome

/-- The time of the record on a line. -/
def recordTime (host : PlaybackHost) (line : ByteString) : Option Int64 :=
  match decodeLine host line with
  | .unreadable | .throws => none
  | .message _ ts _ => some ts

/-- The times of the records on some lines. -/
def recordTimes (host : PlaybackHost) (lines : List ByteString) : List Int :=
  (lines.filterMap (recordTime host)).map Int64.toInt

/-- A line that does not parse, or a well-formed record, which the publish callback
takes, with a time from zero to `2 ^ 62`. -/
structure Timed (host : PlaybackHost) (line : ByteString) : Prop where
  playable : Playable host line
  bounded : ∀ ts, recordTime host line = some ts →
    0 ≤ ts.toInt ∧ ts.toInt ≤ 2 ^ 62

/-- The delays that the times of the messages ask for. -/
def scheduledDelays : List Int → List Int
  | [] => []
  | first :: times => 0 :: List.zipWith delayBetween (first :: times) times

/-- A start on an engine at rest with the given lines that nothing interrupted,
from its command to its end. -/
def CompletedPlayback
    {Client : Type*}
    [DecidableEq Client]
    (host : PlaybackHost)
    (client : Client)
    (lines : List ByteString)
    (history : List PlaybackOutput) : Prop :=
  ∃ (engine final : PlaybackEngine Client) (actions : List _),
    engine.AtRest ∧ engine.lines = lines ∧
      (∀ action ∈ actions, PlaybackEngine.Action.isCommand action = false) ∧
      run (PlaybackEngine.step host) engine
        (.command client .playbackStart :: actions) = .ok (final, history) ∧
      final.Done client

/-- Every playback of the lines sleeps as every playback of those that parse, which
sleeps as long as the times of the messages ask for. -/
def TimedAsParsed
    {Client : Type*}
    [DecidableEq Client]
    (host : PlaybackHost)
    (client : Client)
    (lines : List ByteString) : Prop :=
  ∀ history parsed,
    CompletedPlayback host client lines history →
    CompletedPlayback host client (lines.filter (readable host)) parsed →
      delays 0 history = delays 0 parsed ∧
        delays 0 parsed = scheduledDelays (recordTimes host lines)

section Times

variable {host : PlaybackHost}
variable {line : ByteString}
variable {lines : List ByteString}
variable {total index : ℕ}

/-- The difference of two times does not overflow. -/
theorem toInt_sub_of_bounded
    {first second : Int64}
    (firstBound : 0 ≤ first.toInt ∧ first.toInt ≤ 2 ^ 62)
    (secondBound : 0 ≤ second.toInt ∧ second.toInt ≤ 2 ^ 62) :
    (second - first).toInt = second.toInt - first.toInt := by
  rw [Int64.toInt_sub]
  apply Int.bmod_eq_of_le
  · omega
  · omega

/-- The delays from a message on are those between the messages. -/
theorem delays_playFrom
    (timed : ∀ line ∈ lines, Timed host line)
    {baseTime previous : Int64}
    (bounded : 0 ≤ previous.toInt ∧ previous.toInt ≤ 2 ^ 62) :
    delays 0 (playFrom host total baseTime (previous - baseTime) index lines) =
      List.zipWith delayBetween (previous.toInt :: recordTimes host lines)
        (recordTimes host lines) := by
  induction lines generalizing previous index with
  | nil => rfl
  | cons line lines inductionHypothesis =>
      obtain ⟨first, rest⟩ := List.forall_mem_cons.mp timed
      rcases playFrom_of_plays (plays_iff_playable.mpr first.playable) lines with
        ⟨decoded, played⟩ | ⟨topic, ts, rec, jsonData, decoded, _, played⟩
      · have untimed : recordTime host line = none := by
          rw [recordTime, decoded]
        rw [played, inductionHypothesis rest bounded, recordTimes, recordTimes,
          List.filterMap_cons_none untimed]
      · have time : recordTime host line = some ts := by
          rw [recordTime, decoded]
        have timeBounded := first.bounded ts time
        have telescopes : ts - baseTime - (previous - baseTime) =
            ts - previous := by
          grind
        rw [played, delays_sleepFor, telescopes,
          toInt_sub_of_bounded bounded timeBounded]
        simp only [delays]
        rw [inductionHypothesis rest timeBounded, recordTimes, recordTimes,
          List.filterMap_cons_some time]
        rfl

/-- The delays of a playback are those between its base time and the messages. -/
theorem delays_play
    (timed : ∀ line ∈ lines, Timed host line)
    {baseTime : Int64}
    (base : firstTime host lines = some baseTime)
    (bounded : 0 ≤ baseTime.toInt ∧ baseTime.toInt ≤ 2 ^ 62) :
    delays 0 (play host lines) =
      List.zipWith delayBetween (baseTime.toInt :: recordTimes host lines)
        (recordTimes host lines) := by
  have noOffset : (0 : Int64) = baseTime - baseTime := (Int64.sub_self _).symm
  rw [play, base]
  dsimp only
  rw [noOffset, delays_playFrom timed bounded]

/-- The base time is zero when the first line does not parse. -/
theorem firstTime_of_unreadable
    {first : ByteString}
    (head : lines.head? = some first)
    (unparsed : readable host first = false) :
    firstTime host lines = some 0 := by
  obtain ⟨rest, rfl⟩ := List.head?_eq_some_iff.mp head
  have unread : host.load first = none := by
    simpa [readable] using unparsed
  rw [firstTime, unread]

/-- The base time is that of the first line when this is a record. -/
theorem firstTime_of_recordTime
    {first : ByteString}
    (head : lines.head? = some first)
    {ts : Int64}
    (time : recordTime host first = some ts) :
    firstTime host lines = some ts := by
  obtain ⟨rest, rfl⟩ := List.head?_eq_some_iff.mp head
  rw [recordTime, decodeLine] at time
  rw [firstTime]
  cases loaded : host.load first with
  | none => simp [loaded] at time
  | some rec =>
      simp only [loaded] at time ⊢
      cases topic : (rec.member (ascii "topic")).bind Json.s with
      | none => simp [topic] at time
      | some text =>
          cases found : (rec.member (ascii "timestamp_ms")).bind host.i with
          | none => simp [topic, found] at time
          | some value => simpa [topic, found] using time

/-- Only a line that does not parse is unreadable. -/
theorem decodeLine_eq_unreadable :
    decodeLine host line = .unreadable ↔ readable host line = false := by
  unfold decodeLine readable
  cases host.load line with
  | none => simp
  | some rec =>
      refine iff_of_false ?_ (by simp)
      dsimp only
      split <;> simp

/-- A playable line that parses is a record. -/
theorem recordTime_of_readable
    (playable : Playable host line)
    (parsed : readable host line = true) :
    ∃ ts, recordTime host line = some ts := by
  have plays := plays_iff_playable.mpr playable
  rw [PlaybackThread.Plays] at plays
  cases decoded : decodeLine host line with
  | unreadable =>
      rw [decodeLine_eq_unreadable.mp decoded] at parsed
      cases parsed
  | throws =>
      rw [decoded] at plays
      exact plays.elim
  | message topic ts rec => exact ⟨ts, by rw [recordTime, decoded]⟩

/-- Lines that do not parse have no times. -/
theorem recordTimes_filter :
    recordTimes host (lines.filter (readable host)) = recordTimes host lines := by
  rw [recordTimes, recordTimes, List.filterMap_filter]
  congr 1
  apply List.filterMap_congr
  intro line _
  cases parsed : readable host line with
  | true => simp
  | false =>
      have untimed : recordTime host line = none := by
        rw [recordTime, decodeLine_eq_unreadable.mpr parsed]
      simp [untimed]

/-- The delays are the scheduled ones when the first line parses. -/
theorem delays_play_of_readable
    (timed : ∀ line ∈ lines, Timed host line)
    (parsed : ∀ first, lines.head? = some first → readable host first = true) :
    delays 0 (play host lines) = scheduledDelays (recordTimes host lines) := by
  cases lines with
  | nil => rfl
  | cons first rest =>
      have firstTimed := timed first List.mem_cons_self
      obtain ⟨ts, time⟩ :=
        recordTime_of_readable firstTimed.playable (parsed first rfl)
      have noDelay : delayBetween ts.toInt ts.toInt = 0 := by
        simp [delayBetween]
      rw [delays_play timed (firstTime_of_recordTime rfl time)
        (firstTimed.bounded ts time), recordTimes, List.filterMap_cons_some time,
        List.map_cons, List.zipWith_cons_cons, noDelay, scheduledDelays]

/-- The delays when the first line does not parse. -/
theorem delays_play_of_unreadable
    (timed : ∀ line ∈ lines, Timed host line)
    {first : ByteString}
    (head : lines.head? = some first)
    (unparsed : readable host first = false) :
    delays 0 (play host lines) =
      List.zipWith delayBetween (0 :: recordTimes host lines)
        (recordTimes host lines) := by
  have base := firstTime_of_unreadable head unparsed
  rw [delays_play timed base ⟨by decide, by decide⟩]
  rfl

/-- The times of the messages are not negative. -/
theorem recordTimes_nonneg
    (timed : ∀ line ∈ lines, Timed host line)
    {time : Int}
    (member : time ∈ recordTimes host lines) :
    0 ≤ time := by
  obtain ⟨ts, among, rfl⟩ := List.mem_map.mp member
  obtain ⟨line, onLine, found⟩ := List.mem_filterMap.mp among
  exact ((timed line onLine).bounded ts found).1

/-- The delays are the scheduled ones exactly when the first line parses or the
first message is at time zero, if there is one. -/
theorem delays_play_iff (timed : ∀ line ∈ lines, Timed host line) :
    delays 0 (play host lines) = scheduledDelays (recordTimes host lines) ↔
      (∀ first, lines.head? = some first → readable host first = true) ∨
        ∀ time, (recordTimes host lines).head? = some time → time = 0 := by
  by_cases parsed :
      ∀ first, lines.head? = some first → readable host first = true
  · exact iff_of_true (delays_play_of_readable timed parsed) (Or.inl parsed)
  · simp only [not_forall, Bool.not_eq_true] at parsed
    obtain ⟨first, head, unparsed⟩ := parsed
    have misread : ¬∀ first, lines.head? = some first →
        readable host first = true := by
      intro all
      rw [all first head] at unparsed
      cases unparsed
    rw [delays_play_of_unreadable timed head unparsed, or_iff_right misread]
    cases times : recordTimes host lines with
    | nil => simp [scheduledDelays]
    | cons time later =>
        have positive : 0 ≤ time := recordTimes_nonneg timed (by simp [times])
        rw [List.zipWith_cons_cons, scheduledDelays, List.cons.injEq]
        simp only [and_true, List.head?_cons, Option.some.injEq, forall_eq',
          delayBetween]
        omega

end Times

section Playbacks

variable {Client : Type*}
variable [DecidableEq Client]
variable {host : PlaybackHost}
variable {lines : List ByteString}

/-- A completed playback sleeps as the playback of its lines does. -/
theorem CompletedPlayback.delays_eq
    (timed : ∀ line ∈ lines, Timed host line)
    {client : Client}
    {history : List PlaybackOutput}
    (completed : CompletedPlayback host client lines history) :
    delays 0 history = delays 0 (play host lines) := by
  obtain ⟨engine, final, actions, atRest, rfl, quiet, ran, done⟩ := completed
  have plays : ∀ line ∈ engine.lines, PlaybackThread.Plays host line :=
    fun line member => plays_iff_playable.mpr (timed line member).playable
  obtain ⟨_, _, whole⟩ := PlaybackEngine.start_plays_back atRest plays quiet ran
  rw [← whole done, delays_ofThread]

/-- Timed lines can be played back to the end. -/
theorem exists_completedPlayback
    (timed : ∀ line ∈ lines, Timed host line)
    (client : Client) :
    ∃ history, CompletedPlayback host client lines history := by
  have plays : ∀ line ∈ lines, PlaybackThread.Plays host line :=
    fun line member => plays_iff_playable.mpr (timed line member).playable
  let engine : PlaybackEngine Client :=
    { PlaybackEngine.new with lines := lines }
  have atRest : engine.AtRest := PlaybackEngine.atRest_of_new lines
  have received : PlaybackEngine.step host engine
      (.command client .playbackStart) =
        .ok (engine.receive client .playbackStart, []) :=
    rfl
  obtain ⟨_, ⟨more, last, later, quiet, ran, done⟩, _⟩ :=
    PlaybackEngine.start_plays_back atRest plays (by simp)
      (Run.run_cons_ok received (Run.run_nil _))
  exact ⟨_, engine, last, more, atRest, rfl, quiet,
    Run.run_cons_ok received ran, done⟩

/-- For every recording of well-formed records among lines that do not parse: its
playbacks sleep as those of the lines that parse, and as long as the times ask for,
exactly when the first line parses, there is no record, or the first record is at
time zero. -/
theorem timedAsParsed_iff
    (host : PlaybackHost)
    (client : Client)
    (body : ByteString)
    (timed : ∀ line ∈ loadRecording body, Timed host line) :
    TimedAsParsed host client (loadRecording body) ↔
      (∀ first, (loadRecording body).head? = some first →
        readable host first = true) ∨
      ∀ time, (recordTimes host (loadRecording body)).head? = some time →
        time = 0 := by
  have timedParsed : ∀ line ∈ (loadRecording body).filter (readable host),
      Timed host line :=
    fun line member => timed line (List.mem_of_mem_filter member)
  have headParsed : ∀ first,
      ((loadRecording body).filter (readable host)).head? = some first →
        readable host first = true :=
    fun first head => List.of_mem_filter (List.mem_of_head? head)
  have scheduled := delays_play_of_readable timedParsed headParsed
  rw [recordTimes_filter] at scheduled
  rw [← delays_play_iff timed]
  constructor
  · intro timedAsParsed
    obtain ⟨history, completed⟩ := exists_completedPlayback timed client
    obtain ⟨parsed, completedParsed⟩ :=
      exists_completedPlayback timedParsed client
    obtain ⟨same, asked⟩ := timedAsParsed history parsed completed completedParsed
    rw [← completed.delays_eq timed, same, asked]
  · intro asked history parsed completed completedParsed
    rw [completed.delays_eq timed, completedParsed.delays_eq timedParsed, asked,
      scheduled]
    exact ⟨rfl, rfl⟩

end Playbacks

/-- A record with a time. -/
def recordAt (ts : Int64) : Json :=
  .object [(ascii "topic", .string (ascii "Command")),
    (ascii "timestamp_ms", .integer ts), (ascii "data", .object [])]

/-- A recorded line. -/
def commandLine : ByteString :=
  ascii "\x7b\"topic\":\"Command\",\"timestamp_ms\":7000,\"data\":\x7b\x7d\x7d"

/-- A line that was recorded 400 ms later. -/
def laterCommandLine : ByteString :=
  ascii "\x7b\"topic\":\"Command\",\"timestamp_ms\":7400,\"data\":\x7b\x7d\x7d"

/-- A line that was cut off. -/
def brokenLine : ByteString :=
  ascii "\x7b\"topic\":"

/-- A parser that reads the two recorded lines. -/
def commandParser : PlaybackHost where
  load := fun text =>
    if text = commandLine then some (recordAt 7000)
    else if text = laterCommandLine then some (recordAt 7400) else none
  dump := fun _ => ascii "\x7b\x7d"
  lexicalCast := fun _ => none
  publish := fun _ _ => true

/-- A record whose time is in range is well formed for every parser. -/
theorem timed_of_recordAt
    {host : PlaybackHost}
    {line : ByteString}
    {ts : Int64}
    (loaded : host.load line = some (recordAt ts))
    (returns : host.publish (ascii "Command") (host.dump (.object [])) = true)
    (bounded : 0 ≤ ts.toInt ∧ ts.toInt ≤ 2 ^ 62) :
    Timed host line := by
  constructor
  · intro rec found
    obtain rfl := Option.some.inj (loaded.symm.trans found)
    exact ⟨⟨_, rfl, rfl⟩, _, _, rfl, rfl, returns⟩
  · intro time found
    rw [recordTime, decodeLine, loaded] at found
    obtain rfl : ts = time := Option.some.inj found
    exact bounded

theorem load_commandLine :
    commandParser.load commandLine = some (recordAt 7000) := by
  simp only [commandParser, if_true]

/-- The lines of the parser are well-formed records. -/
theorem timed_commandParser (line : ByteString) : Timed commandParser line := by
  by_cases isFirst : line = commandLine
  · subst isFirst
    exact timed_of_recordAt load_commandLine rfl ⟨by decide, by decide⟩
  by_cases isSecond : line = laterCommandLine
  · subst isSecond
    have loaded : commandParser.load laterCommandLine = some (recordAt 7400) := by
      simp [commandParser, isFirst]
    exact timed_of_recordAt loaded rfl ⟨by decide, by decide⟩
  · have unread : commandParser.load line = none := by
      simp [commandParser, isFirst, isSecond]
    constructor
    · intro rec found
      rw [unread] at found
      cases found
    · intro time found
      rw [recordTime, decodeLine, unread] at found
      cases found

/-- A broken line between two records is not noticed. -/
theorem timedAsParsed_iff_between :
    TimedAsParsed commandParser () (loadRecording
      (commandLine ++ [newline] ++ brokenLine ++ [newline] ++
        laterCommandLine)) := by
  have loaded : loadRecording (commandLine ++ [newline] ++ brokenLine ++
      [newline] ++ laterCommandLine) =
        [commandLine, brokenLine, laterCommandLine] := by
    decide +kernel
  refine (timedAsParsed_iff commandParser () _
    fun line _ => timed_commandParser line).mpr (Or.inl ?_)
  intro first head
  rw [loaded, List.head?_cons, Option.some.injEq] at head
  rw [← head, readable, load_commandLine]
  rfl

/-- After a broken first line, the first message is slept for. -/
theorem skipped_first_line_delays :
    delays 0 (play commandParser
        (loadRecording (brokenLine ++ [newline] ++ commandLine))) = [5000] ∧
      scheduledDelays (recordTimes commandParser
        (loadRecording (brokenLine ++ [newline] ++ commandLine))) = [0] ∧
      ¬TimedAsParsed commandParser ()
        (loadRecording (brokenLine ++ [newline] ++ commandLine)) := by
  have loaded : loadRecording (brokenLine ++ [newline] ++ commandLine) =
      [brokenLine, commandLine] := by
    decide +kernel
  rw [loaded]
  have slept : delays 0 (play commandParser [brokenLine, commandLine]) =
      [5000] := by
    decide +kernel
  have asked : scheduledDelays
      (recordTimes commandParser [brokenLine, commandLine]) = [0] := by
    decide +kernel
  refine ⟨slept, asked, ?_⟩
  intro timedAsParsed
  obtain ⟨history, completed⟩ := exists_completedPlayback
    (fun line (_ : line ∈ [brokenLine, commandLine]) =>
      timed_commandParser line) ()
  obtain ⟨parsed, completedParsed⟩ := exists_completedPlayback
    (fun line (_ : line ∈ [brokenLine, commandLine].filter
      (readable commandParser)) => timed_commandParser line) ()
  obtain ⟨same, scheduled⟩ :=
    timedAsParsed history parsed completed completedParsed
  rw [completed.delays_eq fun line _ => timed_commandParser line, scheduled,
    slept, asked] at same
  cases same

end Omniscope
end StarterCpp
