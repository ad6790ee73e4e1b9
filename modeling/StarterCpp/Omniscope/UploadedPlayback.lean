import StarterCpp.Omniscope.RecordedPlayback

/-!
# Playback of an arbitrary upload

An upload is any text.  Playback skips a line that does not parse and throws on a
record that lacks a member it reads or whose data the publish callback throws on.  A
playback that nothing interrupts handles every line and completes once exactly when
every line that parses is a record with a topic, a time and data, and the callback
returns for it; otherwise some run of it ends the program.
-/

namespace StarterCpp
namespace Omniscope

open PubSub Text

/-- A line that does not parse, or parses to an object with a text for its topic,
an integer for its time, and data that the publish callback takes. -/
def Playable (host : PlaybackHost) (line : ByteString) : Prop :=
  ∀ rec, host.load line = some rec →
    (∃ time, rec.member (ascii "timestamp_ms") = some time ∧
      (host.i time).isSome) ∧
    ∃ topic data, rec.member (ascii "topic") = some (.string topic) ∧
      rec.member (ascii "data") = some data ∧
      host.publish topic (host.dump data) = true

/-- What playback publishes for a line. -/
def publicationOf (host : PlaybackHost) (line : ByteString) :
    Option (ByteString × ByteString) :=
  match decodeLine host line with
  | .unreadable | .throws => none
  | .message topic _ rec =>
      (publishedText host rec).map fun jsonData => (topic, jsonData)

/-- A start has gone through its lines as far as it has come: the program goes
on, the run can be completed, and when it is, every line has been published or
skipped in order and the completion callback has been called once. -/
structure PlayedThrough
    {Client : Type*}
    [DecidableEq Client]
    (host : PlaybackHost)
    (lines : List ByteString)
    (client : Client)
    (final : PlaybackEngine Client)
    (history : List PlaybackOutput) : Prop where
  alive : final.fatal = none
  completes : ∃ more last later,
    (∀ action ∈ more, action.isCommand = false) ∧
      run (PlaybackEngine.step host) final more = .ok (last, later) ∧
        last.Done client
  published : final.Done client →
    history.filterMap PlaybackOutput.publication =
      lines.filterMap (publicationOf host)
  completed : final.Done client →
    history.filterMap PlaybackOutput.completion = [false]

/-- Only a text has the text of a string. -/
theorem eq_string_of_s
    {value : Json}
    {text : ByteString}
    (isText : value.s = some text) :
    value = .string text := by
  cases value with
  | string found => exact congrArg Json.string (Option.some.inj isText)
  | null | boolean _ | integer _ | real _ | list _ | object _ => cases isText

section Lines

variable {host : PlaybackHost}
variable {line : ByteString}
variable {lines : List ByteString}
variable {total index : ℕ}
variable {baseTime prevOffset : Int64}

/-- A record whose data is read is published if the callback returns. -/
theorem publishRecord_isSome
    {topic : ByteString}
    {rec : Json} :
    (publishRecord host topic rec).isSome ↔
      ∃ data, rec.member (ascii "data") = some data ∧
        host.publish topic (host.dump data) = true := by
  rw [Option.isSome_iff_exists]
  simp only [publishRecord_eq_some, publishedText, Option.map_eq_some_iff]
  constructor
  · rintro ⟨jsonData, ⟨data, found, rfl⟩, returns⟩
    exact ⟨data, found, returns⟩
  · rintro ⟨data, found, returns⟩
    exact ⟨_, ⟨data, found, rfl⟩, returns⟩

/-- A line is playable exactly when it does not make the thread throw. -/
theorem plays_iff_playable :
    PlaybackThread.Plays host line ↔ Playable host line := by
  unfold PlaybackThread.Plays Playable decodeLine
  cases host.load line with
  | none => simp
  | some rec =>
      simp only [Option.some.injEq, forall_eq']
      cases topic : (rec.member (ascii "topic")).bind Json.s with
      | none =>
          refine iff_of_false id ?_
          rintro ⟨_, text, _, found, _⟩
          rw [found] at topic
          cases topic
      | some text =>
          obtain ⟨value, found, isText⟩ := Option.bind_eq_some_iff.mp topic
          obtain rfl := eq_string_of_s isText
          cases time : (rec.member (ascii "timestamp_ms")).bind host.i with
          | none =>
              refine iff_of_false id ?_
              rintro ⟨⟨value, foundTime, isInteger⟩, _⟩
              rw [foundTime, Option.bind_some] at time
              rw [time] at isInteger
              cases isInteger
          | some ts =>
              obtain ⟨value, foundTime, isInteger⟩ :=
                Option.bind_eq_some_iff.mp time
              have timed : (host.i value).isSome := by rw [isInteger]; rfl
              simp [publishRecord_isSome, found, foundTime, timed]

/-- A line that does not make the thread throw is skipped or published. -/
theorem playFrom_of_plays
    (plays : PlaybackThread.Plays host line)
    (lines : List ByteString) :
    (decodeLine host line = .unreadable ∧
      playFrom host total baseTime prevOffset index (line :: lines) =
        playFrom host total baseTime prevOffset (index + 1) lines) ∨
      ∃ topic ts rec jsonData,
        decodeLine host line = .message topic ts rec ∧
        publicationOf host line = some (topic, jsonData) ∧
        playFrom host total baseTime prevOffset index (line :: lines) =
          sleepFor (ts - baseTime - prevOffset) ++
            .published topic jsonData :: .progressed (index + 1) total ::
              playFrom host total baseTime (ts - baseTime) (index + 1) lines := by
  rw [PlaybackThread.Plays] at plays
  cases decoded : decodeLine host line with
  | unreadable =>
      left
      rw [playFrom, decoded]
      exact ⟨rfl, rfl⟩
  | throws =>
      rw [decoded] at plays
      exact plays.elim
  | message topic ts rec =>
      right
      rw [decoded] at plays
      obtain ⟨jsonData, published⟩ := Option.isSome_iff_exists.mp plays
      have read := (publishRecord_eq_some.mp published).1
      refine ⟨topic, ts, rec, jsonData, rfl, ?_, ?_⟩
      · rw [publicationOf, decoded]
        simp [read]
      · rw [playFrom, decoded]
        simp only [publishThen, published]

/-- What is published of lines that do not make the thread throw. -/
theorem published_playFrom_of_plays
    (plays : ∀ line ∈ lines, PlaybackThread.Plays host line) :
    (playFrom host total baseTime prevOffset index lines).filterMap
        PlaybackOutput.publication =
      lines.filterMap (publicationOf host) := by
  induction lines generalizing prevOffset index with
  | nil => rfl
  | cons line lines inductionHypothesis =>
      obtain ⟨first, rest⟩ := List.forall_mem_cons.mp plays
      rcases playFrom_of_plays first lines with
        ⟨decoded, played⟩ | ⟨topic, ts, rec, jsonData, _, published, played⟩
      · have skipped : publicationOf host line = none := by
          rw [publicationOf, decoded]
        rw [played, inductionHypothesis rest, List.filterMap_cons_none skipped]
      · rw [played, List.filterMap_append, filterMap_publication_sleepFor,
          List.nil_append, List.filterMap_cons_some published]
        simp only [List.filterMap_cons, PlaybackOutput.publication]
        rw [inductionHypothesis rest]

/-- A line that does not make the thread throw completes nothing. -/
theorem exists_completed_playFrom
    (plays : PlaybackThread.Plays host line)
    (lines : List ByteString) :
    ∃ offset,
      (playFrom host total baseTime prevOffset index (line :: lines)).filterMap
          PlaybackOutput.completion =
        (playFrom host total baseTime offset (index + 1) lines).filterMap
          PlaybackOutput.completion := by
  rcases playFrom_of_plays plays lines with
    ⟨_, played⟩ | ⟨topic, ts, rec, jsonData, _, _, played⟩
  · exact ⟨prevOffset, by rw [played]⟩
  · refine ⟨ts - baseTime, ?_⟩
    rw [played, List.filterMap_append, filterMap_completion_sleepFor, List.nil_append]
    simp only [List.filterMap_cons, PlaybackOutput.completion]

theorem completed_playFrom_of_plays
    (plays : ∀ line ∈ lines, PlaybackThread.Plays host line) :
    (playFrom host total baseTime prevOffset index lines).filterMap
        PlaybackOutput.completion = [false] := by
  induction lines generalizing prevOffset index with
  | nil => rfl
  | cons line lines inductionHypothesis =>
      obtain ⟨first, rest⟩ := List.forall_mem_cons.mp plays
      obtain ⟨offset, played⟩ := exists_completed_playFrom first lines
      rw [played]
      exact inductionHypothesis rest

/-- Lines of which one makes the thread throw are never completed. -/
theorem completed_playFrom_of_throws
    (throws : ¬∀ line ∈ lines, PlaybackThread.Plays host line) :
    (playFrom host total baseTime prevOffset index lines).filterMap
        PlaybackOutput.completion = [] := by
  induction lines generalizing prevOffset index with
  | nil => exact absurd (by simp) throws
  | cons line lines inductionHypothesis =>
      by_cases first : PlaybackThread.Plays host line
      · have rest : ¬∀ later ∈ lines, PlaybackThread.Plays host later :=
          fun rest => throws (List.forall_mem_cons.mpr ⟨first, rest⟩)
        obtain ⟨offset, played⟩ := exists_completed_playFrom first lines
        rw [played]
        exact inductionHypothesis rest
      · rw [PlaybackThread.Plays] at first
        rw [playFrom]
        cases decoded : decodeLine host line with
        | unreadable => simp [decoded] at first
        | throws => rfl
        | message topic ts rec =>
            rw [decoded] at first
            have unpublished : publishRecord host topic rec = none := by
              simpa using first
            simp [publishThen, unpublished]

/-- The playback of lines that do not make the thread throw. -/
theorem play_of_plays (plays : ∀ line ∈ lines, PlaybackThread.Plays host line) :
    (play host lines).filterMap PlaybackOutput.publication =
        lines.filterMap (publicationOf host) ∧
      (play host lines).filterMap PlaybackOutput.completion = [false] := by
  obtain ⟨baseTime, first⟩ := PlaybackThread.firstTime_isSome plays
  rw [play, first]
  exact ⟨published_playFrom_of_plays plays, completed_playFrom_of_plays plays⟩

/-- The playback of lines of which one makes the thread throw. -/
theorem play_of_throws
    (throws : ¬∀ line ∈ lines, PlaybackThread.Plays host line) :
    (play host lines).filterMap PlaybackOutput.completion = [] := by
  rw [play]
  cases firstTime host lines with
  | none => rfl
  | some baseTime => exact completed_playFrom_of_throws throws

end Lines

/-! ## A thread that ends or throws -/

namespace PlaybackThread

variable {host : PlaybackHost}

/-- A thread that is to decode a line has it. -/
def Bounded (thread : PlaybackThread) : Prop :=
  ∀ index, thread.position = .decode index → index < thread.lines.length

theorem Moves.bounded
    {stopFlag : Bool}
    {thread next : PlaybackThread}
    {emitted : List PlaybackOutput}
    (moves : thread.Moves host stopFlag emitted next) :
    next.Bounded := by
  intro index position
  cases moves with
  | enter _ inside _ =>
      obtain rfl := PlaybackPosition.decode.inj position
      exact inside
  | interrupt _ _ | loadFirst _ _ | leave _ _ | skip _ _ _ | sleep _ _ _ _
  | proceed _ _ _ _ | wait _ _ | wake _ | awake _ _ | goOn _ _ | publish _ _
  | progress _ | readFlag _ | clearPlaying _ | complete _ => cases position

/-- A thread that nobody stops reaches its end, or a step that throws. -/
theorem ends_or_throws
    {thread : PlaybackThread}
    (bounded : thread.Bounded) :
    ∃ events final emitted,
      run (step host false) thread events = .ok (final, emitted) ∧
        (final.Ended ∨ final.Throws host) := by
  have progress : ∀ before : PlaybackThread, before.Bounded →
      ¬(before.Ended ∨ before.Throws host) →
        ∃ event next emitted, True ∧
          step host false before event = .ok (next, emitted) ∧
            next.Bounded ∧ next.stepsLeft < before.stepsLeft := by
    intro before inside neither
    obtain ⟨running, defined⟩ := not_or.mp neither
    obtain ⟨event, next, emitted, stepped, nearer⟩ :=
      (exists_step_or_throws host inside false running).resolve_left defined
    exact ⟨event, next, emitted, trivial, stepped,
      (moves_of_step stepped).bounded, nearer⟩
  obtain ⟨events, final, emitted, _, ran, reached⟩ :=
    Run.completes progress bounded
  exact ⟨events, final, emitted, ran, reached⟩

/-- A thread that has ended has called the completion callback. -/
theorem completed_of_ended
    {thread final : PlaybackThread}
    (running : ¬thread.Ended)
    {events : List Event}
    {emitted : List PlaybackOutput}
    (ran : run (step host false) thread events = .ok (final, emitted))
    (ended : final.Ended) :
    emitted.filterMap PlaybackOutput.completion ≠ [] := by
  have stepKeeps : ∀ (past : List PlaybackOutput) (before : PlaybackThread)
      (event : Event) (next : PlaybackThread) (more : List PlaybackOutput),
      (before.Ended → past.filterMap PlaybackOutput.completion ≠ []) →
      step host false before event = .ok (next, more) →
        (next.Ended →
          (past ++ more).filterMap PlaybackOutput.completion ≠ []) := by
    intro past before event next more _ stepped nextEnded
    have moves := moves_of_step stepped
    cases moves with
    | complete _ => simp [PlaybackOutput.completion]
    | loadFirst | enter | leave | skip | sleep | proceed | wait | wake | awake
    | interrupt | goOn | publish | progress | readFlag | clearPlaying =>
        cases nextEnded
  exact Run.history_of_run stepKeeps (fun early => absurd early running) ran ended

/-- What a run of a thread has done and what remains make up the playback. -/
theorem emitted_append_remaining
    {thread final : PlaybackThread}
    {events : List Event}
    {emitted : List PlaybackOutput}
    (ran : run (step host false) thread events = .ok (final, emitted)) :
    emitted ++ final.remaining host = thread.remaining host := by
  have stepKeeps : ∀ (past : List PlaybackOutput) (before : PlaybackThread)
      (event : Event) (next : PlaybackThread) (more : List PlaybackOutput),
      past ++ before.remaining host = thread.remaining host →
      step host false before event = .ok (next, more) →
        (past ++ more) ++ next.remaining host = thread.remaining host := by
    intro past before event next more whole stepped
    rw [List.append_assoc, (moves_of_step stepped).remaining, whole]
  exact Run.history_of_run stepKeeps rfl ran

/-- A new thread whose lines make it throw comes to the step that does. -/
theorem reaches_throw
    {lines : List ByteString}
    (throws : ¬∀ line ∈ lines, Plays host line) :
    ∃ events final emitted,
      run (step host false) (start lines) events = .ok (final, emitted) ∧
        final.Throws host := by
  have bounded : (start lines).Bounded := by
    intro index position
    cases position
  obtain ⟨events, final, emitted, ran, ended | reached⟩ :
      ∃ events final emitted,
        run (step host false) (start lines) events = .ok (final, emitted) ∧
          (final.Ended ∨ final.Throws host) :=
    ends_or_throws bounded
  · exfalso
    apply completed_of_ended (fun early => by cases early) ran ended
    have whole := emitted_append_remaining ran
    rw [remaining_of_ended ended, List.append_nil] at whole
    rw [whole]
    exact play_of_throws throws
  · exact ⟨events, final, emitted, ran, reached⟩

end PlaybackThread

/-! ## A start whose playback throws -/

namespace PlaybackEngine

variable {Client : Type*}

/-- An engine whose first playback thread has just been assigned. -/
def assigned (client : Client) [DecidableEq Client] (lines : List ByteString) :
    PlaybackEngine Client where
  lines := lines
  thread := ThreadSlot.empty.spawn (.start lines)
  stopFlag := false
  playing := true
  clients := Function.update (fun _ => .idle) client .countMessages
  fatal := none

variable [DecidableEq Client]

/-- A start of an engine with lines that has played nothing comes to the
assignment. -/
theorem run_assigned
    (host : PlaybackHost)
    (client : Client)
    (stopFlag : Bool)
    {lines : List ByteString}
    (nonempty : lines ≠ []) :
    run (step host) { new with lines := lines, stopFlag := stopFlag }
      (.command client .playbackStart :: List.replicate 8 (.client client)) =
        .ok (assigned client lines, []) := by
  obtain ⟨line, lines, rfl⟩ := List.exists_cons_of_ne_nil nonempty
  simp [run, step, advance, receive, guarded, moveClient, new, List.replicate,
    ThreadSlot.empty, ThreadSlot.map, ClientPosition.afterStop, assigned]

/-- What a playback thread does alone, the engine does. -/
theorem run_thread
    {host : PlaybackHost}
    {engine : PlaybackEngine Client}
    (alive : engine.fatal = none)
    (unstopped : engine.stopFlag = false)
    {index : ℕ}
    {thread final : PlaybackThread}
    (found : engine.thread.threads[index]? = some thread)
    {events : List PlaybackThread.Event}
    {emitted : List PlaybackOutput}
    (ran : run (PlaybackThread.step host false) thread events =
      .ok (final, emitted)) :
    ∃ reached : PlaybackEngine Client,
      run (step host) engine (events.map (.thread index)) =
        .ok (reached, emitted) ∧
      reached.fatal = none ∧ reached.stopFlag = false ∧
        reached.thread.threads[index]? = some final ∧
        reached.clients = engine.clients ∧
        reached.thread.handle = engine.thread.handle := by
  induction events generalizing engine thread emitted with
  | nil =>
      obtain ⟨rfl, rfl⟩ := Prod.mk.inj (Except.ok.inj ran)
      exact ⟨engine, rfl, alive, unstopped, found, rfl, rfl⟩
  | cons event events inductionHypothesis =>
      obtain ⟨next, now, later, stepped, rest, rfl⟩ := Run.run_cons_inv ran
      have bound := (List.getElem?_eq_some_iff.mp found).1
      let moved : PlaybackEngine Client :=
        { engine with
          thread := engine.thread.set index next
          playing := engine.playing && !thread.clearsPlaying }
      have here : thread.step host engine.stopFlag event = .ok (next, now) := by
        rw [unstopped]
        exact stepped
      have taken : engine.step host (.thread index event) = .ok (moved, now) := by
        rw [step_thread alive, advanceThread, found]
        simp only [here]
        rfl
      have foundNext : moved.thread.threads[index]? = some next := by
        simp [moved, ThreadSlot.set, bound]
      have aliveNext : moved.fatal = none := alive
      obtain ⟨reached, ranRest, kept⟩ :=
        inductionHypothesis aliveNext unstopped foundNext rest
      exact ⟨reached, Run.run_cons_ok taken ranRest, kept⟩

/-- A step that throws ends the program. -/
theorem step_throws
    {host : PlaybackHost}
    {engine : PlaybackEngine Client}
    (alive : engine.fatal = none)
    {index : ℕ}
    {thread : PlaybackThread}
    (found : engine.thread.threads[index]? = some thread)
    (throws : thread.Throws host) :
    engine.step host (.thread index .advance) =
      .ok ({ engine with fatal := some .uncaughtException }, []) := by
  have uncaught : thread.step host engine.stopFlag .advance = .error .uncaught :=
    PlaybackThread.step_eq_uncaught.mpr ⟨rfl, throws⟩
  rw [step_thread alive, advanceThread, found]
  simp only [uncaught]

/-- A start of a new engine whose lines make its thread throw can end the
program. -/
theorem exists_uncaught
    (host : PlaybackHost)
    (client : Client)
    {lines : List ByteString}
    (throws : ¬∀ line ∈ lines, PlaybackThread.Plays host line) :
    ∃ actions final history,
      (∀ action ∈ actions, action.isCommand = false) ∧
        run (step host) { new with lines := lines }
          (.command client .playbackStart :: actions) = .ok (final, history) ∧
        final.fatal = some .uncaughtException := by
  have nonempty : lines ≠ [] := by
    rintro rfl
    exact throws (by simp)
  obtain ⟨events, thread, emitted, ran, reached⟩ :=
    PlaybackThread.reaches_throw throws
  have startedAt : (assigned client lines).thread.threads[0]? =
      some (PlaybackThread.start lines) := rfl
  obtain ⟨before, ranThread, alive, _, found, _⟩ := run_thread rfl rfl startedAt ran
  have thrown := step_throws alive found reached
  have whole := Run.run_append
    (Run.run_append (run_assigned host client false nonempty) ranThread)
    (Run.run_cons_ok thrown (Run.run_nil _))
  rw [List.cons_append, List.cons_append] at whole
  refine ⟨_, _, _, ?_, whole, rfl⟩
  intro action member
  rcases List.mem_append.mp member with early | last
  · rcases List.mem_append.mp early with handler | replayed
    · obtain rfl := List.eq_of_mem_replicate handler
      rfl
    · obtain ⟨event, _, rfl⟩ := List.mem_map.mp replayed
      rfl
  · obtain rfl := List.mem_singleton.mp last
    rfl

end PlaybackEngine

/-- For every upload: every start of an engine at rest that nothing interrupts
goes through its lines exactly when every line is playable. -/
theorem playedThrough_iff_playable
    {Client : Type*}
    [DecidableEq Client]
    (host : PlaybackHost)
    (client : Client)
    (body : ByteString) :
    (∀ (engine final : PlaybackEngine Client) actions history,
      engine.AtRest → engine.lines = loadRecording body →
      (∀ action ∈ actions, action.isCommand = false) →
      run (PlaybackEngine.step host) engine
        (.command client .playbackStart :: actions) = .ok (final, history) →
        PlayedThrough host (loadRecording body) client final history) ↔
      ∀ line ∈ loadRecording body, Playable host line := by
  simp only [← plays_iff_playable]
  constructor
  · intro playedThrough
    by_contra throws
    obtain ⟨actions, final, history, quiet, ran, fatal⟩ :=
      PlaybackEngine.exists_uncaught host client throws
    have alive := (playedThrough _ final actions history
      (PlaybackEngine.atRest_of_new _) rfl quiet ran).alive
    rw [fatal] at alive
    cases alive
  · intro plays engine final actions history atRest lines quiet ran
    rw [← lines] at plays ⊢
    obtain ⟨alive, completes, whole⟩ :=
      PlaybackEngine.start_plays_back atRest plays quiet ran
    obtain ⟨published, completed⟩ := play_of_plays plays
    refine ⟨alive, completes, fun done => ?_, fun done => ?_⟩
    · rw [← published, ← whole done, filterMap_ofThread]
      intro output
      cases output <;> simp [PlaybackOutput.ofThread, PlaybackOutput.publication]
    · rw [← completed, ← whole done, filterMap_ofThread]
      intro output
      cases output <;> simp [PlaybackOutput.ofThread, PlaybackOutput.completion]

/-- A parser that reads one number and nothing else. -/
def numberParser : PlaybackHost where
  load := fun text => if text = ascii "5" then some (.integer 5) else none
  dump := fun _ => ascii "5"
  lexicalCast := fun _ => none
  publish := fun _ _ => true

/-- The upload of a number ends the program at the next start. -/
theorem number_ends_program :
    ∃ (final : PlaybackEngine Unit) (history : List PlaybackOutput),
      run (PlaybackEngine.step numberParser)
        { PlaybackEngine.new with lines := loadRecording (ascii "5") }
        (.command () .playbackStart ::
          (List.replicate 8 (.client ()) ++ [.thread 0 .advance])) =
          .ok (final, history) ∧
      final.fatal = some .uncaughtException ∧
      ¬PlayedThrough numberParser (loadRecording (ascii "5")) () final
        history := by
  refine ⟨_, _, rfl, rfl, ?_⟩
  intro playedThrough
  cases playedThrough.alive

end Omniscope
end StarterCpp
