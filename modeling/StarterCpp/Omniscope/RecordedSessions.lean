import Mathlib.Data.List.Infix
import StarterCpp.Omniscope.Recorder

/-!
# Recorded sessions

A session runs from a start to the next stop.  Its file keeps its records exactly
as long as no later session opens the same file, that is, starts in the same
second, with a record in either of them.
-/

namespace StarterCpp
namespace Omniscope

open PubSub Text

/-- Different seconds name different files. -/
theorem recordingName_eq_iff {first second : Int64} :
    recordingName first = recordingName second ↔
      epochSec first = epochSec second := by
  constructor
  · intro same
    have sameDecimal := List.append_cancel_left (List.append_cancel_right same)
    exact Int64.toInt_inj.mp (decimal_injective sameDecimal)
  · intro same
    rw [recordingName, same]
    rfl

namespace Recorder

/-! ## Sessions -/

/-- What one call makes of the session in progress. -/
def nextSession
    (session : Option (Int64 × List Event))
    (event : Event) : Option (Int64 × List Event) :=
  match session, event with
  | none, .startRecording now => some (now, [])
  | none, .stopRecording | none, .onTransportMessage _ _ _ => none
  | some _, .stopRecording => none
  | some (now, during), .startRecording _
  | some (now, during), .onTransportMessage _ _ _ =>
      some (now, during ++ [event])

@[simp] theorem nextSession_stop (session : Option (Int64 × List Event)) :
    nextSession session .stopRecording = none := by
  cases session <;> rfl

/-- The session in progress after some calls: the time of its start and the calls
since. -/
def session (events : List Event) : Option (Int64 × List Event) :=
  events.foldl nextSession none

@[simp] theorem session_nil : session [] = none :=
  rfl

@[simp] theorem session_concat (events : List Event) (event : Event) :
    session (events ++ [event]) = nextSession (session events) event :=
  List.foldl_concat _ _ _ _

/-- The file that a stop returns for a session holds the records of the session's
messages, at every later point. -/
def SessionsIntact
    (crow : Crow)
    (files : ByteString → Option ByteString)
    (events : List Event) : Prop :=
  ∀ first now during later, session first = some (now, during) →
    first ++ .stopRecording :: later <+: events →
      (after crow files (first ++ .stopRecording :: later)).files
        (after crow files first).stopRecording.2 =
          some (recordedText crow during)

/-- Of two sessions that start in the same second, the later one after the earlier
one was stopped, neither has a record. -/
def SecondsKeptApart (crow : Crow) (events : List Event) : Prop :=
  ∀ first now during second now' during',
    session first = some (now, during) →
    session second = some (now', during') →
    first ++ [.stopRecording] <+: second → second <+: events →
    epochSec now = epochSec now' →
      recordedText crow during = [] ∧ recordedText crow during' = []

/-- A session that is in progress after another one was stopped has started
since. -/
theorem start_after_stop
    {first rest during' : List Event}
    {now' : Int64}
    (inProgress : session (first ++ .stopRecording :: rest) =
      some (now', during')) :
    ∃ middle, rest = middle ++ .startRecording now' :: during' ∧
      session (first ++ .stopRecording :: middle) = none := by
  induction rest using List.reverseRecOn generalizing now' during' with
  | nil =>
      rw [session_concat, nextSession_stop] at inProgress
      simp at inProgress
  | append_singleton rest event inductionHypothesis =>
      rw [← List.cons_append, ← List.append_assoc, session_concat] at inProgress
      cases earlier : session (first ++ .stopRecording :: rest) with
      | none =>
          rw [earlier] at inProgress
          cases event with
          | startRecording now =>
              simp only [nextSession, Option.some.injEq, Prod.mk.injEq]
                at inProgress
              obtain ⟨rfl, rfl⟩ := inProgress
              exact ⟨rest, rfl, earlier⟩
          | stopRecording | onTransportMessage _ _ _ =>
              simp [nextSession] at inProgress
      | some current =>
          obtain ⟨now, during⟩ := current
          rw [earlier] at inProgress
          obtain ⟨middle, split, idle⟩ := inductionHypothesis earlier
          cases event with
          | stopRecording => simp [nextSession] at inProgress
          | startRecording _ | onTransportMessage _ _ _ =>
              simp only [nextSession, Option.some.injEq, Prod.mk.injEq]
                at inProgress
              obtain ⟨rfl, rfl⟩ := inProgress
              exact ⟨middle, by rw [split]; simp, idle⟩

/-! ## The file of the session in progress -/

section RecordedText

variable {crow : Crow}
variable {events : List Event}
variable {event : Event}

theorem recordedText_concat_some
    {line : ByteString}
    (recorded : lineOf crow event = some line) :
    recordedText crow (events ++ [event]) =
      recordedText crow events ++ (line ++ [newline]) := by
  simp [recordedText, List.filterMap_append, recorded]

theorem recordedText_concat_none (silent : lineOf crow event = none) :
    recordedText crow (events ++ [event]) = recordedText crow events := by
  simp [recordedText, List.filterMap_append, silent]

end RecordedText

/-- The recorder follows the session in progress: its file is open and holds the
records of the session. -/
def Follows (crow : Crow) (recorder : Recorder) :
    Option (Int64 × List Event) → Prop
  | none => recorder.recording = false
  | some (now, during) =>
      recorder.recording = true ∧ recorder.recFile = some (recordingName now) ∧
        recorder.recFilename = recordingName now ∧
        recorder.files (recordingName now) = some (recordedText crow during)

theorem Follows.next
    {crow : Crow}
    {recorder : Recorder}
    {inProgress : Option (Int64 × List Event)}
    (follows : recorder.Follows crow inProgress)
    (event : Event) :
    (recorder.next crow event).Follows crow (nextSession inProgress event) := by
  cases inProgress with
  | none =>
      have idle : recorder.recording = false := follows
      cases event with
      | startRecording now =>
          simp [Recorder.next, startRecording, idle, nextSession, Follows,
            recordedText]
      | stopRecording =>
          simp [Recorder.next, stopRecording, idle, nextSession, Follows]
      | onTransportMessage topic jsonData now =>
          cases loaded : crow.load jsonData with
          | none =>
              simp [Recorder.next, onTransportMessage, loaded, nextSession,
                Follows, idle]
          | some data =>
              simp [Recorder.next, onTransportMessage, loaded, nextSession,
                Follows, idle]
  | some current =>
      obtain ⟨start, during⟩ := current
      obtain ⟨recording, isOpen, named, contents⟩ := follows
      cases event with
      | startRecording now =>
          have silent : lineOf crow (.startRecording now) = none := rfl
          simp [Recorder.next, startRecording, recording, nextSession, Follows,
            isOpen, named, contents, recordedText_concat_none silent]
      | stopRecording =>
          simp [Recorder.next, stopRecording, recording, nextSession, Follows]
      | onTransportMessage topic jsonData now =>
          cases loaded : crow.load jsonData with
          | none =>
              have silent :
                  lineOf crow (.onTransportMessage topic jsonData now) = none := by
                simp [lineOf, loaded]
              simp [Recorder.next, onTransportMessage, loaded, nextSession,
                Follows, recording, isOpen, named, contents,
                recordedText_concat_none silent]
          | some data =>
              have recorded :
                  lineOf crow (.onTransportMessage topic jsonData now) =
                    some (crow.dump (record topic data now)) := by
                simp [lineOf, loaded]
              simp [Recorder.next, onTransportMessage, loaded, nextSession,
                Follows, recording, isOpen, named, contents, write,
                recordedText_concat_some recorded]

theorem follows_after
    (crow : Crow)
    (files : ByteString → Option ByteString)
    (events : List Event) :
    (after crow files events).Follows crow (session events) := by
  induction events using List.reverseRecOn with
  | nil => rfl
  | append_singleton events event inductionHypothesis =>
      rw [after_concat, session_concat]
      exact inductionHypothesis.next event

/-! ## Sessions and files -/

variable {crow : Crow}
variable {files : ByteString → Option ByteString}
variable {events : List Event}

/-- A stop returns the name of the session's file. -/
theorem stopRecording_name
    {first during : List Event}
    {now : Int64}
    (inProgress : session first = some (now, during)) :
    (after crow files first).stopRecording.2 = recordingName now := by
  have follows := follows_after crow files first
  rw [inProgress] at follows
  obtain ⟨recording, _, named, _⟩ := follows
  rw [stopRecording, if_pos recording, named]

/-- A call with a record leaves no text empty. -/
theorem recordedText_concat_ne_nil
    {during : List Event}
    {event : Event}
    {line : ByteString}
    (recorded : lineOf crow event = some line) :
    recordedText crow (during ++ [event]) ≠ [] := by
  rw [recordedText_concat_some recorded]
  simp

/-- When seconds are kept apart, a call leaves the file of a session that was
stopped. -/
theorem contents_next
    (apart : SecondsKeptApart crow events)
    {first during later : List Event}
    {now : Int64}
    (stopped : session first = some (now, during))
    {event : Event}
    (within : first ++ .stopRecording :: (later ++ [event]) <+: events)
    (contents : (after crow files (first ++ .stopRecording :: later)).files
      (recordingName now) = some (recordedText crow during)) :
    (after crow files (first ++ .stopRecording :: (later ++ [event]))).files
      (recordingName now) = some (recordedText crow during) := by
  have follows := follows_after crow files (first ++ .stopRecording :: later)
  have grown : first ++ .stopRecording :: (later ++ [event]) =
      (first ++ .stopRecording :: later) ++ [event] := by simp
  have afterStop : first ++ [.stopRecording] <+:
      first ++ .stopRecording :: (later ++ [event]) :=
    ⟨later ++ [event], by simp⟩
  rw [grown] at within afterStop ⊢
  rw [after_concat]
  cases inProgress : session (first ++ .stopRecording :: later) with
  | none =>
      have idle : (after crow files
          (first ++ .stopRecording :: later)).recording = false := by
        rw [inProgress] at follows
        exact follows
      cases event with
      | startRecording now' =>
          simp only [next, startRecording, idle, Bool.false_eq_true, if_false]
          by_cases same : recordingName now = recordingName now'
          · have started : session ((first ++ .stopRecording :: later) ++
                [.startRecording now']) = some (now', []) := by
              rw [session_concat, inProgress]
              rfl
            have empty := (apart _ _ _ _ _ _ stopped started afterStop within
              (recordingName_eq_iff.mp same)).1
            rw [same, Function.update_self, empty]
          · rw [Function.update_of_ne same, contents]
      | stopRecording =>
          simpa [next, stopRecording, idle] using contents
      | onTransportMessage topic jsonData now' =>
          cases loaded : crow.load jsonData with
          | none => simpa [next, onTransportMessage, loaded] using contents
          | some data =>
              simpa [next, onTransportMessage, loaded, idle] using contents
  | some current =>
      obtain ⟨start, since⟩ := current
      rw [inProgress] at follows
      obtain ⟨recording, isOpen, _, _⟩ := follows
      cases event with
      | startRecording now' =>
          simpa [next, startRecording, recording] using contents
      | stopRecording =>
          simpa [next, stopRecording, recording] using contents
      | onTransportMessage topic jsonData now' =>
          cases loaded : crow.load jsonData with
          | none => simpa [next, onTransportMessage, loaded] using contents
          | some data =>
              have recorded : lineOf crow
                  (.onTransportMessage topic jsonData now') =
                    some (crow.dump (record topic data now')) := by
                simp [lineOf, loaded]
              have continued : session ((first ++ .stopRecording :: later) ++
                  [.onTransportMessage topic jsonData now']) =
                    some (start, since ++
                      [.onTransportMessage topic jsonData now']) := by
                rw [session_concat, inProgress]
                rfl
              have different : recordingName now ≠ recordingName start := by
                intro same
                have empty := (apart _ _ _ _ _ _ stopped continued afterStop
                  within (recordingName_eq_iff.mp same)).2
                exact recordedText_concat_ne_nil recorded empty
              simpa [next, onTransportMessage, loaded, recording, isOpen, write,
                Function.update_of_ne different] using contents

/-- When seconds are kept apart, sessions stay intact. -/
theorem sessionsIntact_of_secondsKeptApart
    (apart : SecondsKeptApart crow events) :
    SessionsIntact crow files events := by
  intro first now during later stopped within
  rw [stopRecording_name stopped]
  induction later using List.reverseRecOn with
  | nil =>
      have follows := follows_after crow files first
      rw [stopped] at follows
      obtain ⟨recording, _, _, contents⟩ := follows
      rw [after_concat]
      simpa [next, stopRecording, recording] using contents
  | append_singleton later event inductionHypothesis =>
      apply contents_next apart stopped within
      apply inductionHypothesis
      refine List.IsPrefix.trans ⟨[event], ?_⟩ within
      simp

/-- When sessions stay intact, a second one in the same second has truncated an
empty file and written nothing to it. -/
theorem secondsKeptApart_of_sessionsIntact
    (intact : SessionsIntact crow files events) :
    SecondsKeptApart crow events := by
  intro first now during second now' during' stopped inProgress afterStop within
    same
  obtain ⟨rest, rfl⟩ := afterStop
  rw [List.append_assoc, List.singleton_append] at inProgress within
  obtain ⟨middle, rfl, idle⟩ := start_after_stop inProgress
  have sameName := recordingName_eq_iff.mpr same
  have truncated : recordedText crow during = [] := by
    have grown : first ++ .stopRecording :: (middle ++ [.startRecording now']) =
        (first ++ .stopRecording :: middle) ++ [.startRecording now'] := by simp
    have kept := intact first now during (middle ++ [.startRecording now'])
      stopped (List.IsPrefix.trans ⟨during', by simp⟩ within)
    rw [stopRecording_name stopped] at kept
    have follows := follows_after crow files
      ((first ++ .stopRecording :: middle) ++ [.startRecording now'])
    rw [session_concat, idle] at follows
    rw [grown, sameName, follows.2.2.2, Option.some.injEq] at kept
    exact kept.symm
  have kept := intact first now during _ stopped within
  rw [stopRecording_name stopped] at kept
  have follows := follows_after crow files
    (first ++ .stopRecording :: (middle ++ .startRecording now' :: during'))
  rw [inProgress] at follows
  rw [sameName, follows.2.2.2, Option.some.injEq] at kept
  exact ⟨truncated, kept.trans truncated⟩

/-- In every history of calls the files of the stopped sessions stay intact exactly
if no two sessions that start in the same second have a record between them. -/
theorem sessions_intact_iff
    (crow : Crow)
    (files : ByteString → Option ByteString)
    (events : List Event) :
    SessionsIntact crow files events ↔ SecondsKeptApart crow events :=
  ⟨secondsKeptApart_of_sessionsIntact, sessionsIntact_of_secondsKeptApart⟩

/-- A session with one record is stopped and another one started within a
second. -/
theorem session_lost_within_second :
    ∃ crow : Crow, ¬SessionsIntact crow (fun _ => none)
      [.startRecording 0,
        .onTransportMessage (ascii "Command") (ascii "\x7b\x7d") 1000000,
        .stopRecording, .startRecording 2000000] := by
  let line := ascii ("\x7b\"topic\":\"Command\"," ++
    "\"timestamp\":\"1970-01-01T00:00:00.001Z\"," ++
    "\"timestamp_ms\":1,\"data\":\x7b\x7d\x7d")
  let crow : Crow := {
    load := fun text =>
      if text = ascii "\x7b\x7d" then some (.object []) else none
    dump := fun _ => line
    lexicalCast := fun _ => none }
  refine ⟨crow, fun intact => ?_⟩
  have kept := intact [.startRecording 0,
    .onTransportMessage (ascii "Command") (ascii "\x7b\x7d") 1000000] 0 _
    [.startRecording 2000000] rfl List.prefix_rfl
  exact absurd kept (by decide)

end Recorder
end Omniscope
end StarterCpp
