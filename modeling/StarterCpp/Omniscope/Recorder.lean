import Mathlib.Logic.Function.Basic
import StarterCpp.Omniscope.Clock
import StarterCpp.Omniscope.Crow

/-!
# Recording

While a recording is in progress, every message that the application handles is
written to the recording's file as one line.  The file is named by the second in
which the recording starts, and opening it truncates what it held.
-/

namespace StarterCpp
namespace Omniscope

open PubSub Text

/-- What the application keeps for recording, and the files, by name.  A file holds
what has been written to it; every open succeeds. -/
structure Recorder where
  recording : Bool
  /-- The file that the output stream has open. -/
  recFile : Option ByteString
  recFilename : ByteString
  files : ByteString → Option ByteString

/-- The JSON record of a message. -/
def record (topic : ByteString) (data : Json) (now : Int64) : Json :=
  .object [(ascii "topic", .string topic),
    (ascii "timestamp", .string (timestamp now)),
    (ascii "timestamp_ms", .integer (epochMs now)),
    (ascii "data", data)]

/-- The envelope in which a message goes to the browsers. -/
def envelope (topic : ByteString) (data : Json) (now : Int64) : Json :=
  .object [(ascii "type", .string (ascii "message")),
    (ascii "topic", .string topic),
    (ascii "timestamp", .string (timestamp now)),
    (ascii "data", data)]

/-- The name of a recording that starts at a reading of the clock. -/
def recordingName (now : Int64) : ByteString :=
  ascii "omni_" ++ decimal (epochSec now).toInt ++ ascii ".dat"

namespace Recorder

/-- Before the first recording. -/
def start (files : ByteString → Option ByteString) : Recorder where
  recording := false
  recFile := none
  recFilename := []
  files := files

def startRecording (recorder : Recorder) (now : Int64) : Recorder :=
  if recorder.recording then recorder
  else
    { recording := true
      recFile := some (recordingName now)
      recFilename := recordingName now
      files := Function.update recorder.files (recordingName now) (some []) }

/-- Stop the recording and return its file name, or an empty name. -/
def stopRecording (recorder : Recorder) : Recorder × ByteString :=
  if recorder.recording then
    ({ recorder with recording := false, recFile := none },
      recorder.recFilename)
  else (recorder, [])

/-- Append a text to a file. -/
def write
    (recorder : Recorder)
    (name text : ByteString) : Recorder :=
  { recorder with
    files := Function.update recorder.files name
      ((recorder.files name).map fun contents => contents ++ text) }

/-- Record a message if a recording is in progress, and return what is broadcast;
a message whose data cannot be parsed makes it throw. -/
def onTransportMessage
    (crow : Crow)
    (recorder : Recorder)
    (topic jsonData : ByteString)
    (now : Int64) : Option (Recorder × ByteString) :=
  match crow.load jsonData with
  | none => none
  | some data =>
      let payload := crow.dump (envelope topic data now)
      match recorder.recording, recorder.recFile with
      | true, some name =>
          let line := crow.dump (record topic data now)
          some (recorder.write name (line ++ [newline]), payload)
      | true, none | false, _ => some (recorder, payload)

/-- The calls of the application. -/
inductive Event
  | startRecording (now : Int64)
  | stopRecording
  | onTransportMessage (topic jsonData : ByteString) (now : Int64)
  deriving DecidableEq

/-- The state after one call; a call that throws leaves it. -/
def next (crow : Crow) (recorder : Recorder) : Event → Recorder
  | .startRecording now => recorder.startRecording now
  | .stopRecording => recorder.stopRecording.1
  | .onTransportMessage topic jsonData now =>
      match recorder.onTransportMessage crow topic jsonData now with
      | none => recorder
      | some (recorded, _) => recorded

/-- The state after a list of calls. -/
def after
    (crow : Crow)
    (files : ByteString → Option ByteString)
    (events : List Event) : Recorder :=
  events.foldl (next crow) (start files)

@[simp] theorem after_nil
    (crow : Crow)
    (files : ByteString → Option ByteString) :
    after crow files [] = start files :=
  rfl

@[simp] theorem after_concat
    (crow : Crow)
    (files : ByteString → Option ByteString)
    (events : List Event)
    (event : Event) :
    after crow files (events ++ [event]) =
      next crow (after crow files events) event :=
  List.foldl_concat _ _ _ _

/-- The line that is recorded for a call while a recording is in progress. -/
def lineOf (crow : Crow) : Event → Option ByteString
  | .onTransportMessage topic jsonData now =>
      (crow.load jsonData).map fun data => crow.dump (record topic data now)
  | .startRecording _ | .stopRecording => none

/-- The records of the messages of some calls, one line each. -/
def recordedText (crow : Crow) (events : List Event) : ByteString :=
  (events.filterMap (lineOf crow)).flatMap fun line => line ++ [newline]

end Recorder
end Omniscope
end StarterCpp
