import StarterCpp.Omniscope.MonitorViews

/-!
# What a page shows of the recording

Any page may start and stop the recording, and the server answers only the page that
does.  That page shows the state of the recorder as long as its command is the last
one; the others are told nothing.
-/

namespace StarterCpp
namespace Omniscope
namespace MonitorServer

open PubSub MonitorPage

variable {crow : Crow}
variable {transports : List TransportInfo}
variable {server later : MonitorServer}
variable {past emitted : List Event}
variable {index : ℕ}
variable {connection changed : Connection}

/-- A recording command is handled, by this connection or by another one, or the
connection is registered. -/
def Event.tellsRecording (index : ℕ) : Event → Option (Option Bool)
  | .recordingSet other value => some (if other = index then some value else none)
  | .registered other => if other = index then some none else none
  | .listed _ | .subscriptionSet _ _ _ | .handled _ | .broadcast _ | .received _ _
  | .fault => none

/-- The last recording command was handled by this connection. -/
def Commanded (index : ℕ) (value : Bool) (history : List Event) : Prop :=
  History.latest (Event.tellsRecording index) history = some (some value)

/-- What the page will show of the recording, by the stage of its handler. -/
def RecordingShown (connection : Connection) (value : Bool) : Prop :=
  match connection.stage with
  | .opening | .closed => True
  | .replying answer => recordingAfter connection.shownRecording answer = value
  | .idle | .listing _ _ => connection.shownRecording = value

/-- The stages in which no answer to a recording command is about to be sent. -/
def isQuiet : HandlerStage → Bool
  | .idle | .listing _ _ => true
  | .opening | .replying _ | .closed => false

theorem recordingShown_iff
    {value : Bool}
    (quiet : isQuiet connection.stage = true) :
    RecordingShown connection value ↔ connection.shownRecording = value := by
  unfold RecordingShown
  cases stage : connection.stage with
  | idle | listing _ _ => exact Iff.rfl
  | opening | replying _ | closed =>
      rw [stage] at quiet
      cases quiet

/-- What a page will show of the recording fits the recorder. -/
structure SeesRecording
    (past : List Event)
    (server : MonitorServer)
    (index : ℕ)
    (connection : Connection) : Prop where
  actual : ∀ value, connection.stage ≠ .opening → Commanded index value past →
    server.recorder.recording = value
  shows : ∀ value, Commanded index value past → connection.isOpen = true →
    RecordingShown connection value

namespace SeesRecording

/-- A step without a recording command, which leaves what the page will show. -/
theorem keep
    (sees : SeesRecording past server index connection)
    (silent : ∀ event ∈ emitted, Event.tellsRecording index event = none)
    (sameRecording : later.recorder.recording = server.recorder.recording)
    (opened : changed.stage ≠ .opening → connection.stage ≠ .opening)
    (shows : ∀ value, changed.isOpen = true →
      (connection.isOpen = true → RecordingShown connection value) →
        RecordingShown changed value) :
    SeesRecording (past ++ emitted) later index changed := by
  have before : ∀ value, Commanded index value (past ++ emitted) →
      Commanded index value past := by
    intro value commanded
    rwa [Commanded, History.latest_append_of_forall past silent] at commanded
  refine ⟨?_, ?_⟩
  · intro value notOpening commanded
    rw [sameRecording]
    exact sees.actual value (opened notOpening) (before value commanded)
  · intro value commanded isOpen
    exact shows value isOpen (sees.shows value (before value commanded))

/-- A step that leaves the stage as well. -/
theorem keepStage
    (sees : SeesRecording past server index connection)
    (silent : ∀ event ∈ emitted, Event.tellsRecording index event = none)
    (sameRecording : later.recorder.recording = server.recorder.recording)
    (sameStage : changed.stage = connection.stage)
    (sameOpen : changed.isOpen = connection.isOpen)
    (sameShown : changed.shownRecording = connection.shownRecording) :
    SeesRecording (past ++ emitted) later index changed := by
  refine sees.keep silent sameRecording (sameStage ▸ id) ?_
  intro value isOpen shown
  have before := shown (sameOpen ▸ isOpen)
  unfold RecordingShown at before ⊢
  rw [sameStage, sameShown]
  exact before

/-- A step from one stage without an answer to another one. -/
theorem goOn
    (sees : SeesRecording past server index connection)
    (silent : ∀ event ∈ emitted, Event.tellsRecording index event = none)
    (sameRecording : later.recorder.recording = server.recorder.recording)
    (wasQuiet : isQuiet connection.stage = true)
    (quiet : isQuiet changed.stage = true)
    (sameOpen : changed.isOpen = connection.isOpen)
    (sameShown : connection.isOpen = true →
      changed.shownRecording = connection.shownRecording) :
    SeesRecording (past ++ emitted) later index changed := by
  refine sees.keep silent sameRecording ?_ ?_
  · intro _ opening
    rw [opening] at wasQuiet
    cases wasQuiet
  · intro value isOpen shown
    rw [sameOpen] at isOpen
    rw [recordingShown_iff quiet, sameShown isOpen, ← recordingShown_iff wasQuiet]
    exact shown isOpen

/-- The connection is registered, or another one handles a command. -/
theorem begin
    {event : Event}
    {others : List Event}
    (tells : Event.tellsRecording index event = some none)
    (silent : ∀ other ∈ others, Event.tellsRecording index other = none) :
    SeesRecording (past ++ event :: others) later index changed := by
  have uncommanded : ∀ value, ¬Commanded index value (past ++ event :: others) := by
    intro value commanded
    rw [List.append_cons, Commanded, History.latest_append_of_forall _ silent,
      History.latest_concat_some tells] at commanded
    cases commanded
  exact ⟨fun value _ commanded => absurd commanded (uncommanded value),
    fun value commanded _ => absurd commanded (uncommanded value)⟩

theorem moved
    (sees : SeesRecording past server index connection)
    {moved : MonitorServer}
    (moves : Moved transports server index connection moved changed emitted)
    (sameRecording : later.recorder.recording = moved.recorder.recording) :
    SeesRecording (past ++ emitted) later index changed := by
  cases moves with
  | registered _ =>
      exact begin (if_pos rfl) (List.forall_mem_singleton.mpr rfl)
  | asked isListing =>
      refine sees.goOn (List.forall_mem_nil _) sameRecording ?_ rfl rfl fun _ => rfl
      rw [isListing]
      rfl
  | listed isListing =>
      apply sees.goOn (List.forall_mem_nil _) sameRecording
      · rw [isListing]
        rfl
      · rw [Connection.stage_sendText]
        rfl
      · exact Connection.isOpen_sendText _
      · intro isOpen
        have stillOpen : ({ connection with stage := .idle } : Connection).isOpen =
            true := isOpen
        rw [Connection.shownRecording_sendText stillOpen]
        rfl
  | answered replying =>
      refine sees.keep (List.forall_mem_nil _) sameRecording ?_ ?_
      · intro _
        rw [replying]
        exact nofun
      · intro value isOpen shown
        rw [Connection.isOpen_sendText] at isOpen
        have before := shown isOpen
        rw [RecordingShown, replying] at before
        rw [recordingShown_iff (by rw [Connection.stage_sendText]; rfl),
          Connection.shownRecording_sendText isOpen]
        exact before
  | switched idle _ _ =>
      refine sees.goOn ?_ sameRecording ?_ rfl rfl fun _ => rfl
      · rw [List.forall_mem_cons, List.forall_mem_singleton]
        exact ⟨rfl, rfl⟩
      · rw [idle]
        rfl
  | unknown idle _ _ =>
      refine sees.goOn (List.forall_mem_singleton.mpr rfl) sameRecording ?_ rfl rfl
        fun _ => rfl
      rw [idle]
      rfl
  | recorded _ _ tells =>
      have commands : ∀ actual value,
          Commanded index value (past ++ [.recordingSet index actual]) →
            actual = value := by
        intro actual value commanded
        have tellsNow : Event.tellsRecording index (.recordingSet index actual) =
            some (some actual) := congrArg some (if_pos rfl)
        rw [Commanded, History.latest_concat_some tellsNow] at commanded
        exact Option.some.inj (Option.some.inj commanded)
      refine ⟨?_, ?_⟩
      · intro value _ commanded
        rw [sameRecording]
        exact commands _ value commanded
      · intro value commanded _
        change recordingAfter _ _ = value
        rw [recordingAfter, tells, Option.getD_some]
        exact commands _ value commanded
  | ignored _ _ =>
      exact sees.keepStage (List.forall_mem_nil _) sameRecording rfl rfl rfl
  | clicked click =>
      obtain ⟨_, sameShown, sameStage, sameOpen⟩ := connection.shown_click click
      exact sees.keepStage (List.forall_mem_nil _) sameRecording sameStage sameOpen
        sameShown
  | received _ waiting =>
      exact sees.keepStage (List.forall_mem_singleton.mpr rfl) sameRecording rfl rfl
        (Connection.shown_receive waiting).2
  | disconnected =>
      exact sees.keep (List.forall_mem_nil _) sameRecording id nofun
  | ended _ idle =>
      refine sees.keep (List.forall_mem_nil _) sameRecording ?_ fun _ _ _ => trivial
      intro _
      rw [idle]
      exact nofun

/-- Every step keeps what a page will show of the recording true. -/
theorem connectionStep
    {before : Option Connection}
    (sees : ∀ old, before = some old → SeesRecording past server index old)
    (steps : ConnectionStep transports server later index before connection emitted) :
    SeesRecording (past ++ emitted) later index connection := by
  cases steps with
  | opened page =>
      exact ⟨fun _ notOpening => absurd rfl notOpening, fun _ _ _ => trivial⟩
  | moved moves _ sameRecording => exact (sees _ rfl).moved moves sameRecording
  | beside different moves _ sameRecording =>
      have kept : (∀ event ∈ emitted, Event.tellsRecording index event = none) →
          later.recorder.recording = server.recorder.recording →
          SeesRecording (past ++ emitted) later index connection :=
        fun silent unchanged => (sees _ rfl).keepStage silent unchanged rfl rfl rfl
      cases moves with
      | recorded _ _ _ =>
          apply begin _ (List.forall_mem_nil _)
          exact congrArg some (if_neg different)
      | registered _ =>
          apply kept _ sameRecording
          rw [List.forall_mem_cons, List.forall_mem_singleton]
          exact ⟨if_neg different, rfl⟩
      | switched _ _ _ =>
          apply kept _ sameRecording
          rw [List.forall_mem_cons, List.forall_mem_singleton]
          exact ⟨rfl, rfl⟩
      | unknown _ _ _ | received _ _ =>
          exact kept (List.forall_mem_singleton.mpr rfl) sameRecording
      | asked _ | listed _ | answered _ | ignored _ _ | clicked _ | disconnected
      | ended _ _ => exact kept (List.forall_mem_nil _) sameRecording
  | delivered isBroadcast emits _ sameRecording =>
      refine (sees _ rfl).keepStage ?_ sameRecording (Connection.stage_deliver _)
        (Connection.isOpen_deliver _) (Connection.shown_deliver isBroadcast).2
      rw [emits]
      intro event member
      rcases List.mem_cons.mp member with rfl | fault
      · rfl
      · split_ifs at fault
        · obtain rfl := List.mem_singleton.mp fault
          rfl
        · cases fault
  | aside emits _ sameRecording =>
      refine (sees _ rfl).keepStage ?_ sameRecording rfl rfl rfl
      rcases emits with rfl | ⟨entry, rfl⟩
      · exact List.forall_mem_nil _
      · exact List.forall_mem_singleton.mpr rfl

end SeesRecording

/-- The recorder is in the state that the last recording command asks for, and the page
that sent it shows this once it has received everything. -/
theorem recording_of_commanded
    {files : ByteString → Option ByteString}
    {actions : List Action}
    {history : List Event}
    (ran : run (step crow transports) (start files) actions = .ok (server, history))
    (isConnection : server.connections[index]? = some connection)
    (opened : connection.stage ≠ .opening)
    {value : Bool}
    (commanded : Commanded index value history) :
    server.recorder.recording = value ∧
      (connection.isOpen = true → connection.stage = .idle → connection.outbox = [] →
        connection.page.recording = value) := by
  have stepKeeps : ∀ (past : List Event) (server later : MonitorServer) (index : ℕ)
      (connection : Connection) (emitted : List Event),
      (∀ (place : ℕ) (old : Connection), server.connections[place]? = some old →
        SeesRecording past server place old) →
      ConnectionStep transports server later index server.connections[index]?
        connection emitted →
      SeesRecording (past ++ emitted) later index connection :=
    fun _ _ _ index _ _ all steps =>
      SeesRecording.connectionStep (fun old isOld => all index old isOld) steps
  have sees := holds_of_run stepKeeps ran isConnection
  refine ⟨sees.actual value opened commanded, ?_⟩
  intro isOpen idle received
  have shown := sees.shows value commanded isOpen
  rw [RecordingShown, idle] at shown
  change Connection.shownRecording _ = _ at shown
  rwa [Connection.shownRecording, received, List.foldl_nil] at shown

/-- A page starts a recording and is told of it. -/
theorem recording_of_commanded_session :
    let crow : Crow := ⟨fun _ => none, fun _ => [], fun _ => none⟩
    let actions : List Action := [.load, .move 0 (.proceed 0), .move 0 (.proceed 0),
      .move 0 .receive, .move 0 (.click .toggleRecord), .move 0 (.proceed 0),
      .move 0 (.proceed 0), .move 0 .receive]
    ∃ server history connection,
      run (step crow []) (start fun _ => none) actions = .ok (server, history) ∧
        server.connections[0]? = some connection ∧
        server.recorder.recording = true ∧ connection.page.recording = true := by
  intro crow actions
  obtain ⟨server, history, connection, ran, isConnection, isOpen, idle, received,
      commanded⟩ : ∃ server history connection,
        run (step crow []) (start fun _ => none) actions = .ok (server, history) ∧
        server.connections[0]? = some connection ∧ connection.isOpen = true ∧
        connection.stage = .idle ∧ connection.outbox = [] ∧ Commanded 0 true history :=
    ⟨_, _, _, rfl, rfl, rfl, rfl, rfl, rfl⟩
  have opened : connection.stage ≠ .opening := by
    rw [idle]
    exact nofun
  obtain ⟨recording, shown⟩ := recording_of_commanded ran isConnection opened commanded
  exact ⟨server, history, connection, ran, isConnection, recording,
    shown isOpen idle received⟩

end MonitorServer
end Omniscope
end StarterCpp
