import StarterCpp.Omniscope.MonitorServer

/-!
# The connections of the monitor

A step of the server as one of its connections sees it: the connection comes into
being, moves, stands beside the move of another one, takes part in a broadcast or is
left alone.  What all of these keep holds of every connection after a run.
-/

namespace StarterCpp
namespace Omniscope

open PubSub

/-- What an answer to a recording command says. -/
def Notification.recordingState {Data : Type*} : Notification Data → Option Bool
  | .recordingStarted => some true
  | .recordingStopped _ => some false
  | .topics _ | .message _ | .recordingLoaded _ | .playbackStarted _
  | .playbackProgress _ _ | .playbackFinished | .playbackStopped => none

theorem Notification.isBroadcast_eq_false
    {Data : Type*}
    {answer : Notification Data}
    {value : Bool}
    (tells : answer.recordingState = some value) :
    answer.isBroadcast = false := by
  cases answer with
  | recordingStarted | recordingStopped _ => rfl
  | topics _ | message _ | recordingLoaded _ | playbackStarted _
  | playbackProgress _ _ | playbackFinished | playbackStopped => cases tells

/-- The stages in which a connection is in `wsConnections`. -/
def HandlerStage.isRegistered : HandlerStage → Bool
  | .opening | .closed => false
  | .idle | .listing _ _ | .replying _ => true

namespace MonitorServer

/-! ## What a step does to a connection -/

/-- The moves of a connection. -/
inductive Moved
    (transports : List TransportInfo)
    (server : MonitorServer)
    (index : ℕ)
    (connection : Connection) : MonitorServer → Connection → List Event → Prop
  | registered
      (opening : connection.stage = .opening) :
      Moved transports server index connection server
        { connection with registered := true, stage := .listing (offers transports) [] }
        [.registered index, .listed index]
  | asked
      {offer : Offer}
      {todo : List Offer}
      {topicArr : List TopicEntry}
      (listing : connection.stage = .listing (offer :: todo) topicArr) :
      Moved transports server index connection server
        { connection with stage := .listing todo (topicArr ++ [server.listEntry offer]) } []
  | listed
      {topicArr : List TopicEntry}
      (listing : connection.stage = .listing [] topicArr) :
      Moved transports server index connection server
        ({ connection with stage := .idle }.sendText (.topics topicArr)) []
  | answered
      {answer : Notification Json}
      (replying : connection.stage = .replying answer) :
      Moved transports server index connection server
        ({ connection with stage := .idle }.sendText answer) []
  | switched
      {request : Request}
      {inbox : List Request}
      {transport : ℕ}
      {topic : ByteString}
      {value : Bool}
      (idle : connection.stage = .idle)
      (pending : connection.inbox = request :: inbox)
      (found : findTransport transports topic = some transport) :
      Moved transports server index connection (server.setActive transport topic value)
        { connection with stage := .listing (offers transports) [], inbox := inbox }
        [.subscriptionSet transport topic value, .listed index]
  | unknown
      {request : Request}
      {inbox : List Request}
      {topic : ByteString}
      (idle : connection.stage = .idle)
      (pending : connection.inbox = request :: inbox)
      (missing : findTransport transports topic = none) :
      Moved transports server index connection server
        { connection with stage := .listing (offers transports) [], inbox := inbox }
        [.listed index]
  | recorded
      {request : Request}
      {inbox : List Request}
      {recorder : Recorder}
      {answer : Notification Json}
      (idle : connection.stage = .idle)
      (pending : connection.inbox = request :: inbox)
      (tells : answer.recordingState = some recorder.recording) :
      Moved transports server index connection { server with recorder := recorder }
        { connection with stage := .replying answer, inbox := inbox }
        [.recordingSet index recorder.recording]
  | ignored
      {request : Request}
      {inbox : List Request}
      (idle : connection.stage = .idle)
      (pending : connection.inbox = request :: inbox) :
      Moved transports server index connection server
        { connection with inbox := inbox } []
  | clicked
      (click : Connection.Click) :
      Moved transports server index connection server (connection.click click) []
  | received
      {notification : Notification Json}
      {outbox : List (Notification Json)}
      (isOpen : connection.isOpen = true)
      (waiting : connection.outbox = notification :: outbox) :
      Moved transports server index connection server
        { connection with
          page := connection.page.onmessage notification
          outbox := outbox } [.received index notification]
  | disconnected :
      Moved transports server index connection server
        { connection with isOpen := false, outbox := [] } []
  | ended
      (broken : connection.isOpen = false)
      (idle : connection.stage = .idle) :
      Moved transports server index connection server
        { connection with registered := false, stage := .closed, inbox := [] } []

theorem recording_startRecording (recorder : Recorder) (now : Int64) :
    (recorder.startRecording now).recording = true := by
  unfold Recorder.startRecording
  split_ifs with recording
  · exact recording
  · rfl

theorem recording_stopRecording (recorder : Recorder) :
    recorder.stopRecording.1.recording = false := by
  unfold Recorder.stopRecording
  split_ifs with recording
  · rfl
  · simpa using recording

/-- Handling a request is one of the moves. -/
theorem moved_of_handleWsMessage
    {transports : List TransportInfo}
    {server : MonitorServer}
    {index : ℕ}
    {connection : Connection}
    {request : Request}
    {inbox : List Request}
    {now : Int64}
    {result : MonitorServer × Connection × List Event}
    (idle : connection.stage = .idle)
    (pending : connection.inbox = request :: inbox)
    (handles : handleWsMessage transports server index
      { connection with inbox := inbox } now request = result) :
    Moved transports server index connection result.1 result.2.1 result.2.2 := by
  have changes : ∀ topic value, changeSubscription transports server index
      { connection with inbox := inbox } topic value = result →
        Moved transports server index connection result.1 result.2.1 result.2.2 := by
    rintro topic value rfl
    unfold changeSubscription
    split
    · next found => exact .switched idle pending found
    · next missing => exact .unknown idle pending missing
  cases request with
  | subscribe topic => exact changes topic true handles
  | unsubscribe topic => exact changes topic false handles
  | recordStart =>
      have recording := recording_startRecording server.recorder now
      rw [← handles, handleWsMessage, ← recording]
      exact .recorded idle pending (by rw [recording]; rfl)
  | recordStop =>
      have recording := recording_stopRecording server.recorder
      rw [← handles, handleWsMessage, ← recording]
      exact .recorded idle pending (by rw [recording]; rfl)
  | playbackStart | playbackStop =>
      rw [← handles]
      exact .ignored idle pending

theorem moved_of_ok
    {transports : List TransportInfo}
    {server moved : MonitorServer}
    {index : ℕ}
    {connection changed : Connection}
    {move : Move}
    {emitted : List Event}
    (moves : moveConnection transports server index connection move =
      .ok (moved, changed, emitted)) :
    Moved transports server index connection moved changed emitted := by
  cases move with
  | proceed now =>
      simp only [moveConnection, proceed] at moves
      split at moves
      · next opening =>
        cases moves
        exact .registered opening
      · next listing =>
        cases moves
        exact .asked listing
      · next listing =>
        cases moves
        exact .listed listing
      · next replying =>
        cases moves
        exact .answered replying
      · next idle =>
        split at moves
        · cases moves
        · next pending =>
          exact moved_of_handleWsMessage idle pending (Except.ok.inj moves)
      · cases moves
  | click click =>
      cases moves
      exact .clicked click
  | receive =>
      simp only [moveConnection] at moves
      split at moves
      · next isOpen waiting =>
        cases moves
        exact .received isOpen waiting
      · cases moves
  | disconnect =>
      cases moves
      exact .disconnected
  | onclose =>
      simp only [moveConnection] at moves
      split at moves
      · next broken idle =>
        cases moves
        exact .ended broken idle
      · cases moves

/-- A step as one connection sees it. -/
inductive ConnectionStep
    (transports : List TransportInfo)
    (server later : MonitorServer)
    (index : ℕ) : Option Connection → Connection → List Event → Prop
  /-- A page connects. -/
  | opened
      (page : MonitorPage Json)
      (sameActive : later.active = server.active)
      (sameRecording : later.recorder.recording = server.recorder.recording) :
      ConnectionStep transports server later index none (.new page) []
  /-- The connection moves. -/
  | moved
      {connection changed : Connection}
      {moved : MonitorServer}
      {emitted : List Event}
      (moves : Moved transports server index connection moved changed emitted)
      (movedActive : later.active = moved.active)
      (movedRecording : later.recorder.recording = moved.recorder.recording) :
      ConnectionStep transports server later index (some connection) changed emitted
  /-- Another connection moves. -/
  | beside
      {connection other changed : Connection}
      {moved : MonitorServer}
      {emitted : List Event}
      {place : ℕ}
      (different : place ≠ index)
      (moves : Moved transports server place other moved changed emitted)
      (movedActive : later.active = moved.active)
      (movedRecording : later.recorder.recording = moved.recorder.recording) :
      ConnectionStep transports server later index (some connection) connection emitted
  /-- Something is broadcast. -/
  | delivered
      {connection : Connection}
      {notification : Notification Json}
      {emitted : List Event}
      (isBroadcast : notification.isBroadcast = true)
      (emits : emitted = .broadcast notification ::
        if server.connections.any Connection.dangling then [.fault] else [])
      (sameActive : later.active = server.active)
      (sameRecording : later.recorder.recording = server.recorder.recording) :
      ConnectionStep transports server later index (some connection)
        (connection.deliver notification) emitted
  /-- Nothing happens that concerns it. -/
  | aside
      {connection : Connection}
      {emitted : List Event}
      (emits : emitted = [] ∨ ∃ entry, emitted = [.handled entry])
      (sameActive : later.active = server.active)
      (sameRecording : later.recorder.recording = server.recorder.recording) :
      ConnectionStep transports server later index (some connection) connection emitted

variable {crow : Crow}
variable {transports : List TransportInfo}
variable {server later : MonitorServer}
variable {emitted : List Event}

theorem connect_inv
    {page : MonitorPage Json}
    {index : ℕ}
    {connection : Connection}
    (isConnection : (server.connect page).connections[index]? = some connection) :
    (server.connections[index]? = none ∧ connection = .new page) ∨
      server.connections[index]? = some connection := by
  rw [connect, List.getElem?_append] at isConnection
  split_ifs at isConnection with old
  · exact .inr isConnection
  · rw [List.getElem?_singleton] at isConnection
    split_ifs at isConnection with first
    exact .inl ⟨List.getElem?_eq_none (Nat.le_of_not_lt old),
      (Option.some.inj isConnection).symm⟩

theorem connect_connectionStep
    {page : MonitorPage Json}
    {index : ℕ}
    {connection : Connection}
    (isConnection : (server.connect page).connections[index]? = some connection) :
    ConnectionStep transports server (server.connect page) index
      server.connections[index]? connection [] := by
  rcases connect_inv isConnection with ⟨fresh, rfl⟩ | old
  · rw [fresh]
    exact .opened page rfl rfl
  · rw [old]
    exact .aside (.inl rfl) rfl rfl

theorem broadcastWs_connectionStep
    {sender : MonitorServer}
    {notification : Notification Json}
    {index : ℕ}
    {connection : Connection}
    (isBroadcast : notification.isBroadcast = true)
    (sameConnections : sender.connections = server.connections)
    (sameActive : sender.active = server.active)
    (sameRecorder : sender.recorder = server.recorder)
    (isConnection :
      (sender.broadcastWs notification).1.connections[index]? = some connection) :
    ConnectionStep transports server (sender.broadcastWs notification).1 index
      server.connections[index]? connection (sender.broadcastWs notification).2 := by
  rw [broadcastWs, List.getElem?_map, Option.map_eq_some_iff] at isConnection
  obtain ⟨old, isOld, rfl⟩ := isConnection
  rw [← sameConnections, isOld]
  apply ConnectionStep.delivered isBroadcast
  · rw [broadcastWs, sameConnections]
  · exact sameActive
  · exact congrArg Recorder.recording sameRecorder

/-- Recording a message does not start or stop a recording. -/
theorem recording_onTransportMessage
    {recorder after : Recorder}
    {topic jsonData payload : ByteString}
    {now : Int64}
    (recorded : recorder.onTransportMessage crow topic jsonData now =
      some (after, payload)) :
    after.recording = recorder.recording := by
  unfold Recorder.onTransportMessage at recorded
  split at recorded
  · cases recorded
  · split at recorded
    all_goals
      simp only [Option.some.injEq, Prod.mk.injEq] at recorded
      obtain ⟨rfl, _⟩ := recorded
      rfl

/-- Every step is one of these for every connection that is there after it. -/
theorem connectionStep_of_step
    {action : Action}
    {index : ℕ}
    {connection : Connection}
    (stepped : step crow transports server action = .ok (later, emitted))
    (isConnection : later.connections[index]? = some connection) :
    ConnectionStep transports server later index server.connections[index]?
      connection emitted := by
  cases action with
  | load =>
      simp only [step, Except.ok.injEq, Prod.mk.injEq] at stepped
      obtain ⟨rfl, rfl⟩ := stepped
      exact connect_connectionStep isConnection
  | reconnect place =>
      simp only [step] at stepped
      split at stepped
      · rw [guarded_eq_ok] at stepped
        obtain ⟨_, rfl, rfl⟩ := stepped
        exact connect_connectionStep isConnection
      · cases stepped
  | move place move =>
      simp only [step] at stepped
      split at stepped
      · cases stepped
      · next old isOld =>
        split at stepped
        · cases stepped
        · next moved changed news moves =>
          simp only [Except.ok.injEq, Prod.mk.injEq] at stepped
          obtain ⟨rfl, rfl⟩ := stepped
          rw [List.getElem?_set] at isConnection
          split_ifs at isConnection with here
          · subst here
            obtain rfl := Option.some.inj isConnection
            rw [isOld]
            exact .moved (moved_of_ok moves) rfl rfl
          · rw [isConnection]
            exact .beside here (moved_of_ok moves) rfl rfl
  | transportMessage topic jsonData now =>
      simp only [step] at stepped
      split at stepped
      · next data recorder payload _ recorded =>
        simp only [Except.ok.injEq, Prod.mk.injEq] at stepped
        obtain ⟨rfl, rfl⟩ := stepped
        rw [show server.connections[index]? = some connection from isConnection]
        exact .aside (.inr ⟨_, rfl⟩) rfl (recording_onTransportMessage recorded)
      · simp only [Except.ok.injEq, Prod.mk.injEq] at stepped
        obtain ⟨rfl, rfl⟩ := stepped
        rw [isConnection]
        exact .aside (.inl rfl) rfl rfl
  | broadcastMessage place =>
      simp only [step] at stepped
      split at stepped
      · simp only [Except.ok.injEq, Prod.ext_iff] at stepped
        obtain ⟨rfl, rfl⟩ := stepped
        exact broadcastWs_connectionStep rfl rfl rfl rfl isConnection
      · cases stepped
  | broadcastPlayback notification =>
      cases notification with
      | recordingLoaded _ | playbackStarted _ | playbackProgress _ _
      | playbackFinished | playbackStopped =>
          simp only [step, Except.ok.injEq, Prod.ext_iff] at stepped
          obtain ⟨rfl, rfl⟩ := stepped
          exact broadcastWs_connectionStep rfl rfl rfl rfl isConnection
      | message _ | topics _ | recordingStarted | recordingStopped _ =>
          cases stepped

/-- What every step keeps of the connections and the history before it holds of every
connection after a run. -/
theorem holds_of_run
    {Holds : List Event → MonitorServer → ℕ → Connection → Prop}
    (stepKeeps : ∀ past server later index connection emitted,
      (∀ (place : ℕ) (old : Connection),
        server.connections[place]? = some old → Holds past server place old) →
      ConnectionStep transports server later index server.connections[index]?
        connection emitted →
        Holds (past ++ emitted) later index connection)
    {files : ByteString → Option ByteString}
    {actions : List Action}
    {history : List Event}
    (ran : run (step crow transports) (start files) actions = .ok (server, history))
    {index : ℕ}
    {connection : Connection}
    (isConnection : server.connections[index]? = some connection) :
    Holds history server index connection := by
  have stepKeepsAll : ∀ past server action later emitted,
      (∀ (place : ℕ) (old : Connection),
        server.connections[place]? = some old → Holds past server place old) →
      step crow transports server action = .ok (later, emitted) →
      ∀ (place : ℕ) (changed : Connection),
        later.connections[place]? = some changed →
          Holds (past ++ emitted) later place changed := by
    intro past server action later emitted all stepped place changed isChanged
    exact stepKeeps past server later place changed emitted all
      (connectionStep_of_step stepped isChanged)
  have started : ∀ (place : ℕ) (old : Connection),
      (start files).connections[place]? = some old →
        Holds [] (start files) place old := nofun
  exact Run.history_of_run stepKeepsAll started ran index connection isConnection

/-- A click changes what the page shows or adds a request; it leaves the topics, the
recording and the notifications. -/
theorem click_eq (connection : Connection) (click : Connection.Click) :
    ∃ page inbox, connection.click click =
        { connection with page := page, inbox := inbox } ∧
      page.badge = connection.page.badge ∧
      page.recording = connection.page.recording := by
  have requests : ∀ request : Request, ∃ page inbox,
      connection.request request = { connection with page := page, inbox := inbox } ∧
        page.badge = connection.page.badge ∧
        page.recording = connection.page.recording := by
    intro request
    unfold Connection.request
    split_ifs
    · exact ⟨connection.page, _, rfl, rfl, rfl⟩
    · exact ⟨connection.page, connection.inbox, rfl, rfl, rfl⟩
  cases click with
  | toggleSubscribe topic =>
      simp only [Connection.click]
      split
      · exact requests _
      · exact ⟨connection.page, connection.inbox, rfl, rfl, rfl⟩
  | toggleRecord => exact requests _
  | togglePlayback => exact requests _
  | row index =>
      refine ⟨connection.page.clickRow index, connection.inbox, rfl, ?_, ?_⟩
      all_goals
        unfold MonitorPage.clickRow
        split
        · rfl
        · rfl
  | clear =>
      refine ⟨connection.page.clearMessages, connection.inbox, rfl, ?_, rfl⟩
      funext name
      simp [MonitorPage.badge, MonitorPage.clearMessages, Function.comp_def]

end MonitorServer
end Omniscope
end StarterCpp
