import StarterCpp.Library.Interleaving
import StarterCpp.Omniscope.MonitorPage
import StarterCpp.Omniscope.Recorder

/-!
# The monitor server and its pages

Every page has a connection, whose requests the server handles one after another;
what the server sends over it arrives in its order.  The handlers of several
connections, the threads of the transports and the playback run at the same time.
They share the active topics, the recorder and the set of connections to which
messages are broadcast.
-/

namespace StarterCpp
namespace Omniscope

open PubSub

/-- A transport with the topics that it offers. -/
structure TransportInfo where
  name : ByteString
  topicNames : List ByteString
  deriving DecidableEq, Repr

/-- A topic that a transport offers. -/
structure Offer where
  transport : ℕ
  transportName : ByteString
  topic : ByteString
  deriving DecidableEq, Repr

/-- What all transports offer, in the order of a topic list. -/
def offers (transports : List TransportInfo) : List Offer :=
  transports.zipIdx.flatMap fun entry =>
    entry.1.topicNames.map fun topic => ⟨entry.2, entry.1.name, topic⟩

def findTransport (transports : List TransportInfo) (topic : ByteString) : Option ℕ :=
  transports.findIdx? fun info => info.topicNames.contains topic

/-- What `broadcastWs` sends is a message or news of the playback; the rest are
answers to the page that asks. -/
def Notification.isBroadcast {Data : Type*} : Notification Data → Bool
  | .message _ | .recordingLoaded _ | .playbackStarted _ | .playbackProgress _ _
  | .playbackFinished | .playbackStopped => true
  | .topics _ | .recordingStarted | .recordingStopped _ => false

/-- Where the handler of a connection stands. -/
inductive HandlerStage
  /-- About to insert the connection into `wsConnections`. -/
  | opening
  | idle
  /-- In `sendTopicList`, with the offers still to be asked about. -/
  | listing (todo : List Offer) (topicArr : List TopicEntry)
  /-- About to send an answer. -/
  | replying (answer : Notification Json)
  /-- The handler of `onclose` has returned. -/
  | closed

/-- A connection with the page at its other end, the requests that have not been
handled and the notifications that have not been received. -/
structure Connection where
  page : MonitorPage Json
  isOpen : Bool
  /-- The connection is in `wsConnections`. -/
  registered : Bool
  stage : HandlerStage
  inbox : List Request
  outbox : List (Notification Json)

namespace Connection

/-- A page connects. -/
def new (page : MonitorPage Json) : Connection where
  page := page
  isOpen := true
  registered := false
  stage := .opening
  inbox := []
  outbox := []

/-- `conn.send_text` -/
def sendText
    (connection : Connection)
    (notification : Notification Json) : Connection :=
  if connection.isOpen then
    { connection with outbox := connection.outbox ++ [notification] }
  else connection

/-- `send` of the page. -/
def request (connection : Connection) (request : Request) : Connection :=
  if connection.isOpen then
    { connection with inbox := connection.inbox ++ [request] }
  else connection

/-- What the user does on the page. -/
inductive Click
  | toggleSubscribe (topic : ByteString)
  | toggleRecord
  | togglePlayback
  | row (index : ℕ)
  | clear

def click (connection : Connection) : Click → Connection
  | .toggleSubscribe topic =>
      match connection.page.toggleSubscribe topic with
      | some request => connection.request request
      | none => connection
  | .toggleRecord => connection.request connection.page.toggleRecord
  | .togglePlayback => connection.request connection.page.togglePlayback
  | .row index => { connection with page := connection.page.clickRow index }
  | .clear => { connection with page := connection.page.clearMessages }

/-- A broadcast reaches the connections in `wsConnections`. -/
def deliver
    (notification : Notification Json)
    (connection : Connection) : Connection :=
  if connection.registered then connection.sendText notification else connection

/-- The connection is in `wsConnections` although it is gone. -/
def dangling (connection : Connection) : Bool :=
  match connection.stage with
  | .closed => connection.registered
  | .opening | .idle | .listing _ _ | .replying _ => false

end Connection

/-- `OmniscopeApp::Impl` with its connections. -/
structure MonitorServer where
  /-- The active topics of each transport. -/
  active : ℕ → ByteString → Bool
  recorder : Recorder
  /-- The messages that are about to be broadcast. -/
  inFlight : List (Entry Json)
  connections : List Connection

namespace MonitorServer

/-- What one connection does: its handler goes on, the user clicks, the page receives
a notification, the connection breaks, and its `onclose` runs. -/
inductive Move
  | proceed (now : Int64)
  | click (click : Connection.Click)
  | receive
  | disconnect
  | onclose

/-- A page is loaded, the page of a broken connection connects again, a connection
moves, a transport has a message, one of the messages is broadcast, and so is news of
the playback. -/
inductive Action
  | load
  | reconnect (connection : ℕ)
  | move (connection : ℕ) (move : Move)
  | transportMessage (topic jsonData : ByteString) (now : Int64)
  | broadcastMessage (index : ℕ)
  | broadcastPlayback (notification : Notification Json)

/-- What happens. -/
inductive Event
  | registered (connection : ℕ)
  | listed (connection : ℕ)
  | subscriptionSet (transport : ℕ) (topic : ByteString) (value : Bool)
  | recordingSet (connection : ℕ) (value : Bool)
  | handled (entry : Entry Json)
  | broadcast (notification : Notification Json)
  | received (connection : ℕ) (notification : Notification Json)
  /-- A notification is sent over a connection that is gone. -/
  | fault

/-- The server before the first page. -/
def start (files : ByteString → Option ByteString) : MonitorServer where
  active := fun _ _ => false
  recorder := .start files
  inFlight := []
  connections := []

/-- A topic of a transport becomes active or inactive. -/
def setActive
    (server : MonitorServer)
    (transport : ℕ)
    (topic : ByteString)
    (value : Bool) : MonitorServer :=
  { server with
    active := Function.update server.active transport
      (Function.update (server.active transport) topic value) }

def connect (server : MonitorServer) (page : MonitorPage Json) : MonitorServer :=
  { server with connections := server.connections ++ [.new page] }

def broadcastWs
    (server : MonitorServer)
    (notification : Notification Json) : MonitorServer × List Event :=
  ({ server with connections := server.connections.map (.deliver notification) },
    .broadcast notification ::
      if server.connections.any Connection.dangling then [.fault] else [])

/-- The entry of a topic list for an offer. -/
def listEntry (server : MonitorServer) (offer : Offer) : TopicEntry where
  name := offer.topic
  subscribed := server.active offer.transport offer.topic
  transport := offer.transportName

/-- Make a topic active or inactive, and begin a topic list. -/
def changeSubscription
    (transports : List TransportInfo)
    (server : MonitorServer)
    (index : ℕ)
    (connection : Connection)
    (topic : ByteString)
    (value : Bool) : MonitorServer × Connection × List Event :=
  let listing := { connection with stage := .listing (offers transports) [] }
  match findTransport transports topic with
  | some transport =>
      (server.setActive transport topic value, listing,
        [.subscriptionSet transport topic value, .listed index])
  | none => (server, listing, [.listed index])

/-- `handleWsMessage` up to its answer.  The playback runs on its own. -/
def handleWsMessage
    (transports : List TransportInfo)
    (server : MonitorServer)
    (index : ℕ)
    (connection : Connection)
    (now : Int64) : Request → MonitorServer × Connection × List Event
  | .subscribe topic =>
      changeSubscription transports server index connection topic true
  | .unsubscribe topic =>
      changeSubscription transports server index connection topic false
  | .recordStart =>
      ({ server with recorder := server.recorder.startRecording now },
        { connection with stage := .replying .recordingStarted },
        [.recordingSet index true])
  | .recordStop =>
      ({ server with recorder := server.recorder.stopRecording.1 },
        { connection with
          stage := .replying (.recordingStopped server.recorder.stopRecording.2) },
        [.recordingSet index false])
  | .playbackStart | .playbackStop => (server, connection, [])

/-- The next step of the handler of a connection. -/
def proceed
    (transports : List TransportInfo)
    (server : MonitorServer)
    (index : ℕ)
    (connection : Connection)
    (now : Int64) : Except Disabled (MonitorServer × Connection × List Event) :=
  match connection.stage with
  | .opening =>
      .ok (server, { connection with
        registered := true
        stage := .listing (offers transports) [] }, [.registered index, .listed index])
  | .listing (offer :: todo) topicArr =>
      .ok (server, { connection with
        stage := .listing todo (topicArr ++ [server.listEntry offer]) }, [])
  | .listing [] topicArr =>
      .ok (server, { connection with stage := .idle }.sendText (.topics topicArr), [])
  | .replying answer =>
      .ok (server, { connection with stage := .idle }.sendText answer, [])
  | .idle =>
      match connection.inbox with
      | [] => .error .disabled
      | request :: inbox =>
          .ok (handleWsMessage transports server index
            { connection with inbox := inbox } now request)
  | .closed => .error .disabled

/-- One move of a connection. -/
def moveConnection
    (transports : List TransportInfo)
    (server : MonitorServer)
    (index : ℕ)
    (connection : Connection) :
    Move → Except Disabled (MonitorServer × Connection × List Event)
  | .proceed now => proceed transports server index connection now
  | .click click => .ok (server, connection.click click, [])
  | .receive =>
      match connection.isOpen, connection.outbox with
      | true, notification :: outbox =>
          .ok (server, { connection with
            page := connection.page.onmessage notification
            outbox := outbox }, [.received index notification])
      | _, _ => .error .disabled
  | .disconnect =>
      .ok (server, { connection with isOpen := false, outbox := [] }, [])
  | .onclose =>
      match connection.isOpen, connection.stage with
      | false, .idle =>
          .ok (server, { connection with
            registered := false
            stage := .closed
            inbox := [] }, [])
      | _, _ => .error .disabled

/-- One step of the server and its pages. -/
def step
    (crow : Crow)
    (transports : List TransportInfo)
    (server : MonitorServer) :
    Action → Except Disabled (MonitorServer × List Event)
  | .load => .ok (server.connect .new, [])
  | .reconnect index =>
      match server.connections[index]? with
      | some connection =>
          guarded (connection.isOpen = false) (server.connect connection.page) []
      | none => .error .disabled
  | .move index move =>
      match server.connections[index]? with
      | none => .error .disabled
      | some connection =>
          match moveConnection transports server index connection move with
          | .error fault => .error fault
          | .ok (moved, changed, emitted) =>
              .ok ({ moved with connections := server.connections.set index changed },
                emitted)
  | .transportMessage topic jsonData now =>
      match crow.load jsonData,
          server.recorder.onTransportMessage crow topic jsonData now with
      | some data, some (recorder, _) =>
          let entry := ⟨topic, timestamp now, data⟩
          .ok ({ server with recorder := recorder, inFlight := server.inFlight ++ [entry] },
            [.handled entry])
      | _, _ => .ok (server, [])
  | .broadcastMessage index =>
      match server.inFlight[index]? with
      | some entry =>
          .ok ({ server with inFlight := server.inFlight.eraseIdx index }.broadcastWs
            (.message entry))
      | none => .error .disabled
  | .broadcastPlayback notification =>
      match notification with
      | .recordingLoaded _ | .playbackStarted _ | .playbackProgress _ _
      | .playbackFinished | .playbackStopped => .ok (server.broadcastWs notification)
      | .message _ | .topics _ | .recordingStarted | .recordingStopped _ =>
          .error .disabled

end MonitorServer
end Omniscope
end StarterCpp
