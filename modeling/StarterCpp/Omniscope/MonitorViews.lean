import StarterCpp.Library.History
import StarterCpp.Omniscope.MonitorConnections

/-!
# What a page shows of the server

The server tells a page the state of the topics when the page connects and after each
of its own requests.  Other pages change topics without a word to it.  What a page
shows of a topic is therefore true as long as nobody has changed the topic since the
page was told.
-/

namespace StarterCpp
namespace Omniscope

open PubSub

/-! ## The page under notifications -/

namespace MonitorPage

variable {Data : Type*}

/-- The state shown for a topic after a topic list. -/
def badgeAfterList
    (name : ByteString)
    (shown : Option Bool)
    (topicArr : List TopicEntry) : Option Bool :=
  topicArr.foldl
    (fun shown entry => if entry.name = name then some entry.subscribed else shown) shown

/-- The state shown for a topic after a notification. -/
def badgeAfter
    (name : ByteString)
    (shown : Option Bool) : Notification Data → Option Bool
  | .topics topicArr => badgeAfterList name shown topicArr
  | .message _ | .recordingStarted | .recordingStopped _ | .recordingLoaded _
  | .playbackStarted _ | .playbackProgress _ _ | .playbackFinished
  | .playbackStopped => shown

/-- The flag `recording` after a notification. -/
def recordingAfter (shown : Bool) (notification : Notification Data) : Bool :=
  notification.recordingState.getD shown

theorem badgeAfterList_concat
    (name : ByteString)
    (shown : Option Bool)
    (topicArr : List TopicEntry)
    (entry : TopicEntry) :
    badgeAfterList name shown (topicArr ++ [entry]) =
      if entry.name = name then some entry.subscribed
      else badgeAfterList name shown topicArr :=
  List.foldl_concat _ _ _ _

theorem badge_handleTopicList
    (page : MonitorPage Data)
    (topicArr : List TopicEntry)
    (name : ByteString) :
    (page.handleTopicList topicArr).badge name =
      badgeAfterList name (page.badge name) topicArr := by
  induction topicArr using List.reverseRecOn with
  | nil => rfl
  | append_singleton topicArr entry inductionHypothesis =>
      rw [badgeAfterList_concat, ← inductionHypothesis]
      simp only [badge, handleTopicList, List.foldl_concat, noteTopic]
      split_ifs with isName
      · subst isName
        rw [Function.update_self]
        rfl
      · rw [Function.update_of_ne (Ne.symm isName)]

theorem badge_onmessage
    (page : MonitorPage Data)
    (notification : Notification Data)
    (name : ByteString) :
    (page.onmessage notification).badge name =
      badgeAfter name (page.badge name) notification := by
  cases notification with
  | topics topicArr => exact page.badge_handleTopicList topicArr name
  | message entry =>
      simp only [onmessage, handleIncomingMessage, appendMessageRow, badge, badgeAfter]
      by_cases isName : name = entry.topic
      · subst isName
        simp [Function.comp_def]
      · rw [Function.update_of_ne isName]
  | recordingStarted | recordingStopped _ | recordingLoaded _ | playbackStarted _
  | playbackProgress _ _ | playbackFinished | playbackStopped => rfl

/-- An answer to a recording command says nothing of the topics. -/
theorem badgeAfter_of_recordingState
    {notification : Notification Data}
    (answers : notification.recordingState ≠ none)
    (name : ByteString)
    (shown : Option Bool) :
    badgeAfter name shown notification = shown := by
  cases notification with
  | topics _ => exact absurd rfl answers
  | message _ | recordingStarted | recordingStopped _ | recordingLoaded _
  | playbackStarted _ | playbackProgress _ _ | playbackFinished | playbackStopped => rfl

theorem recording_onmessage
    (page : MonitorPage Data)
    (notification : Notification Data) :
    (page.onmessage notification).recording =
      recordingAfter page.recording notification := by
  cases notification <;> rfl

end MonitorPage

namespace Connection

open MonitorPage

/-- The state that the page will show for a topic once it has received everything. -/
def shown (connection : Connection) (name : ByteString) : Option Bool :=
  connection.outbox.foldl (badgeAfter name) (connection.page.badge name)

/-- The flag `recording` of the page once it has received everything. -/
def shownRecording (connection : Connection) : Bool :=
  connection.outbox.foldl recordingAfter connection.page.recording

variable {connection : Connection}

/-- A notification that is sent over an open connection will be shown. -/
theorem shown_sendText
    (isOpen : connection.isOpen = true)
    (notification : Notification Json)
    (name : ByteString) :
    (connection.sendText notification).shown name =
      badgeAfter name (connection.shown name) notification := by
  rw [sendText, if_pos isOpen]
  exact List.foldl_concat _ _ _ _

theorem shownRecording_sendText
    (isOpen : connection.isOpen = true)
    (notification : Notification Json) :
    (connection.sendText notification).shownRecording =
      recordingAfter connection.shownRecording notification := by
  rw [sendText, if_pos isOpen]
  exact List.foldl_concat _ _ _ _

@[simp] theorem stage_sendText (notification : Notification Json) :
    (connection.sendText notification).stage = connection.stage := by
  unfold sendText
  split_ifs
  · rfl
  · rfl

@[simp] theorem isOpen_sendText (notification : Notification Json) :
    (connection.sendText notification).isOpen = connection.isOpen := by
  unfold sendText
  split_ifs
  · rfl
  · rfl

@[simp] theorem stage_deliver (notification : Notification Json) :
    (connection.deliver notification).stage = connection.stage := by
  unfold deliver
  split_ifs
  · exact stage_sendText notification
  · rfl

@[simp] theorem isOpen_deliver (notification : Notification Json) :
    (connection.deliver notification).isOpen = connection.isOpen := by
  unfold deliver
  split_ifs
  · exact isOpen_sendText notification
  · rfl

/-- A broadcast says nothing of the topics and the recording. -/
theorem shown_deliver
    {notification : Notification Json}
    (isBroadcast : notification.isBroadcast = true) :
    (connection.deliver notification).shown = connection.shown ∧
      (connection.deliver notification).shownRecording = connection.shownRecording := by
  unfold deliver
  split_ifs
  · by_cases isOpen : connection.isOpen = true
    · rw [shownRecording_sendText isOpen]
      constructor
      · funext name
        rw [shown_sendText isOpen]
        cases notification <;> first | rfl | cases isBroadcast
      · cases notification <;> first | rfl | cases isBroadcast
    · simp [sendText, isOpen]
  · exact ⟨rfl, rfl⟩

/-- A click changes none of it. -/
theorem shown_click (click : Click) :
    (connection.click click).shown = connection.shown ∧
      (connection.click click).shownRecording = connection.shownRecording ∧
      (connection.click click).stage = connection.stage ∧
      (connection.click click).isOpen = connection.isOpen := by
  obtain ⟨page, inbox, isClicked, sameBadge, sameRecording⟩ :=
    MonitorServer.click_eq connection click
  rw [isClicked]
  refine ⟨?_, ?_, rfl, rfl⟩
  · funext name
    simp only [shown, sameBadge]
  · simp only [shownRecording, sameRecording]

/-- What the page receives was shown already. -/
theorem shown_receive
    {notification : Notification Json}
    {outbox : List (Notification Json)}
    (waiting : connection.outbox = notification :: outbox) :
    let received := { connection with
      page := connection.page.onmessage notification
      outbox := outbox }
    received.shown = connection.shown ∧
      received.shownRecording = connection.shownRecording := by
  constructor
  · funext name
    rw [shown, shown, waiting, badge_onmessage]
    rfl
  · rw [shownRecording, shownRecording, waiting, recording_onmessage]
    rfl

end Connection

namespace MonitorServer

open MonitorPage

variable {crow : Crow}
variable {transports : List TransportInfo}
variable {server later : MonitorServer}
variable {past emitted : List Event}
variable {index : ℕ}
variable {connection changed : Connection}

/-! ## The topics -/

/-- The offer that decides what a topic list says of a topic: the last one of it. -/
def lastOffer (transports : List TransportInfo) (topic : ByteString) : Option Offer :=
  ((offers transports).filter fun offer => decide (offer.topic = topic)).getLast?

theorem mem_of_lastOffer
    {topic : ByteString}
    {offer : Offer}
    (last : lastOffer transports topic = some offer) :
    offer ∈ offers transports ∧ offer.topic = topic := by
  have member := List.mem_of_getLast? last
  rw [List.mem_filter, decide_eq_true_iff] at member
  exact member

/-- An offer that no other one of its topic follows is the last one. -/
theorem lastOffer_of_suffix
    {offer : Offer}
    {todo : List Offer}
    (suffix : offer :: todo <:+ offers transports)
    (last : ∀ other ∈ todo, other.topic ≠ offer.topic) :
    lastOffer transports offer.topic = some offer := by
  obtain ⟨done, split⟩ := suffix
  have none : (todo.filter fun other => decide (other.topic = offer.topic)) = [] := by
    rw [List.filter_eq_nil_iff]
    intro other member
    simpa using last other member
  rw [lastOffer, ← split, List.filter_append, List.filter_cons_of_pos (by simp), none]
  exact List.getLast?_concat

/-- A topic list of a connection begins, or a topic changes. -/
def Event.tellsTopic
    (index transport : ℕ)
    (topic : ByteString) : Event → Option Bool
  | .listed other => if other = index then some true else none
  | .subscriptionSet other name _ =>
      if other = transport ∧ name = topic then some false else none
  | .registered _ | .recordingSet _ _ | .handled _ | .broadcast _ | .received _ _
  | .fault => none

/-- A topic list of the connection has begun, and the topic has not changed since. -/
def Told (index : ℕ) (offer : Offer) (history : List Event) : Prop :=
  History.latest (Event.tellsTopic index offer.transport offer.topic) history = some true

/-- What the page will show for a topic, by the stage of its handler. -/
def TopicShown (connection : Connection) (topic : ByteString) (value : Bool) : Prop :=
  match connection.stage with
  | .opening | .closed => True
  | .listing todo topicArr =>
      (∀ offer ∈ todo, offer.topic ≠ topic) →
        badgeAfterList topic (connection.shown topic) topicArr = some value
  | .idle | .replying _ => connection.shown topic = some value

/-- What a page will show of the topics fits their state. -/
structure SeesTopics
    (transports : List TransportInfo)
    (past : List Event)
    (server : MonitorServer)
    (index : ℕ)
    (connection : Connection) : Prop where
  listing : ∀ todo topicArr, connection.stage = .listing todo topicArr →
    todo <:+ offers transports
  answers : ∀ answer, connection.stage = .replying answer →
    answer.recordingState ≠ none
  shows : ∀ offer, lastOffer transports offer.topic = some offer →
    Told index offer past → connection.isOpen = true →
      TopicShown connection offer.topic (server.active offer.transport offer.topic)

namespace SeesTopics

/-- A topic list has just begun. -/
theorem begin (isListing : changed.stage = .listing (offers transports) []) :
    SeesTopics transports past server index changed where
  listing := by
    intro todo topicArr sameStage
    rw [isListing] at sameStage
    obtain ⟨rfl, rfl⟩ := HandlerStage.listing.inj sameStage
    exact List.suffix_refl _
  answers := by
    intro answer replying
    rw [isListing] at replying
    cases replying
  shows := by
    intro offer last _ _
    unfold TopicShown
    rw [isListing]
    intro none
    exact absurd rfl (none offer (mem_of_lastOffer last).1)

/-- A step that leaves what the page is told and will show. -/
theorem keep
    (sees : SeesTopics transports past server index connection)
    (untold : ∀ offer, Told index offer (past ++ emitted) → Told index offer past ∧
      later.active offer.transport offer.topic =
        server.active offer.transport offer.topic)
    (sameStage : changed.stage = connection.stage)
    (sameOpen : changed.isOpen = connection.isOpen)
    (sameShown : changed.shown = connection.shown) :
    SeesTopics transports (past ++ emitted) later index changed where
  listing := sameStage ▸ sees.listing
  answers := sameStage ▸ sees.answers
  shows := by
    intro offer last told isOpen
    obtain ⟨toldBefore, sameActive⟩ := untold offer told
    have shown := sees.shows offer last toldBefore (sameOpen ▸ isOpen)
    unfold TopicShown at shown ⊢
    rw [sameStage, sameShown, sameActive]
    exact shown

/-- Events that neither begin a topic list of the connection nor change a topic. -/
theorem untold_of_silent
    (silent : ∀ event ∈ emitted, ∀ transport topic,
      Event.tellsTopic index transport topic event = none)
    (sameActive : later.active = server.active)
    (offer : Offer)
    (told : Told index offer (past ++ emitted)) :
    Told index offer past ∧ later.active offer.transport offer.topic =
      server.active offer.transport offer.topic := by
  refine ⟨?_, by rw [sameActive]⟩
  rw [Told, History.latest_append_of_forall past fun event member =>
    silent event member _ _] at told
  exact told

/-- Another topic becomes active or inactive. -/
theorem active_setActive_of_not
    {transport place : ℕ}
    {topic name : ByteString}
    {value : Bool}
    (other : ¬(transport = place ∧ topic = name)) :
    (server.setActive transport topic value).active place name =
      server.active place name := by
  simp only [setActive]
  by_cases sameTransport : place = transport
  · subst sameTransport
    have otherTopic : name ≠ topic := fun sameTopic => other ⟨rfl, sameTopic.symm⟩
    rw [Function.update_self, Function.update_of_ne otherTopic]
  · rw [Function.update_of_ne sameTransport]

/-- Another connection changes a topic. -/
theorem untold_of_switched
    {place transport : ℕ}
    (different : place ≠ index)
    {topic : ByteString}
    {value : Bool}
    (sameActive : later.active = (server.setActive transport topic value).active)
    (offer : Offer)
    (told : Told index offer
      (past ++ [.subscriptionSet transport topic value, .listed place])) :
    Told index offer past ∧ later.active offer.transport offer.topic =
      server.active offer.transport offer.topic := by
  have split : past ++ [.subscriptionSet transport topic value, .listed place] =
      past ++ [.subscriptionSet transport topic value] ++ [.listed place] := by simp
  rw [Told, split, History.latest_concat_none (by simp [Event.tellsTopic, different])]
    at told
  by_cases isTopic : transport = offer.transport ∧ topic = offer.topic
  · have changes : Event.tellsTopic index offer.transport offer.topic
        (.subscriptionSet transport topic value) = some false := if_pos isTopic
    rw [History.latest_concat_some changes] at told
    cases told
  · have elsewhere : Event.tellsTopic index offer.transport offer.topic
        (.subscriptionSet transport topic value) = none := if_neg isTopic
    rw [History.latest_concat_none elsewhere] at told
    exact ⟨told, sameActive ▸ active_setActive_of_not isTopic⟩

/-- The handler asks about the next offer. -/
theorem asked
    (sees : SeesTopics transports past server index connection)
    {offer : Offer}
    {todo : List Offer}
    {topicArr : List TopicEntry}
    (isListing : connection.stage = .listing (offer :: todo) topicArr) :
    SeesTopics transports past server index
      { connection with
        stage := .listing todo (topicArr ++ [server.listEntry offer]) } := by
  have suffix := sees.listing _ _ isListing
  refine ⟨?_, nofun, ?_⟩
  · rintro later _ ⟨⟩
    exact (List.suffix_cons offer todo).trans suffix
  · intro asked last told isOpen none
    change badgeAfterList asked.topic (connection.shown asked.topic)
      (topicArr ++ [server.listEntry offer]) = _
    rw [badgeAfterList_concat]
    split_ifs with isAsked
    · -- The offer is the last one of its topic, so it is the one in question.
      change offer.topic = asked.topic at isAsked
      rw [← isAsked] at none last
      have isLast := lastOffer_of_suffix suffix none
      rw [last] at isLast
      obtain rfl := Option.some.inj isLast
      rfl
    · have shown := sees.shows asked last told isOpen
      rw [TopicShown, isListing] at shown
      exact shown (List.forall_mem_cons.mpr ⟨isAsked, none⟩)

/-- What the page will show when the handler is done with a topic list or an answer
and sends it. -/
theorem sent
    (sees : SeesTopics transports past server index connection)
    (notification : Notification Json)
    (shows : ∀ (topic : ByteString) (value : Bool), TopicShown connection topic value →
      badgeAfter topic (connection.shown topic) notification = some value) :
    SeesTopics transports past server index
      ({ connection with stage := .idle }.sendText notification) := by
  have stage : ({ connection with stage := .idle }.sendText notification).stage =
      .idle := Connection.stage_sendText notification
  refine ⟨?_, ?_, ?_⟩
  · intro todo topicArr sameStage
    rw [stage] at sameStage
    cases sameStage
  · intro answer sameStage
    rw [stage] at sameStage
    cases sameStage
  · intro offer last told isOpen
    rw [Connection.isOpen_sendText] at isOpen
    rw [TopicShown, stage]
    change Connection.shown _ _ = _
    rw [Connection.shown_sendText isOpen]
    exact shows _ _ (sees.shows offer last told isOpen)

theorem moved
    (sees : SeesTopics transports past server index connection)
    {moved : MonitorServer}
    (moves : Moved transports server index connection moved changed emitted)
    (sameActive : later.active = moved.active) :
    SeesTopics transports (past ++ emitted) later index changed := by
  have untold : later.active = server.active → ∀ offer, Told index offer (past ++ []) →
      Told index offer past ∧ later.active offer.transport offer.topic =
        server.active offer.transport offer.topic :=
    untold_of_silent (List.forall_mem_nil _)
  cases moves with
  | registered _ | switched _ _ _ | unknown _ _ _ => exact begin rfl
  | asked isListing => exact (sees.asked isListing).keep (untold sameActive) rfl rfl rfl
  | listed isListing =>
      refine SeesTopics.keep (sees.sent (.topics _) ?_) (untold sameActive) rfl rfl rfl
      intro topic value shown
      rw [TopicShown, isListing] at shown
      exact shown (List.forall_mem_nil _)
  | answered replying =>
      refine SeesTopics.keep (sees.sent _ ?_) (untold sameActive) rfl rfl rfl
      intro topic value shown
      rw [TopicShown, replying] at shown
      rw [badgeAfter_of_recordingState (sees.answers _ replying)]
      exact shown
  | recorded idle _ tells =>
      refine ⟨nofun, ?_, ?_⟩
      · rintro answer ⟨⟩
        rw [tells]
        exact Option.some_ne_none _
      · intro offer last told isOpen
        obtain ⟨toldBefore, _⟩ := untold_of_silent
          (List.forall_mem_singleton.mpr fun _ _ => rfl) sameActive offer told
        have shown := sees.shows offer last toldBefore isOpen
        rw [TopicShown, idle] at shown
        rw [sameActive]
        exact shown
  | ignored _ _ => exact sees.keep (untold sameActive) rfl rfl rfl
  | clicked click =>
      obtain ⟨sameShown, _, sameStage, sameOpen⟩ := connection.shown_click click
      exact sees.keep (untold sameActive) sameStage sameOpen sameShown
  | received _ waiting =>
      refine sees.keep ?_ rfl rfl (Connection.shown_receive waiting).1
      apply untold_of_silent _ sameActive
      exact List.forall_mem_singleton.mpr fun _ _ => rfl
  | disconnected => exact ⟨sees.listing, sees.answers, nofun⟩
  | ended _ _ => exact ⟨nofun, nofun, fun _ _ _ _ => trivial⟩

/-- Another connection moves. -/
theorem beside
    (sees : SeesTopics transports past server index connection)
    {moved : MonitorServer}
    {other otherChanged : Connection}
    {place : ℕ}
    (different : place ≠ index)
    (moves : Moved transports server place other moved otherChanged emitted)
    (sameActive : later.active = moved.active) :
    SeesTopics transports (past ++ emitted) later index connection := by
  have elsewhere : ∀ transport topic,
      Event.tellsTopic index transport topic (.listed place) = none :=
    fun _ _ => if_neg different
  refine sees.keep ?_ rfl rfl rfl
  cases moves with
  | switched _ _ _ => exact untold_of_switched different sameActive
  | registered _ =>
      apply untold_of_silent _ sameActive
      rw [List.forall_mem_cons, List.forall_mem_singleton]
      exact ⟨fun _ _ => rfl, elsewhere⟩
  | unknown _ _ _ =>
      apply untold_of_silent _ sameActive
      exact List.forall_mem_singleton.mpr elsewhere
  | recorded _ _ _ | received _ _ =>
      apply untold_of_silent _ sameActive
      exact List.forall_mem_singleton.mpr fun _ _ => rfl
  | asked _ | listed _ | answered _ | ignored _ _ | clicked _ | disconnected
  | ended _ _ => exact untold_of_silent (List.forall_mem_nil _) sameActive

/-- Every step keeps what a page will show of the topics true. -/
theorem connectionStep
    {before : Option Connection}
    (sees : ∀ old, before = some old → SeesTopics transports past server index old)
    (steps : ConnectionStep transports server later index before connection emitted) :
    SeesTopics transports (past ++ emitted) later index connection := by
  cases steps with
  | opened page => exact ⟨nofun, nofun, fun _ _ _ _ => trivial⟩
  | moved moves sameActive => exact (sees _ rfl).moved moves sameActive
  | beside different moves sameActive =>
      exact (sees _ rfl).beside different moves sameActive
  | delivered isBroadcast emits sameActive =>
      refine (sees _ rfl).keep (untold_of_silent ?_ sameActive)
        (Connection.stage_deliver _) (Connection.isOpen_deliver _)
        (Connection.shown_deliver isBroadcast).1
      rw [emits]
      intro event member
      rcases List.mem_cons.mp member with rfl | fault
      · exact fun _ _ => rfl
      · split_ifs at fault
        · obtain rfl := List.mem_singleton.mp fault
          exact fun _ _ => rfl
        · cases fault
  | aside emits sameActive =>
      refine (sees _ rfl).keep (untold_of_silent ?_ sameActive) rfl rfl rfl
      rcases emits with rfl | ⟨entry, rfl⟩
      · exact List.forall_mem_nil _
      · exact List.forall_mem_singleton.mpr fun _ _ => rfl

end SeesTopics

/-- A page that has received everything while its handler is idle shows for a topic
the state of the last transport that offers it, as long as nobody has changed that
state since the last topic list of the page began. -/
theorem badge_of_told
    {files : ByteString → Option ByteString}
    {actions : List Action}
    {history : List Event}
    (ran : run (step crow transports) (start files) actions = .ok (server, history))
    (isConnection : server.connections[index]? = some connection)
    (isOpen : connection.isOpen = true)
    (idle : connection.stage = .idle)
    (received : connection.outbox = [])
    (offer : Offer)
    (last : lastOffer transports offer.topic = some offer)
    (told : Told index offer history) :
    connection.page.badge offer.topic =
      some (server.active offer.transport offer.topic) := by
  have stepKeeps : ∀ (past : List Event) (server later : MonitorServer) (index : ℕ)
      (connection : Connection) (emitted : List Event),
      (∀ (place : ℕ) (old : Connection), server.connections[place]? = some old →
        SeesTopics transports past server place old) →
      ConnectionStep transports server later index server.connections[index]?
        connection emitted →
      SeesTopics transports (past ++ emitted) later index connection :=
    fun _ _ _ index _ _ all steps =>
      SeesTopics.connectionStep (fun old isOld => all index old isOld) steps
  have sees := holds_of_run stepKeeps ran isConnection
  have shown := sees.shows offer last told isOpen
  rw [TopicShown, idle] at shown
  change Connection.shown _ _ = _ at shown
  rwa [Connection.shown, received, List.foldl_nil] at shown

/-- A page subscribes to the one topic there is and is told of it. -/
theorem badge_of_told_session :
    let crow : Crow := ⟨fun _ => none, fun _ => [], fun _ => none⟩
    let transports : List TransportInfo := [⟨[], [[1]]⟩]
    let actions : List Action := [.load, .move 0 (.proceed 0), .move 0 (.proceed 0),
      .move 0 (.proceed 0), .move 0 .receive, .move 0 (.click (.toggleSubscribe [1])),
      .move 0 (.proceed 0), .move 0 (.proceed 0), .move 0 (.proceed 0), .move 0 .receive]
    ∃ server history connection,
      run (step crow transports) (start fun _ => none) actions = .ok (server, history) ∧
        server.connections[0]? = some connection ∧
        server.active 0 [1] = true ∧
        connection.page.badge [1] = some (server.active 0 [1]) := by
  intro crow transports actions
  obtain ⟨server, history, connection, ran, isConnection, active, isOpen, idle, received,
      told⟩ : ∃ server history connection,
        run (step crow transports) (start fun _ => none) actions =
          .ok (server, history) ∧ server.connections[0]? = some connection ∧
        server.active 0 [1] = true ∧ connection.isOpen = true ∧
        connection.stage = .idle ∧ connection.outbox = [] ∧
        Told 0 ⟨0, [], [1]⟩ history :=
    ⟨_, _, _, rfl, rfl, rfl, rfl, rfl, rfl, rfl⟩
  exact ⟨server, history, connection, ran, isConnection, active,
    badge_of_told ran isConnection isOpen idle received ⟨0, [], [1]⟩ rfl told⟩

end MonitorServer
end Omniscope
end StarterCpp
