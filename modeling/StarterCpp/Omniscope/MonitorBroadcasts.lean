import Mathlib.Data.List.Perm.Basic
import StarterCpp.Library.History
import StarterCpp.Omniscope.MonitorConnections

/-!
# Broadcasts

Every message that a transport hands over is broadcast once.  A page receives what is
broadcast from the moment its connection is in `wsConnections`, all of it in one
order that is the same for every page, as long as the connection holds.  Nothing is
sent over a connection that is gone.
-/

namespace StarterCpp
namespace Omniscope

open PubSub

namespace MonitorServer

variable {crow : Crow}
variable {transports : List TransportInfo}
variable {server later : MonitorServer}
variable {emitted : List Event}

/-! ## What a page has received -/

/-- The connection is inserted into `wsConnections`. -/
def Event.registers (index : ℕ) : Event → Bool
  | .registered other => decide (other = index)
  | .listed _ | .subscriptionSet _ _ _ | .recordingSet _ _ | .handled _ | .broadcast _
  | .received _ _ | .fault => false

def Event.broadcast? : Event → Option (Notification Json)
  | .broadcast notification => some notification
  | .registered _ | .listed _ | .subscriptionSet _ _ _ | .recordingSet _ _ | .handled _
  | .received _ _ | .fault => none

/-- A broadcast that a page receives. -/
def Event.receives? (index : ℕ) : Event → Option (Notification Json)
  | .received other notification =>
      if other = index ∧ notification.isBroadcast = true then some notification else none
  | .registered _ | .listed _ | .subscriptionSet _ _ _ | .recordingSet _ _ | .handled _
  | .broadcast _ | .fault => none

/-- What has been broadcast since a connection was registered. -/
def broadcastsSince (index : ℕ) (history : List Event) : List (Notification Json) :=
  (History.since (Event.registers index) history).filterMap Event.broadcast?

/-- The broadcasts that a page has received since its connection was registered. -/
def receivedSince (index : ℕ) (history : List Event) : List (Notification Json) :=
  (History.since (Event.registers index) history).filterMap (Event.receives? index)

section Since

variable {past : List Event}
variable {index : ℕ}

theorem broadcastsSince_append
    (continues : ∀ event ∈ emitted, event.registers index = false) :
    broadcastsSince index (past ++ emitted) =
      broadcastsSince index past ++ emitted.filterMap Event.broadcast? := by
  rw [broadcastsSince, History.since_append_of_forall past continues,
    List.filterMap_append, broadcastsSince]

theorem receivedSince_append
    (continues : ∀ event ∈ emitted, event.registers index = false) :
    receivedSince index (past ++ emitted) =
      receivedSince index past ++ emitted.filterMap (Event.receives? index) := by
  rw [receivedSince, History.since_append_of_forall past continues,
    List.filterMap_append, receivedSince]

/-- Both are empty when the connection is registered. -/
theorem since_registered (past : List Event) (index : ℕ) :
    broadcastsSince index (past ++ [.registered index, .listed index]) = [] ∧
      receivedSince index (past ++ [.registered index, .listed index]) = [] := by
  have begun : History.since (Event.registers index) (past ++ [.registered index]) = [] :=
    History.since_concat_true (by simp [Event.registers])
  have split : past ++ [.registered index, .listed index] =
      (past ++ [.registered index]) ++ [.listed index] := by simp
  have continues : Event.registers index (.listed index) = false := rfl
  constructor
  · rw [split, broadcastsSince, History.since_concat_false continues, begun]
    rfl
  · rw [split, receivedSince, History.since_concat_false continues, begun]
    rfl

/-- An event that neither broadcasts nor concerns what a page receives. -/
structure Event.Silent (index : ℕ) (event : Event) : Prop where
  continues : event.registers index = false
  sends : event.broadcast? = none
  receives : event.receives? index = none

theorem broadcastsSince_of_silent
    (silent : ∀ event ∈ emitted, event.Silent index) :
    broadcastsSince index (past ++ emitted) = broadcastsSince index past := by
  rw [broadcastsSince_append fun event member => (silent event member).continues,
    List.filterMap_eq_nil_iff.mpr fun event member => (silent event member).sends,
    List.append_nil]

theorem receivedSince_of_silent
    (silent : ∀ event ∈ emitted, event.Silent index) :
    receivedSince index (past ++ emitted) = receivedSince index past := by
  rw [receivedSince_append fun event member => (silent event member).continues,
    List.filterMap_eq_nil_iff.mpr fun event member => (silent event member).receives,
    List.append_nil]

end Since

/-- What a page has received fits what has been broadcast. -/
structure Delivered
    (past : List Event)
    (index : ℕ)
    (connection : Connection) : Prop where
  registered : connection.registered = connection.stage.isRegistered
  answers : ∀ answer, connection.stage = .replying answer → answer.isBroadcast = false
  unsent : connection.stage = .opening → connection.outbox = []
  ended : connection.stage = .closed → connection.isOpen = false
  sound : connection.stage ≠ .opening →
    receivedSince index past <+: broadcastsSince index past
  complete : connection.stage ≠ .opening → connection.isOpen = true →
    receivedSince index past ++ connection.outbox.filter Notification.isBroadcast =
      broadcastsSince index past

namespace Delivered

variable {past : List Event}
variable {index : ℕ}
variable {connection : Connection}

theorem new (page : MonitorPage Json) : Delivered past index (.new page) where
  registered := rfl
  answers := by
    intro answer replying
    cases replying
  unsent := fun _ => rfl
  ended := by
    intro closed
    cases closed
  sound := fun opened => absurd rfl opened
  complete := fun opened => absurd rfl opened

theorem not_dangling (delivered : Delivered past index connection) :
    connection.dangling = false := by
  unfold Connection.dangling
  cases stage : connection.stage with
  | closed => simpa [stage, HandlerStage.isRegistered] using delivered.registered
  | opening | idle | listing _ _ | replying _ => rfl

/-- Silent events leave what has been received. -/
theorem silently
    (delivered : Delivered past index connection)
    (silent : ∀ event ∈ emitted, event.Silent index) :
    Delivered (past ++ emitted) index connection where
  registered := delivered.registered
  answers := delivered.answers
  unsent := delivered.unsent
  ended := delivered.ended
  sound := by
    rw [broadcastsSince_of_silent silent, receivedSince_of_silent silent]
    exact delivered.sound
  complete := by
    rw [broadcastsSince_of_silent silent, receivedSince_of_silent silent]
    exact delivered.complete

/-- A registered connection goes to another stage and may send an answer. -/
theorem goOn
    (delivered : Delivered past index connection)
    {stage : HandlerStage}
    {inbox : List Request}
    (wasRegistered : connection.stage.isRegistered = true)
    (isRegistered : stage.isRegistered = true)
    (answers : ∀ answer, stage = .replying answer → answer.isBroadcast = false) :
    Delivered past index { connection with stage := stage, inbox := inbox } where
  registered := by rw [delivered.registered, wasRegistered, isRegistered]
  answers := answers
  unsent := by
    rintro rfl
    cases isRegistered
  ended := by
    rintro rfl
    cases isRegistered
  sound := fun _ => delivered.sound fun opening => by
    rw [opening] at wasRegistered
    cases wasRegistered
  complete := fun _ => delivered.complete fun opening => by
    rw [opening] at wasRegistered
    cases wasRegistered

/-- An answer is sent. -/
theorem sendText
    (delivered : Delivered past index connection)
    (isRegistered : connection.stage.isRegistered = true)
    {answer : Notification Json}
    (isAnswer : answer.isBroadcast = false) :
    Delivered past index (connection.sendText answer) := by
  unfold Connection.sendText
  split_ifs with isOpen
  · refine ⟨delivered.registered, delivered.answers, ?_, delivered.ended,
      delivered.sound, ?_⟩
    · intro opening
      change connection.stage = _ at opening
      rw [opening] at isRegistered
      cases isRegistered
    · intro opened _
      rw [List.filter_append, List.filter_singleton, isAnswer]
      simpa using delivered.complete opened isOpen
  · exact delivered

/-- What is broadcast is sent to the connections in `wsConnections`. -/
theorem deliver
    (delivered : Delivered past index connection)
    {notification : Notification Json}
    (isBroadcast : notification.isBroadcast = true) :
    Delivered (past ++ [.broadcast notification]) index
      (connection.deliver notification) := by
  have continues : ∀ event ∈ [Event.broadcast notification],
      event.registers index = false := by simp [Event.registers]
  have sent : broadcastsSince index (past ++ [.broadcast notification]) =
      broadcastsSince index past ++ [notification] :=
    broadcastsSince_append continues
  have received : receivedSince index (past ++ [.broadcast notification]) =
      receivedSince index past :=
    (receivedSince_append continues).trans (List.append_nil _)
  have sound : connection.stage ≠ .opening →
      receivedSince index (past ++ [.broadcast notification]) <+:
        broadcastsSince index (past ++ [.broadcast notification]) := by
    intro opened
    rw [sent, received]
    exact (delivered.sound opened).trans (List.prefix_append _ _)
  unfold Connection.deliver Connection.sendText
  cases isRegistered : connection.registered with
  | false =>
      refine ⟨delivered.registered, delivered.answers, delivered.unsent,
        delivered.ended, sound, ?_⟩
      intro opened isOpen
      -- An open connection past its opening is in `wsConnections`.
      exfalso
      have outside := delivered.registered
      rw [isRegistered] at outside
      cases stage : connection.stage with
      | opening => exact opened stage
      | closed => exact absurd (delivered.ended stage) (by simpa using isOpen)
      | idle | listing _ _ | replying _ =>
          rw [stage] at outside
          cases outside
  | true =>
      have unsentStage : connection.stage ≠ .opening := by
        intro opening
        have inside := delivered.registered
        rw [isRegistered, opening] at inside
        cases inside
      simp only [if_true]
      split_ifs with isOpen
      · refine ⟨isRegistered ▸ delivered.registered, delivered.answers,
          fun opening => absurd opening unsentStage, delivered.ended, sound, ?_⟩
        intro opened _
        rw [sent, received, List.filter_append, List.filter_singleton, isBroadcast,
          cond_true, ← List.append_assoc, delivered.complete opened isOpen]
      · exact ⟨delivered.registered, delivered.answers, delivered.unsent,
          delivered.ended, sound, fun _ opened => absurd opened isOpen⟩

end Delivered

/-- The moves of another connection do not concern what a page receives. -/
theorem silent_of_moved
    {connection changed : Connection}
    {moved : MonitorServer}
    {place index : ℕ}
    (different : place ≠ index)
    (moves : Moved transports server place connection moved changed emitted) :
    ∀ event ∈ emitted, event.Silent index := by
  have registers : Event.registers index (.registered place) = false :=
    decide_eq_false different
  cases moves with
  | registered _ =>
      rw [List.forall_mem_cons, List.forall_mem_singleton]
      exact ⟨⟨registers, rfl, rfl⟩, rfl, rfl, rfl⟩
  | switched _ _ _ =>
      rw [List.forall_mem_cons, List.forall_mem_singleton]
      exact ⟨⟨rfl, rfl, rfl⟩, rfl, rfl, rfl⟩
  | unknown _ _ _ | recorded _ _ _ =>
      rw [List.forall_mem_singleton]
      exact ⟨rfl, rfl, rfl⟩
  | received _ _ =>
      rw [List.forall_mem_singleton]
      exact ⟨rfl, rfl, by simp [Event.receives?, different]⟩
  | asked _ | listed _ | answered _ | ignored _ _ | clicked _ | disconnected
  | ended _ _ => exact List.forall_mem_nil _

namespace Delivered

variable {past : List Event}
variable {index : ℕ}
variable {connection : Connection}

/-- The page receives the first of the notifications that were sent. -/
theorem receive
    (delivered : Delivered past index connection)
    {notification : Notification Json}
    {outbox : List (Notification Json)}
    (isOpen : connection.isOpen = true)
    (waiting : connection.outbox = notification :: outbox) :
    Delivered (past ++ [.received index notification]) index
      { connection with
        page := connection.page.onmessage notification
        outbox := outbox } := by
  have opened : connection.stage ≠ .opening := by
    intro opening
    rw [delivered.unsent opening] at waiting
    cases waiting
  have continues : ∀ event ∈ [Event.received index notification],
      event.registers index = false := by simp [Event.registers]
  have sent : broadcastsSince index (past ++ [.received index notification]) =
      broadcastsSince index past :=
    (broadcastsSince_append continues).trans (List.append_nil _)
  have received : receivedSince index (past ++ [.received index notification]) =
      receivedSince index past ++ [notification].filter Notification.isBroadcast := by
    rw [receivedSince_append continues]
    cases isBroadcast : notification.isBroadcast with
    | true => simp [Event.receives?, isBroadcast]
    | false => simp [Event.receives?, isBroadcast]
  have complete : receivedSince index (past ++ [.received index notification]) ++
      outbox.filter Notification.isBroadcast =
        broadcastsSince index (past ++ [.received index notification]) := by
    rw [sent, received, List.append_assoc, ← List.filter_append, List.singleton_append,
      ← waiting]
    exact delivered.complete opened isOpen
  refine ⟨delivered.registered, delivered.answers, fun opening => absurd opening opened,
    delivered.ended, fun _ => ?_, fun _ _ => complete⟩
  rw [← complete]
  exact List.prefix_append _ _

/-- A move of the connection keeps what the page has received in step. -/
theorem moved
    (delivered : Delivered past index connection)
    {moved : MonitorServer}
    {changed : Connection}
    (moves : Moved transports server index connection moved changed emitted) :
    Delivered (past ++ emitted) index changed := by
  cases moves with
  | registered opening =>
      obtain ⟨sent, received⟩ := since_registered past index
      refine ⟨rfl, ?_, ?_, ?_, ?_, ?_⟩
      · intro answer replying
        cases replying
      · intro opening
        cases opening
      · intro closed
        cases closed
      · intro _
        rw [sent, received]
      · intro _ _
        rw [sent, received, delivered.unsent opening]
        rfl
  | asked listing =>
      rw [List.append_nil]
      apply delivered.goOn
      · rw [listing]
        rfl
      · rfl
      · intro answer replying
        cases replying
  | listed listing =>
      rw [List.append_nil]
      apply Delivered.sendText
      · apply delivered.goOn
        · rw [listing]
          rfl
        · rfl
        · intro answer replying
          cases replying
      · rfl
      · rfl
  | answered replying =>
      rw [List.append_nil]
      apply Delivered.sendText
      · apply delivered.goOn
        · rw [replying]
          rfl
        · rfl
        · intro answer replying
          cases replying
      · rfl
      · exact delivered.answers _ replying
  | switched idle _ _ =>
      apply Delivered.silently
      · apply delivered.goOn
        · rw [idle]
          rfl
        · rfl
        · exact nofun
      · rw [List.forall_mem_cons, List.forall_mem_singleton]
        exact ⟨⟨rfl, rfl, rfl⟩, rfl, rfl, rfl⟩
  | unknown idle _ _ =>
      apply Delivered.silently
      · apply delivered.goOn
        · rw [idle]
          rfl
        · rfl
        · exact nofun
      · rw [List.forall_mem_singleton]
        exact ⟨rfl, rfl, rfl⟩
  | recorded idle _ tells =>
      apply Delivered.silently
      · apply delivered.goOn
        · rw [idle]
          rfl
        · rfl
        · rintro answer ⟨⟩
          exact Notification.isBroadcast_eq_false tells
      · rw [List.forall_mem_singleton]
        exact ⟨rfl, rfl, rfl⟩
  | ignored idle _ =>
      rw [List.append_nil]
      exact ⟨delivered.registered, delivered.answers, delivered.unsent,
        delivered.ended, delivered.sound, delivered.complete⟩
  | clicked click =>
      obtain ⟨page, inbox, isClicked, _⟩ := click_eq connection click
      rw [isClicked, List.append_nil]
      exact ⟨delivered.registered, delivered.answers, delivered.unsent,
        delivered.ended, delivered.sound, delivered.complete⟩
  | received isOpen waiting => exact delivered.receive isOpen waiting
  | disconnected =>
      rw [List.append_nil]
      refine ⟨delivered.registered, delivered.answers, fun _ => rfl, fun _ => rfl,
        delivered.sound, ?_⟩
      intro _ isOpen
      cases isOpen
  | ended broken idle =>
      rw [List.append_nil]
      refine ⟨rfl, ?_, ?_, fun _ => broken, ?_, ?_⟩
      · intro answer replying
        cases replying
      · intro opening
        cases opening
      · intro _
        apply delivered.sound
        rw [idle]
        intro opening
        cases opening
      · intro _ isOpen
        exact absurd isOpen (by simp [broken])

/-- Every connection of a state is in step with the history. -/
def All (past : List Event) (server : MonitorServer) : Prop :=
  ∀ (place : ℕ) (connection : Connection),
    server.connections[place]? = some connection → Delivered past place connection

/-- No connection in `wsConnections` is gone. -/
theorem not_any_dangling (all : All past server) :
    server.connections.any Connection.dangling = false := by
  rw [List.any_eq_false]
  intro old member
  obtain ⟨place, isOld⟩ := List.mem_iff_getElem?.mp member
  simp [(all place old isOld).not_dangling]

/-- Every step keeps what a page has received in step with what is broadcast. -/
theorem connectionStep
    (all : All past server)
    (steps : ConnectionStep transports server later index server.connections[index]?
      connection emitted) :
    Delivered (past ++ emitted) index connection := by
  have undangled := not_any_dangling all
  generalize isBefore : server.connections[index]? = before at steps
  have delivered : ∀ old, before = some old → Delivered past index old :=
    fun old isOld => all index old (isBefore.trans isOld)
  cases steps with
  | opened page => exact .new page
  | moved moves => exact (delivered _ rfl).moved moves
  | beside different moves =>
      exact (delivered _ rfl).silently (silent_of_moved different moves)
  | delivered isBroadcast emits =>
      rw [emits, undangled]
      exact (delivered _ rfl).deliver isBroadcast
  | aside emits =>
      apply (delivered _ rfl).silently
      rcases emits with rfl | ⟨entry, rfl⟩
      · intro event member
        cases member
      · intro event member
        obtain rfl := List.mem_singleton.mp member
        exact ⟨rfl, rfl, rfl⟩

end Delivered

/-! ## Messages -/

/-- A message that a transport has handed over. -/
def Event.handled? : Event → Option (Entry Json)
  | .handled entry => some entry
  | .registered _ | .listed _ | .subscriptionSet _ _ _ | .recordingSet _ _
  | .broadcast _ | .received _ _ | .fault => none

/-- A message that is broadcast. -/
def Event.message? : Event → Option (Entry Json)
  | .broadcast (.message entry) => some entry
  | .broadcast _ | .registered _ | .listed _ | .subscriptionSet _ _ _
  | .recordingSet _ _ | .handled _ | .received _ _ | .fault => none

/-- The messages that were handed over are those that were broadcast and those that
are about to be, and nothing was sent over a connection that is gone. -/
structure Accounted (past : List Event) (server : MonitorServer) : Prop where
  perm : (past.filterMap Event.handled?).Perm
    (past.filterMap Event.message? ++ server.inFlight)
  safe : Event.fault ∉ past

namespace Accounted

variable {past : List Event}

/-- Events that hand over nothing and broadcast no message. -/
theorem quietly
    (accounted : Accounted past server)
    (sameInFlight : later.inFlight = server.inFlight)
    (quiet : ∀ event ∈ emitted,
      event.handled? = none ∧ event.message? = none ∧ event ≠ .fault) :
    Accounted (past ++ emitted) later where
  perm := by
    rw [List.filterMap_append, List.filterMap_append, sameInFlight,
      List.filterMap_eq_nil_iff.mpr fun event member => (quiet event member).1,
      List.filterMap_eq_nil_iff.mpr fun event member => (quiet event member).2.1,
      List.append_nil, List.append_nil]
    exact accounted.perm
  safe := by
    intro member
    rcases List.mem_append.mp member with old | new
    · exact accounted.safe old
    · exact (quiet _ new).2.2 rfl

end Accounted

/-- A move of a connection hands over nothing and broadcasts no message. -/
theorem quiet_of_moved
    {index : ℕ}
    {connection changed : Connection}
    {moved : MonitorServer}
    (moves : Moved transports server index connection moved changed emitted) :
    moved.inFlight = server.inFlight ∧
      ∀ event ∈ emitted,
        event.handled? = none ∧ event.message? = none ∧ event ≠ .fault := by
  cases moves with
  | registered _ | switched _ _ _ | unknown _ _ _ | recorded _ _ _ | received _ _ =>
      exact ⟨rfl, by simp [Event.handled?, Event.message?]⟩
  | asked _ | listed _ | answered _ | ignored _ _ | clicked _ | disconnected
  | ended _ _ => exact ⟨rfl, List.forall_mem_nil _⟩

namespace Accounted

variable {past : List Event}

/-- Something is broadcast, and the message that it carries was about to be. -/
theorem broadcastWs
    {sender : MonitorServer}
    {notification : Notification Json}
    (safe : Event.fault ∉ past)
    (undangled : sender.connections.any Connection.dangling = false)
    (perm : (past.filterMap Event.handled?).Perm
      (past.filterMap Event.message? ++
        (Event.message? (.broadcast notification)).toList ++ sender.inFlight)) :
    Accounted (past ++ (sender.broadcastWs notification).2)
      (sender.broadcastWs notification).1 := by
  have emits : (sender.broadcastWs notification).2 = [.broadcast notification] := by
    simp [MonitorServer.broadcastWs, undangled]
  rw [emits]
  have handsOver : [Event.broadcast notification].filterMap Event.handled? = [] := rfl
  constructor
  · rw [List.filterMap_append, List.filterMap_append, handsOver, List.append_nil]
    cases carried : Event.message? (.broadcast notification) with
    | none =>
        rw [carried] at perm
        simpa [carried, MonitorServer.broadcastWs] using perm
    | some entry =>
        rw [carried] at perm
        simpa [carried, MonitorServer.broadcastWs] using perm
  · simpa using safe

/-- Every step accounts for the messages. -/
theorem step
    (accounted : Accounted past server)
    (undangled : server.connections.any Connection.dangling = false)
    {action : Action}
    (stepped : MonitorServer.step crow transports server action = .ok (later, emitted)) :
    Accounted (past ++ emitted) later := by
  cases action with
  | load =>
      simp only [MonitorServer.step, Except.ok.injEq, Prod.mk.injEq] at stepped
      obtain ⟨rfl, rfl⟩ := stepped
      exact accounted.quietly rfl (by simp)
  | reconnect place =>
      simp only [MonitorServer.step] at stepped
      split at stepped
      · rw [guarded_eq_ok] at stepped
        obtain ⟨_, rfl, rfl⟩ := stepped
        exact accounted.quietly rfl (by simp)
      · cases stepped
  | move place move =>
      simp only [MonitorServer.step] at stepped
      split at stepped
      · cases stepped
      · split at stepped
        · cases stepped
        · next moved changed news moves =>
          simp only [Except.ok.injEq, Prod.mk.injEq] at stepped
          obtain ⟨rfl, rfl⟩ := stepped
          obtain ⟨sameInFlight, quiet⟩ := quiet_of_moved (moved_of_ok moves)
          exact accounted.quietly sameInFlight quiet
  | transportMessage topic jsonData now =>
      simp only [MonitorServer.step] at stepped
      split at stepped
      · next data _ _ _ _ =>
        simp only [Except.ok.injEq, Prod.mk.injEq] at stepped
        obtain ⟨rfl, rfl⟩ := stepped
        have handsOver : [Event.handled ⟨topic, timestamp now, data⟩].filterMap
            Event.handled? = [⟨topic, timestamp now, data⟩] := rfl
        have broadcasts : [Event.handled ⟨topic, timestamp now, data⟩].filterMap
            Event.message? = [] := rfl
        constructor
        · rw [List.filterMap_append, List.filterMap_append, handsOver, broadcasts,
            List.append_nil, ← List.append_assoc]
          exact accounted.perm.append_right _
        · simpa using accounted.safe
      · simp only [Except.ok.injEq, Prod.mk.injEq] at stepped
        obtain ⟨rfl, rfl⟩ := stepped
        exact accounted.quietly rfl (by simp)
  | broadcastMessage place =>
      simp only [MonitorServer.step] at stepped
      split at stepped
      · next entry isEntry =>
        simp only [Except.ok.injEq, Prod.ext_iff] at stepped
        obtain ⟨rfl, rfl⟩ := stepped
        obtain ⟨inRange, rfl⟩ := List.getElem?_eq_some_iff.mp isEntry
        apply Accounted.broadcastWs accounted.safe
        · exact undangled
        · apply accounted.perm.trans
          rw [List.append_assoc]
          exact (List.getElem_cons_eraseIdx_perm inRange).symm.append_left _
      · cases stepped
  | broadcastPlayback notification =>
      cases notification with
      | recordingLoaded _ | playbackStarted _ | playbackProgress _ _
      | playbackFinished | playbackStopped =>
          simp only [MonitorServer.step, Except.ok.injEq, Prod.ext_iff] at stepped
          obtain ⟨rfl, rfl⟩ := stepped
          apply Accounted.broadcastWs accounted.safe undangled
          simpa [Event.message?] using accounted.perm
      | message _ | topics _ | recordingStarted | recordingStopped _ =>
          cases stepped

end Accounted

/-- A run delivers what is broadcast and accounts for the messages. -/
theorem delivered_of_run
    {files : ByteString → Option ByteString}
    {actions : List Action}
    {history : List Event}
    (ran : run (step crow transports) (start files) actions = .ok (server, history)) :
    Delivered.All history server ∧ Accounted history server := by
  have stepKeeps : ∀ past server action later emitted,
      Delivered.All past server ∧ Accounted past server →
      step crow transports server action = .ok (later, emitted) →
      Delivered.All (past ++ emitted) later ∧ Accounted (past ++ emitted) later := by
    rintro past server action later emitted ⟨all, accounted⟩ stepped
    constructor
    · intro place connection isConnection
      exact Delivered.connectionStep all (connectionStep_of_step stepped isConnection)
    · exact accounted.step (Delivered.not_any_dangling all) stepped
  have started : Delivered.All [] (start files) ∧ Accounted [] (start files) :=
    ⟨nofun, .nil, by simp⟩
  exact Run.history_of_run stepKeeps started ran

/-- Every message that is handed over is broadcast once, and nothing is sent over a
connection that is gone.  From the moment its connection is registered, a page
receives in order what is broadcast, all of it as long as the connection is open. -/
theorem broadcasts_received
    {files : ByteString → Option ByteString}
    {actions : List Action}
    {history : List Event}
    (ran : run (step crow transports) (start files) actions = .ok (server, history)) :
    (history.filterMap Event.handled?).Perm
        (history.filterMap Event.message? ++ server.inFlight) ∧
      Event.fault ∉ history ∧
      ∀ (index : ℕ) (connection : Connection),
        server.connections[index]? = some connection → connection.stage ≠ .opening →
          broadcastsSince index history <:+ history.filterMap Event.broadcast? ∧
            receivedSince index history <+: broadcastsSince index history ∧
            (connection.isOpen = true →
              receivedSince index history ++
                  connection.outbox.filter Notification.isBroadcast =
                broadcastsSince index history) := by
  obtain ⟨all, accounted⟩ := delivered_of_run ran
  refine ⟨accounted.perm, accounted.safe, ?_⟩
  intro index connection isConnection opened
  have delivered := all index connection isConnection
  refine ⟨?_, delivered.sound opened, delivered.complete opened⟩
  exact (History.since_suffix history).filterMap Event.broadcast?

/-- A page connects, a message is broadcast to it, and the page receives it after the
topic list. -/
theorem broadcasts_received_session :
    let crow : Crow := {
      load := fun text => if text = Text.ascii "null" then some .null else none
      dump := fun _ => Text.ascii "null"
      lexicalCast := fun _ => none }
    let actions : List Action := [.load, .move 0 (.proceed 0), .move 0 (.proceed 0),
      .transportMessage [1] (Text.ascii "null") 0, .broadcastMessage 0,
      .move 0 .receive, .move 0 .receive]
    ∃ server history, run (step crow []) (start fun _ => none) actions =
        .ok (server, history) ∧
      receivedSince 0 history = [.message ⟨[1], timestamp 0, .null⟩] ∧
      receivedSince 0 history <+: broadcastsSince 0 history := by
  intro crow actions
  refine ⟨_, _, rfl, rfl, ?_⟩
  have ran : run (step crow []) (start fun _ => none) actions = .ok (_, _) := rfl
  obtain ⟨_, _, each⟩ := broadcasts_received ran
  obtain ⟨_, received, _⟩ := each 0 _ rfl nofun
  exact received

end MonitorServer
end Omniscope
end StarterCpp
