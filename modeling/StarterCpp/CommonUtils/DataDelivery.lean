import Mathlib.Algebra.Group.Nat.Defs
import Mathlib.Data.List.Pairwise
import Mathlib.Data.List.Nodup
import StarterCpp.CommonUtils.DataHandler
import StarterCpp.Library.History

/-!
# Delivery by the data handler

Seen from outside, the handler is a mailbox: a queue, at most one datum that is
popped and not yet notified, and the registered listeners.  The threads of the
handler refine it, and the histories of the mailbox account for every datum and
for every listener.
-/

namespace StarterCpp
namespace CommonUtils
namespace DataHandler

variable {Listener Data : Type*}

/-! ## What a history tells -/

/-- The datum that a call of `signalData` carries. -/
def Output.signalledData : Output Listener Data → Option Data
  | .signalled data => some data
  | .registered _ _ | .refused _ | .unregistered _ | .notified _
  | .invoked _ _ _ | .reported _ => none

/-- The datum that a notify step is about. -/
def Output.notifiedData : Output Listener Data → Option Data
  | .notified data => some data
  | .signalled _ | .registered _ _ | .refused _ | .unregistered _
  | .invoked _ _ _ | .reported _ => none

/-- The id that a registration returns. -/
def Output.registeredId : Output Listener Data → Option Int32
  | .registered id _ => some id
  | .signalled _ | .refused _ | .unregistered _ | .notified _
  | .invoked _ _ _ | .reported _ => none

/-- The listener called under an id, with the datum it is called with. -/
def Output.receivedUnder
    (id : Int32) : Output Listener Data → Option (Listener × Data)
  | .invoked called listener data =>
      if called = id then some (listener, data) else none
  | .signalled _ | .registered _ _ | .refused _ | .unregistered _
  | .notified _ | .reported _ => none

/-- Whether an output is the return of `unregisterListener` of an id. -/
def Output.unregisters (id : Int32) : Output Listener Data → Bool
  | .unregistered erased => erased == id
  | .signalled _ | .registered _ _ | .refused _ | .notified _
  | .invoked _ _ _ | .reported _ => false

def signalled (history : List (Output Listener Data)) : List Data :=
  history.filterMap Output.signalledData

def notified (history : List (Output Listener Data)) : List Data :=
  history.filterMap Output.notifiedData

def registeredIds (history : List (Output Listener Data)) : List Int32 :=
  history.filterMap Output.registeredId

/-- The calls made under an id. -/
def received
    (id : Int32)
    (history : List (Output Listener Data)) : List (Listener × Data) :=
  history.filterMap (Output.receivedUnder id)

@[simp] theorem signalled_append (past emitted : List (Output Listener Data)) :
    signalled (past ++ emitted) = signalled past ++ signalled emitted :=
  List.filterMap_append

@[simp] theorem notified_append (past emitted : List (Output Listener Data)) :
    notified (past ++ emitted) = notified past ++ notified emitted :=
  List.filterMap_append

@[simp] theorem registeredIds_append
    (past emitted : List (Output Listener Data)) :
    registeredIds (past ++ emitted) =
      registeredIds past ++ registeredIds emitted :=
  List.filterMap_append

@[simp] theorem received_append
    (id : Int32)
    (past emitted : List (Output Listener Data)) :
    received id (past ++ emitted) = received id past ++ received id emitted :=
  List.filterMap_append

/-- A listener has heard nothing before its registration, every datum notified
up to its unregistration, and nothing after it. -/
structure HeardExactly
    (id : Int32)
    (listener : Listener)
    (before during : List (Output Listener Data)) : Prop where
  nothingBefore : received id before = []
  everythingBetween :
    received id (History.window (Output.unregisters id) during) =
      (notified (History.window (Output.unregisters id) during)).map
        (Prod.mk listener)
  nothingAfter :
    received id (History.afterWindow (Output.unregisters id) during) = []

/-- The account of a listener carries over to a longer history. -/
theorem HeardExactly.append
    {id : Int32}
    {listener : Listener}
    {before during emitted : List (Output Listener Data)}
    (heard : HeardExactly id listener before during)
    (whileListening : during.any (Output.unregisters id) = false →
      HeardExactly id listener [] emitted)
    (afterwards : during.any (Output.unregisters id) = true →
      received id emitted = []) :
    HeardExactly id listener before (during ++ emitted) := by
  obtain ⟨nothingBefore, everythingBetween, nothingAfter⟩ := heard
  cases listens : during.any (Output.unregisters id) with
  | false =>
      rw [History.window_of_open listens] at everythingBetween
      obtain ⟨_, between, after⟩ := whileListening listens
      refine ⟨nothingBefore, ?_, ?_⟩
      · rw [History.window_append_of_open listens, received_append,
          notified_append, List.map_append, everythingBetween, between]
      · rw [History.afterWindow_append_of_open listens, after]
  | true =>
      refine ⟨nothingBefore, ?_, ?_⟩
      · rw [History.window_append_of_closed listens, everythingBetween]
      · rw [History.afterWindow_append_of_closed listens, received_append,
          nothingAfter, afterwards listens, List.nil_append]

/-! ## The mailbox -/

/-- The handler without its threads. -/
structure Mailbox (Listener Data : Type*) where
  listeners : List (Int32 × Listener)
  nextListenerId : Int32
  /-- The datum popped and not yet notified. -/
  inFlight : Option Data
  dataQueue : List Data

/-- The mailbox of a handler. -/
def mailbox (handler : DataHandler Listener Data) : Mailbox Listener Data where
  listeners := handler.listeners
  nextListenerId := handler.nextListenerId
  inFlight := handler.worker.inFlight
  dataQueue := handler.dataQueue

namespace Mailbox

/-- The atomic steps of a mailbox. -/
inductive Step :
    Mailbox Listener Data → List (Output Listener Data) →
      Mailbox Listener Data → Prop
  | internal (mailbox : Mailbox Listener Data) : Step mailbox [] mailbox
  | signalled (mailbox : Mailbox Listener Data) (data : Data) :
      Step mailbox [.signalled data]
        { mailbox with dataQueue := mailbox.dataQueue ++ [data] }
  | registered (mailbox : Mailbox Listener Data) (listener : Listener) :
      Step mailbox [.registered (mailbox.nextListenerId + 1) listener]
        { mailbox with
          nextListenerId := mailbox.nextListenerId + 1
          listeners := assign (mailbox.nextListenerId + 1) listener
            mailbox.listeners }
  | unregistered (mailbox : Mailbox Listener Data) (id : Int32) :
      Step mailbox [.unregistered id]
        { mailbox with
          listeners := mailbox.listeners.filter fun entry => entry.1 ≠ id }
  | popped (mailbox : Mailbox Listener Data) (data : Data) (rest : List Data)
      (idle : mailbox.inFlight = none)
      (queued : mailbox.dataQueue = data :: rest) :
      Step mailbox [] { mailbox with inFlight := some data, dataQueue := rest }
  | notified (mailbox : Mailbox Listener Data) (data : Data)
      (outcomeOf : Int32 → Outcome)
      (holding : mailbox.inFlight = some data) :
      Step mailbox
        (.notified data :: notifyListeners outcomeOf data mailbox.listeners)
        { mailbox with inFlight := none }

end Mailbox

/-- The stop flag stays down until the destructor starts. -/
def Calm (handler : DataHandler Listener Data) : Prop :=
  handler.destructor = .notStarted → handler.stopFlag = false

/-- What the refinement says of one step. -/
structure Refines
    (handler : DataHandler Listener Data)
    (emitted : List (Output Listener Data))
    (next : DataHandler Listener Data) : Prop where
  calm : next.Calm
  alive : next.destructor ≠ .destroyed → handler.destructor ≠ .destroyed
  mailbox : next.destructor ≠ .destroyed →
    Mailbox.Step handler.mailbox emitted next.mailbox

section Refinement

variable {handler next : DataHandler Listener Data}
variable {emitted : List (Output Listener Data)}

theorem signalData_refines
    (calm : handler.Calm)
    {data : Data}
    (stepped : handler.signalData data = .ok (next, emitted)) :
    Refines handler emitted next := by
  unfold signalData at stepped
  split_ifs at stepped with notCallable stopped
  · rw [not_or, not_not] at notCallable
    exact absurd (calm notCallable.1) (by simp [stopped])
  · obtain ⟨rfl, rfl⟩ := Prod.mk.inj (Except.ok.inj stepped)
    refine ⟨calm, id, fun _ => ?_⟩
    have step := Mailbox.Step.signalled handler.mailbox data
    simpa [mailbox] using step

theorem registerListener_refines
    (calm : handler.Calm)
    {listener : Listener}
    (stepped : handler.registerListener listener = .ok (next, emitted)) :
    Refines handler emitted next := by
  unfold registerListener at stepped
  split_ifs at stepped with notCallable stopped
  · rw [not_not] at notCallable
    exact absurd (calm notCallable) (by simp [stopped])
  · obtain ⟨rfl, rfl⟩ := Prod.mk.inj (Except.ok.inj stepped)
    exact ⟨calm, id, fun _ => .registered handler.mailbox listener⟩

theorem unregisterListener_refines
    (calm : handler.Calm)
    {id : Int32}
    (stepped : handler.unregisterListener id = .ok (next, emitted)) :
    Refines handler emitted next := by
  unfold unregisterListener at stepped
  split_ifs at stepped with notCallable stopped
  · rw [not_not] at notCallable
    exact absurd (calm notCallable) (by simp [stopped])
  · obtain ⟨rfl, rfl⟩ := Prod.mk.inj (Except.ok.inj stepped)
    exact ⟨calm, fun alive => alive, fun _ => .unregistered handler.mailbox id⟩

theorem processData_refines
    (calm : handler.Calm)
    {outcomeOf : Int32 → Outcome}
    (stepped : handler.processData outcomeOf = .ok (next, emitted)) :
    Refines handler emitted next := by
  have moved : ∀ worker, worker.inFlight = handler.worker.inFlight →
      Refines handler [] { handler with worker := worker } := by
    intro worker same
    refine ⟨calm, id, fun _ => ?_⟩
    have step := Mailbox.Step.internal handler.mailbox
    simpa [mailbox, same] using step
  unfold processData at stepped
  cases position : handler.worker with
  | loopTest | acquiring =>
      simp only [position, Except.ok.injEq, Prod.mk.injEq] at stepped
      obtain ⟨rfl, rfl⟩ := stepped
      apply moved
      rw [position]
      first | rfl | (split_ifs <;> rfl)
  | waiting wait =>
      simp only [position] at stepped
      split at stepped
      · simp at stepped
      all_goals
        simp only [Except.ok.injEq, Prod.mk.injEq] at stepped
        obtain ⟨rfl, rfl⟩ := stepped
        apply moved
        rw [position]
        rfl
  | popping =>
      simp only [position] at stepped
      split_ifs at stepped with ended
      · simp only [Except.ok.injEq, Prod.mk.injEq] at stepped
        obtain ⟨rfl, rfl⟩ := stepped
        apply moved
        rw [position]
        rfl
      · split at stepped
        · simp at stepped
        · next data rest queued =>
            simp only [Except.ok.injEq, Prod.mk.injEq] at stepped
            obtain ⟨rfl, rfl⟩ := stepped
            refine ⟨calm, id, fun _ => ?_⟩
            apply Mailbox.Step.popped handler.mailbox data rest
            · simp [mailbox, position, Worker.inFlight]
            · exact queued
  | notifying data =>
      simp only [position, Except.ok.injEq, Prod.mk.injEq] at stepped
      obtain ⟨rfl, rfl⟩ := stepped
      refine ⟨calm, id, fun _ => ?_⟩
      apply Mailbox.Step.notified handler.mailbox data outcomeOf
      simp [mailbox, position, Worker.inFlight]
  | finished => simp [position] at stepped

theorem wake_refines
    (calm : handler.Calm)
    (stepped : handler.wake = .ok (next, emitted)) :
    Refines handler emitted next := by
  unfold wake at stepped
  split at stepped
  · next position =>
      obtain ⟨rfl, rfl⟩ := Prod.mk.inj (Except.ok.inj stepped)
      refine ⟨calm, id, fun _ => ?_⟩
      have step := Mailbox.Step.internal handler.mailbox
      simpa [mailbox, position, Worker.inFlight] using step
  all_goals simp at stepped

theorem destroy_refines
    (stepped : handler.destroy = .ok (next, emitted)) :
    Refines handler emitted next := by
  unfold destroy at stepped
  cases position : handler.destructor with
  | notStarted | notifying =>
      simp only [position, Except.ok.injEq, Prod.mk.injEq] at stepped
      obtain ⟨rfl, rfl⟩ := stepped
      refine ⟨by simp [Calm], by simp [position], fun _ => ?_⟩
      have step := Mailbox.Step.internal handler.mailbox
      simpa [mailbox] using step
  | joining =>
      simp only [position] at stepped
      split at stepped
      · obtain ⟨rfl, rfl⟩ := Prod.mk.inj (Except.ok.inj stepped)
        exact ⟨by simp [Calm], by simp [position],
          fun _ => .internal handler.mailbox⟩
      all_goals simp at stepped
  | clearing =>
      simp only [position, Except.ok.injEq, Prod.mk.injEq] at stepped
      obtain ⟨rfl, rfl⟩ := stepped
      exact ⟨by simp [Calm], by simp [position], by simp⟩
  | destroyed => simp [position] at stepped

/-- Every step of the threads is a step of the mailbox, until the destructor
clears it. -/
theorem step_refines
    (calm : handler.Calm)
    {action : Action Listener Data}
    (stepped : handler.step action = .ok (next, emitted)) :
    Refines handler emitted next := by
  cases action with
  | signalData data => exact signalData_refines calm stepped
  | registerListener listener => exact registerListener_refines calm stepped
  | unregisterListener id => exact unregisterListener_refines calm stepped
  | processData outcomeOf => exact processData_refines calm stepped
  | wake => exact wake_refines calm stepped
  | destroy => exact destroy_refines stepped

end Refinement

/-! ## Ids -/

/-- The id that the given number of registrations has reached. -/
def listenerId (registrations : ℕ) : Int32 :=
  Int32.ofInt (123 + registrations)

theorem listenerId_succ (registrations : ℕ) :
    listenerId registrations + 1 = listenerId (registrations + 1) := by
  unfold listenerId
  rw [show (1 : Int32) = Int32.ofInt 1 from rfl, ← Int32.ofInt_add]
  congr 1

theorem toInt_listenerId
    {registrations : ℕ}
    (few : registrations ≤ 2 ^ 31 - 124) :
    (listenerId registrations).toInt = 123 + registrations := by
  apply Int32.toInt_ofInt_of_le
  · omega
  · omega

/-- Before the ids run out, no two are the same. -/
theorem listenerId_injective
    {first second : ℕ}
    (fewFirst : first ≤ 2 ^ 31 - 124)
    (fewSecond : second ≤ 2 ^ 31 - 124)
    (same : listenerId first = listenerId second) :
    first = second := by
  have sameInt := congrArg Int32.toInt same
  rw [toInt_listenerId fewFirst, toInt_listenerId fewSecond] at sameInt
  omega

/-! ## The listener map -/

/-- The entries of a listener map under an id. -/
def entriesOf
    (id : Int32)
    (listeners : List (Int32 × Listener)) : List (Int32 × Listener) :=
  listeners.filter fun entry => entry.1 = id

theorem entriesOf_assign_of_ne
    {id other : Int32}
    (different : other ≠ id)
    (listener : Listener)
    (listeners : List (Int32 × Listener)) :
    entriesOf id (assign other listener listeners) = entriesOf id listeners := by
  induction listeners with
  | nil => simp [assign, entriesOf, different]
  | cons entry listeners inductionHypothesis =>
      rw [assign]
      split_ifs with below same
      · simp [entriesOf, different]
      · simp [entriesOf, different, ← same]
      · unfold entriesOf at inductionHypothesis ⊢
        rw [List.filter_cons, inductionHypothesis, List.filter_cons]

theorem entriesOf_assign_self
    {id : Int32}
    {listeners : List (Int32 × Listener)}
    (absent : entriesOf id listeners = [])
    (listener : Listener) :
    entriesOf id (assign id listener listeners) = [(id, listener)] := by
  induction listeners with
  | nil => simp [assign, entriesOf]
  | cons entry listeners inductionHypothesis =>
      have other : entry.1 ≠ id := by
        intro same
        simp [entriesOf, same] at absent
      have absentLater : entriesOf id listeners = [] := by
        simpa [entriesOf, other] using absent
      rw [assign]
      split_ifs with below same
      · have head : entriesOf id ((id, listener) :: entry :: listeners) =
            (id, listener) :: entriesOf id (entry :: listeners) := by
          simp [entriesOf]
        rw [head, absent]
      · exact absurd same.symm other
      · have tail : entriesOf id (entry :: assign id listener listeners) =
            entriesOf id (assign id listener listeners) := by
          simp [entriesOf, other]
        rw [tail, inductionHypothesis absentLater]

theorem entriesOf_filter
    (id erased : Int32)
    (listeners : List (Int32 × Listener)) :
    entriesOf id (listeners.filter fun entry => entry.1 ≠ erased) =
      if erased = id then [] else entriesOf id listeners := by
  unfold entriesOf
  rw [List.filter_filter]
  split_ifs with same
  · subst same
    simp
  · apply List.filter_congr
    intro entry _
    by_cases own : entry.1 = id
    · simp [own, Ne.symm same]
    · simp [own]

/-! ## One notify step -/

section Notify

variable (outcomeOf : Int32 → Outcome) (data : Data)
variable (listeners : List (Int32 × Listener))

/-- What is read off a notify step without its error reports is read off the
calls, one for each listener, whatever they throw. -/
theorem filterMap_notifyListeners
    {Reading : Type*}
    {reading : Output Listener Data → Option Reading}
    (ignoresReports : ∀ text, reading (.reported text) = none) :
    (notifyListeners outcomeOf data listeners).filterMap reading =
      listeners.filterMap fun entry =>
        reading (.invoked entry.1 entry.2 data) := by
  induction listeners with
  | nil => rfl
  | cons entry listeners inductionHypothesis =>
      have quiet : ((outcomeOf entry.1).report.map
          Output.reported).toList.filterMap reading = [] := by
        cases (outcomeOf entry.1).report with
        | none => rfl
        | some text => simp [ignoresReports]
      rw [notifyListeners, List.filterMap_append, List.filterMap_cons,
        List.filterMap_cons, quiet, inductionHypothesis]
      cases reading (.invoked entry.1 entry.2 data) <;> rfl

@[simp] theorem signalled_notifyListeners :
    signalled (notifyListeners outcomeOf data listeners) = [] := by
  unfold signalled
  rw [filterMap_notifyListeners _ _ _ fun _ => rfl]
  simp [Output.signalledData]

@[simp] theorem notified_notifyListeners :
    notified (notifyListeners outcomeOf data listeners) = [] := by
  unfold notified
  rw [filterMap_notifyListeners _ _ _ fun _ => rfl]
  simp [Output.notifiedData]

@[simp] theorem registeredIds_notifyListeners :
    registeredIds (notifyListeners outcomeOf data listeners) = [] := by
  unfold registeredIds
  rw [filterMap_notifyListeners _ _ _ fun _ => rfl]
  simp [Output.registeredId]

theorem received_notifyListeners (id : Int32) :
    received id (notifyListeners outcomeOf data listeners) =
      (entriesOf id listeners).map fun entry => (entry.2, data) := by
  unfold received entriesOf
  rw [filterMap_notifyListeners _ _ _ fun _ => rfl, ← List.filterMap_eq_map,
    List.filterMap_filter]
  congr 1
  funext entry
  by_cases own : entry.1 = id <;> simp [Output.receivedUnder, own]

@[simp] theorem notified_notifyStep :
    notified (.notified data :: notifyListeners outcomeOf data listeners) =
      [data] := by
  have later := notified_notifyListeners outcomeOf data listeners
  unfold notified at later ⊢
  rw [List.filterMap_cons, later]
  rfl

@[simp] theorem signalled_notifyStep :
    signalled (.notified data :: notifyListeners outcomeOf data listeners) =
      [] :=
  signalled_notifyListeners outcomeOf data listeners

@[simp] theorem registeredIds_notifyStep :
    registeredIds (.notified data :: notifyListeners outcomeOf data listeners) =
      [] :=
  registeredIds_notifyListeners outcomeOf data listeners

/-- Under an id, a notify step makes one call for each entry. -/
@[simp] theorem received_notifyStep (id : Int32) :
    received id (.notified data :: notifyListeners outcomeOf data listeners) =
      (entriesOf id listeners).map fun entry => (entry.2, data) :=
  received_notifyListeners outcomeOf data listeners id

theorem any_unregisters_notifyListeners (id : Int32) :
    (notifyListeners outcomeOf data listeners).any (Output.unregisters id) =
      false := by
  induction listeners with
  | nil => rfl
  | cons entry listeners inductionHypothesis =>
      rw [notifyListeners, List.any_append, inductionHypothesis, Bool.or_false,
        List.any_cons]
      cases (outcomeOf entry.1).report <;> rfl

end Notify

/-! ## One step of the mailbox -/

section MailboxStep

variable {mailbox next : Mailbox Listener Data}
variable {emitted : List (Output Listener Data)}

/-- A datum leaves the queue only into the worker's hands, and these only by its
notify step. -/
theorem queue_of_step
    (step : Mailbox.Step mailbox emitted next)
    {past : List (Output Listener Data)}
    (accounted : notified past ++ mailbox.inFlight.toList ++ mailbox.dataQueue =
      signalled past) :
    notified (past ++ emitted) ++ next.inFlight.toList ++ next.dataQueue =
      signalled (past ++ emitted) := by
  rw [signalled_append, ← accounted, notified_append]
  cases step with
  | internal => simp [notified, signalled]
  | signalled data =>
      simp [notified, signalled, Output.notifiedData, Output.signalledData]
  | registered listener =>
      simp [notified, signalled, Output.notifiedData, Output.signalledData,
        List.filterMap_cons]
  | unregistered id =>
      simp [notified, signalled, Output.notifiedData, Output.signalledData,
        List.filterMap_cons]
  | popped data rest idle queued =>
      simp [notified, signalled, idle, queued]
  | notified data outcomeOf holding => simp [holding]

/-- A listener in the map hears exactly what a step notifies, up to its
unregistration. -/
theorem heard_of_step
    (step : Mailbox.Step mailbox emitted next)
    {id : Int32}
    {listener : Listener}
    (listening : entriesOf id mailbox.listeners = [(id, listener)]) :
    HeardExactly id listener [] emitted := by
  cases step with
  | internal | signalled _ | registered _ | popped _ _ _ _ => exact ⟨rfl, rfl, rfl⟩
  | unregistered erased =>
      cases closes : (Output.unregistered erased :
          Output Listener Data).unregisters id with
      | false =>
          refine ⟨rfl, ?_, ?_⟩
          · simp only [History.window, List.takeWhile, closes]
            rfl
          · simp only [History.afterWindow, List.dropWhile, closes]
            rfl
      | true =>
          refine ⟨rfl, ?_, ?_⟩
          · simp only [History.window, List.takeWhile, closes]
            rfl
          · simp only [History.afterWindow, List.dropWhile, closes]
            rfl
  | notified data outcomeOf holding =>
      have stillOpen : List.any (.notified data ::
          notifyListeners outcomeOf data mailbox.listeners)
          (Output.unregisters id) = false := by
        rw [List.any_cons, any_unregisters_notifyListeners]
        rfl
      refine ⟨rfl, ?_, ?_⟩
      · rw [History.window_of_open stillOpen]
        simp [listening]
      · rw [History.afterWindow_of_open stillOpen]
        rfl

/-- Without an entry in the map, nothing is called under an id. -/
theorem received_of_step
    (step : Mailbox.Step mailbox emitted next)
    {id : Int32}
    (absent : entriesOf id mailbox.listeners = []) :
    received id emitted = [] := by
  cases step with
  | internal | signalled _ | registered _ | unregistered _ | popped _ _ _ _ => rfl
  | notified data outcomeOf holding =>
      simp [absent]

/-- A step registers nothing, or one listener under the next id. -/
theorem registration_of_step (step : Mailbox.Step mailbox emitted next) :
    (registeredIds emitted = [] ∧
        next.nextListenerId = mailbox.nextListenerId) ∨
      ∃ listener, emitted = [.registered (mailbox.nextListenerId + 1) listener] ∧
        next.nextListenerId = mailbox.nextListenerId + 1 ∧
        next.listeners = assign (mailbox.nextListenerId + 1) listener
          mailbox.listeners := by
  cases step with
  | internal | signalled _ | unregistered _ | popped _ _ _ _ =>
      exact .inl ⟨rfl, rfl⟩
  | registered listener => exact .inr ⟨listener, rfl, rfl, rfl⟩
  | notified data outcomeOf holding => exact .inl ⟨by simp, rfl⟩

/-- What a step makes of the entries under an id. -/
theorem entriesOf_of_step
    (step : Mailbox.Step mailbox emitted next)
    {id : Int32}
    (notRegistered : id ∉ registeredIds emitted) :
    entriesOf id next.listeners =
      if emitted.any (Output.unregisters id) then []
      else entriesOf id mailbox.listeners := by
  cases step with
  | internal | signalled _ | popped _ _ _ _ => rfl
  | registered listener =>
      have different : mailbox.nextListenerId + 1 ≠ id := by
        intro same
        simp [registeredIds, Output.registeredId, same] at notRegistered
      exact entriesOf_assign_of_ne different listener mailbox.listeners
  | unregistered erased =>
      rw [entriesOf_filter]
      simp [Output.unregisters]
  | notified data outcomeOf holding =>
      simp [Output.unregisters, any_unregisters_notifyListeners]

end MailboxStep

/-! ## Every history -/

/-- What a history says of the mailbox it has led to. -/
structure Accounts
    (past : List (Output Listener Data))
    (mailbox : Mailbox Listener Data) : Prop where
  queue : notified past ++ mailbox.inFlight.toList ++ mailbox.dataQueue =
    signalled past
  nextId : mailbox.nextListenerId = listenerId (registeredIds past).length
  ids : registeredIds past =
    (List.range (registeredIds past).length).map fun earlier =>
      listenerId (earlier + 1)
  unknown : ∀ id, id ∉ registeredIds past →
    received id past = [] ∧ entriesOf id mailbox.listeners = []
  known : ∀ id listener before during,
    past = before ++ .registered id listener :: during →
      HeardExactly id listener before during ∧
        entriesOf id mailbox.listeners =
          if during.any (Output.unregisters id) then [] else [(id, listener)]

namespace Accounts

variable {past emitted : List (Output Listener Data)}
variable {mailbox next : Mailbox Listener Data}

theorem start :
    Accounts [] (DataHandler.start : DataHandler Listener Data).mailbox where
  queue := rfl
  nextId := rfl
  ids := rfl
  unknown := fun _ _ => ⟨rfl, rfl⟩
  known := by
    intro id listener before during split
    simp at split

/-- The id that the next registration returns is new. -/
theorem fresh
    (accounts : Accounts past mailbox)
    (few : (registeredIds past).length < 2 ^ 31 - 124) :
    mailbox.nextListenerId + 1 ∉ registeredIds past := by
  rw [accounts.nextId, listenerId_succ, accounts.ids, List.mem_map]
  rintro ⟨earlier, member, same⟩
  rw [List.length_map, List.length_range] at same
  have before := List.mem_range.mp member
  have equal := listenerId_injective (by omega) (by omega) same
  omega

/-- The ids that a step returns are new. -/
theorem fresh_of_step
    (accounts : Accounts past mailbox)
    (step : Mailbox.Step mailbox emitted next)
    (few : (registeredIds (past ++ emitted)).length < 2 ^ 31 - 124)
    {id : Int32}
    (registered : id ∈ registeredIds emitted) :
    id ∉ registeredIds past := by
  rcases registration_of_step step with ⟨none, _⟩ | ⟨listener, rfl, _, _⟩
  · rw [none] at registered
    exact absurd registered List.not_mem_nil
  · obtain rfl : id = mailbox.nextListenerId + 1 := by
      simpa [registeredIds, Output.registeredId] using registered
    rw [registeredIds_append, List.length_append] at few
    exact accounts.fresh (by omega)

theorem step
    (accounts : Accounts past mailbox)
    (step : Mailbox.Step mailbox emitted next)
    (few : (registeredIds (past ++ emitted)).length < 2 ^ 31 - 124) :
    Accounts (past ++ emitted) next where
  queue := queue_of_step step accounts.queue
  nextId := by
    rcases registration_of_step step with ⟨none, same⟩ | ⟨listener, rfl, same, _⟩
    · rw [registeredIds_append, none, List.append_nil, same, accounts.nextId]
    · rw [same, accounts.nextId, listenerId_succ, registeredIds_append,
        List.length_append]
      rfl
  ids := by
    rcases registration_of_step step with ⟨none, _⟩ | ⟨listener, rfl, _, _⟩
    · rw [registeredIds_append, none, List.append_nil]
      exact accounts.ids
    · have one : registeredIds [(.registered (mailbox.nextListenerId + 1) listener :
          Output Listener Data)] = [mailbox.nextListenerId + 1] := rfl
      rw [registeredIds_append, one, List.length_append, List.length_singleton,
        List.range_succ, List.map_append, ← accounts.ids, accounts.nextId,
        listenerId_succ]
      rfl
  unknown := by
    intro id notRegistered
    rw [registeredIds_append, List.mem_append, not_or] at notRegistered
    obtain ⟨quiet, absent⟩ := accounts.unknown id notRegistered.1
    constructor
    · rw [received_append, quiet, received_of_step step absent, List.nil_append]
    · rw [entriesOf_of_step step notRegistered.2, absent, ite_self]
  known := by
    intro id listener before during split
    rcases History.split_append split with
      ⟨old, rfl, rfl⟩ | ⟨new, rfl, rfl⟩
    · obtain ⟨heard, entries⟩ := accounts.known id listener before old rfl
      constructor
      · apply heard.append
        · intro listens
          rw [listens, if_neg Bool.false_ne_true] at entries
          exact heard_of_step step entries
        · intro erased
          rw [erased, if_pos rfl] at entries
          exact received_of_step step entries
      · have notAgain : id ∉ registeredIds emitted := by
          intro again
          apply accounts.fresh_of_step step few again
          simp [registeredIds, Output.registeredId]
        rw [entriesOf_of_step step notAgain, entries, List.any_append]
        cases old.any (Output.unregisters id) <;> simp
    · rcases registration_of_step step with ⟨none, _⟩ | ⟨newest, single, _, added⟩
      · simp [registeredIds, Output.registeredId] at none
      · obtain ⟨rfl, same⟩ := List.append_eq_singleton_iff.mp single |>.resolve_right
          (by simp)
        obtain ⟨newRegistration, rfl⟩ := List.cons.inj same
        obtain ⟨rfl, rfl⟩ : id = mailbox.nextListenerId + 1 ∧ listener = newest := by
          simpa using newRegistration
        have registered : mailbox.nextListenerId + 1 ∈
            registeredIds [(.registered (mailbox.nextListenerId + 1) listener :
              Output Listener Data)] := List.mem_singleton_self _
        have unseen := accounts.fresh_of_step step few registered
        obtain ⟨quiet, absent⟩ := accounts.unknown _ unseen
        refine ⟨⟨by simpa using quiet, rfl, rfl⟩, ?_⟩
        rw [added, entriesOf_assign_self absent]
        rfl

/-- The ids returned are all different. -/
theorem nodup
    (accounts : Accounts past mailbox)
    (few : (registeredIds past).length < 2 ^ 31 - 124) :
    (registeredIds past).Nodup := by
  rw [accounts.ids]
  apply List.Nodup.map_on _ List.nodup_range
  intro first firstMember second secondMember same
  have firstBound := List.mem_range.mp firstMember
  have secondBound := List.mem_range.mp secondMember
  have equal := listenerId_injective (by omega) (by omega) same
  omega

end Accounts

/-- The promises of the handler about a history and the state it leads to. -/
structure Delivers
    (history : List (Output Listener Data))
    (handler : DataHandler Listener Data) : Prop where
  /-- Notified, popped and queued data are the signalled data, in order. -/
  inOrder : notified history ++ handler.worker.inFlight.toList ++
    handler.dataQueue = signalled history
  /-- Under an id that was not returned nothing is called. -/
  onlyRegistered : ∀ id, id ∉ registeredIds history → received id history = []
  /-- A listener is called with the data notified while it is registered. -/
  exactlyOnce : ∀ id listener before during,
    history = before ++ .registered id listener :: during →
      HeardExactly id listener before during
  /-- No id is returned twice. -/
  uniqueIds : (registeredIds history).Nodup

/-- The account of the mailbox holds along every run of the threads. -/
theorem accounts_of_run
    {actions : List (Action Listener Data)}
    {final : DataHandler Listener Data}
    {history : List (Output Listener Data)}
    (ran : run step DataHandler.start actions = .ok (final, history))
    (alive : final.destructor ≠ .destroyed)
    (few : (registeredIds history).length < 2 ^ 31 - 124) :
    Accounts history final.mailbox := by
  let Holds : List (Output Listener Data) → DataHandler Listener Data → Prop :=
    fun past handler => handler.Calm ∧ (handler.destructor ≠ .destroyed →
      (registeredIds past).length < 2 ^ 31 - 124 →
        Accounts past handler.mailbox)
  have stepKeeps : ∀ past handler action next emitted, Holds past handler →
      step handler action = .ok (next, emitted) →
        Holds (past ++ emitted) next := by
    intro past handler action next emitted holds stepped
    obtain ⟨calm, aliveBefore, mailboxStep⟩ := step_refines holds.1 stepped
    refine ⟨calm, fun aliveNext fewNext => ?_⟩
    have fewBefore : (registeredIds past).length < 2 ^ 31 - 124 := by
      rw [registeredIds_append, List.length_append] at fewNext
      omega
    have before := holds.2 (aliveBefore aliveNext) fewBefore
    exact before.step (mailboxStep aliveNext) fewNext
  have initial : Holds [] DataHandler.start :=
    ⟨fun _ => rfl, fun _ _ => Accounts.start⟩
  exact (Run.history_of_run stepKeeps initial ran).2 alive few

/-- In every interleaving, up to the moment the destructor clears the handler,
each datum is delivered once, in order, to the listeners registered when it is
notified, whatever the calls of the listeners throw. -/
theorem delivers_in_order_exactly_once
    {actions : List (Action Listener Data)}
    {final : DataHandler Listener Data}
    {history : List (Output Listener Data)}
    (ran : run step DataHandler.start actions = .ok (final, history))
    (alive : final.destructor ≠ .destroyed)
    (few : (registeredIds history).length < 2 ^ 31 - 124) :
    Delivers history final := by
  have accounts := accounts_of_run ran alive few
  constructor
  · exact accounts.queue
  · intro id notRegistered
    exact (accounts.unknown id notRegistered).1
  · intro id listener before during split
    exact (accounts.known id listener before during split).1
  · exact accounts.nodup few

/-- A datum is notified to a listener that throws and to one that does not; the
first is unregistered before the second datum. -/
theorem delivers_in_order_exactly_once_two_listeners :
    ∃ (final : DataHandler Bool ℕ) (history : List (Output Bool ℕ)),
      received 124 history = [(false, 7)] ∧
        received 125 history = [(true, 7), (true, 8)] ∧
        Delivers history final := by
  let outcomeOf : Int32 → Outcome := fun id =>
    if id = 124 then .threwUnknown else .returned
  let deliver : List (Action Bool ℕ) :=
    List.replicate 5 (.processData outcomeOf)
  have ran : ∃ (final : DataHandler Bool ℕ) (history : List (Output Bool ℕ)),
      run step DataHandler.start ([.registerListener false, .signalData 7,
        .registerListener true] ++ deliver ++
        [.unregisterListener 124, .signalData 8] ++ deliver) =
          .ok (final, history) ∧ final.destructor ≠ .destroyed ∧
        (registeredIds history).length < 2 ^ 31 - 124 ∧
        received 124 history = [(false, 7)] ∧
        received 125 history = [(true, 7), (true, 8)] :=
    ⟨_, _, rfl, by decide, by decide, rfl, rfl⟩
  obtain ⟨final, history, ran, alive, few, first, second⟩ := ran
  exact ⟨final, history, first, second, delivers_in_order_exactly_once ran alive few⟩

end DataHandler
end CommonUtils
end StarterCpp
