import Mathlib.Data.List.Basic
import StarterCpp.Library.Interleaving
import StarterCpp.Library.Waiting

/-!
# The data handler

Producers push data on a queue, a worker thread pops one datum at a time and
calls every registered listener with it, and the destructor stops the worker.
Each action below is one critical section, or one step of the worker or of the
destructor between two of them.  Calls of the handler end before its destructor
starts; the listeners do not call it back.
-/

namespace StarterCpp
namespace CommonUtils

/-- How a call of a listener ends. -/
inductive Outcome
  | returned
  | threwException (what : String)
  | threwUnknown
  deriving DecidableEq, Repr

/-- What `notifyListeners` writes to the error stream after a call. -/
def Outcome.report : Outcome → Option String
  | .returned => none
  | .threwException what =>
      some ("Listener threw an std::exception! " ++ what ++ "\n")
  | .threwUnknown => some "Listener threw an unknown exception!\n"

/-- Where the worker stands in `processData`. -/
inductive Worker (Data : Type*)
  /-- About to test the stop flag. -/
  | loopTest
  /-- About to take the queue mutex. -/
  | acquiring
  /-- Inside the wait on the condition variable. -/
  | waiting (wait : Wait)
  /-- Returned from the wait, still holding the queue mutex. -/
  | popping
  /-- Holding a popped datum, without the queue mutex. -/
  | notifying (data : Data)
  | finished
  deriving DecidableEq, Repr

namespace Worker

variable {Data : Type*}

/-- Whether the worker holds the queue mutex. -/
def holdsMutex : Worker Data → Bool
  | .waiting wait => wait.holdsMutex
  | .popping => true
  | .loopTest | .acquiring | .notifying _ | .finished => false

/-- The effect of a notification of the condition variable. -/
def notify : Worker Data → Worker Data
  | .waiting wait => .waiting wait.notify
  | worker => worker

/-- The datum popped and not yet notified. -/
def inFlight : Worker Data → Option Data
  | .notifying data => some data
  | .loopTest | .acquiring | .waiting _ | .popping | .finished => none

@[simp] theorem inFlight_notify (worker : Worker Data) :
    worker.notify.inFlight = worker.inFlight := by
  cases worker <;> rfl

/-- A notified worker is not blocked in its wait. -/
theorem notify_ne_blocked (worker : Worker Data) :
    worker.notify ≠ .waiting .blocked := by
  cases worker with
  | waiting wait =>
      simpa [notify] using Wait.notify_ne_blocked wait
  | loopTest | acquiring | popping | notifying _ | finished => simp [notify]

/-- A notification leaves a worker that is about to block where it was. -/
@[simp] theorem notify_eq_blocking {worker : Worker Data} :
    worker.notify = .waiting .blocking ↔ worker = .waiting .blocking := by
  cases worker <;> simp [notify]

end Worker

/-- Where the destructor stands. -/
inductive Destructor
  | notStarted
  /-- The stop flag is stored; about to notify. -/
  | notifying
  /-- Waiting for the worker to finish. -/
  | joining
  /-- About to clear the listeners and the queue. -/
  | clearing
  | destroyed
  deriving DecidableEq, Repr

/-- The members of a data handler and the positions of its two threads. -/
structure DataHandler (Listener Data : Type*) where
  listeners : List (Int32 × Listener)
  nextListenerId : Int32
  dataQueue : List Data
  stopFlag : Bool
  worker : Worker Data
  destructor : Destructor

namespace DataHandler

variable {Listener Data : Type*}

/-- The critical sections of the handler's callers, and the steps of its worker
and of its destructor. -/
inductive Action (Listener Data : Type*)
  | signalData (data : Data)
  | registerListener (listener : Listener)
  | unregisterListener (id : Int32)
  /-- The worker's next step; the calls it makes end as given. -/
  | processData (outcomeOf : Int32 → Outcome)
  /-- A spurious wakeup. -/
  | wake
  /-- The destructor's next step. -/
  | destroy

/-- What the callers and the listeners see. -/
inductive Output (Listener Data : Type*)
  | signalled (data : Data)
  | registered (id : Int32) (listener : Listener)
  /-- `registerListener` returned without a registration. -/
  | refused (id : Int32)
  | unregistered (id : Int32)
  /-- The worker's `notifyListeners` starts. -/
  | notified (data : Data)
  | invoked (id : Int32) (listener : Listener) (data : Data)
  | reported (text : String)

/-- A new handler, its worker about to enter the loop. -/
def start : DataHandler Listener Data where
  listeners := []
  nextListenerId := 123
  dataQueue := []
  stopFlag := false
  worker := .loopTest
  destructor := .notStarted

/-- Assign a listener in the map of listeners, which is in the order of the
ids. -/
def assign (id : Int32) (listener : Listener) :
    List (Int32 × Listener) → List (Int32 × Listener)
  | [] => [(id, listener)]
  | (key, value) :: rest =>
      if id < key then (id, listener) :: (key, value) :: rest
      else if id = key then (id, listener) :: rest
      else (key, value) :: assign id listener rest

/-- Signal a datum: push it and notify the worker, under the queue mutex. -/
def signalData
    (handler : DataHandler Listener Data)
    (data : Data) :
    Except Disabled (DataHandler Listener Data × List (Output Listener Data)) :=
  if handler.destructor ≠ .notStarted ∨ handler.worker.holdsMutex then
    .error .disabled
  else if handler.stopFlag then
    .ok (handler, [.signalled data])
  else
    .ok ({ handler with
      dataQueue := handler.dataQueue ++ [data]
      worker := handler.worker.notify }, [.signalled data])

/-- Register a listener under the next id. -/
def registerListener
    (handler : DataHandler Listener Data)
    (listener : Listener) :
    Except Disabled (DataHandler Listener Data × List (Output Listener Data)) :=
  if handler.destructor ≠ .notStarted then
    .error .disabled
  else if handler.stopFlag then
    .ok (handler, [.refused (-1)])
  else
    let id := handler.nextListenerId + 1
    .ok ({ handler with
      nextListenerId := id
      listeners := assign id listener handler.listeners },
      [.registered id listener])

/-- Erase a listener by its id. -/
def unregisterListener
    (handler : DataHandler Listener Data)
    (id : Int32) :
    Except Disabled (DataHandler Listener Data × List (Output Listener Data)) :=
  if handler.destructor ≠ .notStarted then
    .error .disabled
  else if handler.stopFlag then
    .ok (handler, [.unregistered id])
  else
    .ok ({ handler with
      listeners := handler.listeners.filter fun entry => entry.1 ≠ id },
      [.unregistered id])

/-- Call the listeners in the order of their ids; what one of them throws is
reported and does not reach the others. -/
def notifyListeners
    (outcomeOf : Int32 → Outcome)
    (data : Data) :
    List (Int32 × Listener) → List (Output Listener Data)
  | [] => []
  | (id, listener) :: rest =>
      .invoked id listener data ::
        ((outcomeOf id).report.map .reported).toList ++
          notifyListeners outcomeOf data rest

/-- The predicate of the worker's wait. -/
def ready (handler : DataHandler Listener Data) : Bool :=
  !handler.dataQueue.isEmpty || handler.stopFlag

/-- The worker's next step. -/
def processData
    (handler : DataHandler Listener Data)
    (outcomeOf : Int32 → Outcome) :
    Except Disabled (DataHandler Listener Data × List (Output Listener Data)) :=
  match handler.worker with
  | .loopTest =>
      .ok ({ handler with
        worker := if handler.stopFlag then .finished else .acquiring }, [])
  | .acquiring => .ok ({ handler with worker := .waiting .testing }, [])
  | .waiting wait =>
      match wait.advance handler.ready with
      | none => .error .disabled
      | some (.inside wait) =>
          .ok ({ handler with worker := .waiting wait }, [])
      | some (.returned _) => .ok ({ handler with worker := .popping }, [])
  | .popping =>
      if handler.stopFlag ∧ handler.dataQueue.isEmpty then
        .ok ({ handler with worker := .finished }, [])
      else
        match handler.dataQueue with
        | [] => .error .disabled
        | data :: rest =>
            .ok ({ handler with
              dataQueue := rest
              worker := .notifying data }, [])
  | .notifying data =>
      .ok ({ handler with worker := .loopTest },
        .notified data :: notifyListeners outcomeOf data handler.listeners)
  | .finished => .error .disabled

/-- The destructor's next step. -/
def destroy (handler : DataHandler Listener Data) :
    Except Disabled (DataHandler Listener Data × List (Output Listener Data)) :=
  match handler.destructor with
  | .notStarted =>
      .ok ({ handler with stopFlag := true, destructor := .notifying }, [])
  | .notifying =>
      .ok ({ handler with
        worker := handler.worker.notify
        destructor := .joining }, [])
  | .joining =>
      match handler.worker with
      | .finished => .ok ({ handler with destructor := .clearing }, [])
      | .loopTest | .acquiring | .waiting _ | .popping | .notifying _ =>
          .error .disabled
  | .clearing =>
      .ok ({ handler with
        listeners := []
        dataQueue := []
        destructor := .destroyed }, [])
  | .destroyed => .error .disabled

/-- A spurious wakeup of the worker. -/
def wake (handler : DataHandler Listener Data) :
    Except Disabled (DataHandler Listener Data × List (Output Listener Data)) :=
  match handler.worker with
  | .waiting .blocked =>
      .ok ({ handler with worker := .waiting (.woken false) }, [])
  | .loopTest | .acquiring | .waiting _ | .popping | .notifying _
  | .finished => .error .disabled

/-- One step of the handler's threads. -/
def step
    (handler : DataHandler Listener Data) :
    Action Listener Data →
      Except Disabled (DataHandler Listener Data × List (Output Listener Data))
  | .signalData data => handler.signalData data
  | .registerListener listener => handler.registerListener listener
  | .unregisterListener id => handler.unregisterListener id
  | .processData outcomeOf => handler.processData outcomeOf
  | .wake => handler.wake
  | .destroy => handler.destroy

end DataHandler
end CommonUtils
end StarterCpp
