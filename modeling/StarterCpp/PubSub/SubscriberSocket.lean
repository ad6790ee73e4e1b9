import StarterCpp.Library.Run
import Mathlib.Data.Finset.Basic

/-!
# The socket of a `HighBandwidthSubscriber`

`start` opens a socket and closes it again on each of its failing exits; `stop`
joins the receive thread and leaves the socket alone; the destructor closes
what `_socket` holds.  The calls are run against the set of descriptors that
are open, where closing any other descriptor is a fault.  Every descriptor is
accounted for exactly in the runs that never start again after a stop.
-/

namespace StarterCpp
namespace PubSub

/-- What the system calls and address conversions of one `start` answer. -/
structure StartAttempt where
  /-- The descriptor that `socket` returns, or that it fails. -/
  socket : Option ℕ
  bound : Bool
  multicastAddrValid : Bool
  interfaceAddrEmpty : Bool
  interfaceAddrValid : Bool
  joined : Bool
  deriving DecidableEq, Repr

/-- An attempt to start in which everything succeeds. -/
def StartAttempt.successful (descriptor : ℕ) : StartAttempt :=
  ⟨some descriptor, true, true, true, false, true⟩

/-- A system call that opens or closes a descriptor. -/
inductive SocketCall
  | opened (descriptor : Int)
  | close (descriptor : Int)
  deriving DecidableEq, Repr

/-- The fields of a `HighBandwidthSubscriber` that `start` and `stop` use. -/
structure SubscriberControl where
  socket : Int
  running : Bool
  shouldStop : Bool
  deriving DecidableEq, Repr

/-- What `start` leaves, returns, and has called. -/
structure StartOutcome where
  control : SubscriberControl
  returned : Bool
  calls : List SocketCall
  deriving DecidableEq, Repr

namespace SubscriberControl

/-- The fields as the constructor leaves them. -/
def create : SubscriberControl := ⟨-1, false, false⟩

/-- `start`. -/
def start (self : SubscriberControl) (attempt : StartAttempt) : StartOutcome :=
  if self.running then ⟨self, true, []⟩
  else
    match attempt.socket with
    | none => ⟨{ self with socket := -1 }, false, []⟩
    | some descriptor =>
        -- The failing exits after `socket` all close the descriptor again.
        let abandoned : StartOutcome :=
          ⟨{ self with socket := -1 }, false,
            [.opened descriptor, .close descriptor]⟩
        if !attempt.bound then abandoned
        else if !attempt.multicastAddrValid then abandoned
        else if !attempt.interfaceAddrEmpty && !attempt.interfaceAddrValid then
          abandoned
        else if !attempt.joined then abandoned
        else
          ⟨⟨descriptor, true, false⟩, true, [.opened descriptor]⟩

/-- `stop`. -/
def stop (self : SubscriberControl) : SubscriberControl :=
  if self.running then { self with shouldStop := true, running := false }
  else self

/-- The destructor's call of `close`. -/
def destroy (self : SubscriberControl) : List SocketCall :=
  let stopped := self.stop
  if 0 ≤ stopped.socket then [.close stopped.socket] else []

variable {self : SubscriberControl} {attempt : StartAttempt}

theorem start_of_running (running : self.running = true) :
    self.start attempt = ⟨self, true, []⟩ :=
  if_pos running

/-- A start of a subscriber that is not running opens no socket, gives up the
one that it opened, or keeps it. -/
theorem start_cases (stopped : self.running = false) :
    (attempt.socket = none ∧
      self.start attempt = ⟨{ self with socket := -1 }, false, []⟩) ∨
    ∃ descriptor : ℕ, attempt.socket = some descriptor ∧
      (self.start attempt = ⟨{ self with socket := -1 }, false,
          [.opened descriptor, .close descriptor]⟩ ∨
        self.start attempt =
          ⟨⟨descriptor, true, false⟩, true, [.opened descriptor]⟩) := by
  unfold start
  rw [if_neg (by simp [stopped])]
  cases attempt.socket with
  | none => exact Or.inl ⟨rfl, rfl⟩
  | some descriptor =>
      refine Or.inr ⟨descriptor, rfl, ?_⟩
      dsimp only
      split_ifs
      · exact Or.inl rfl
      · exact Or.inl rfl
      · exact Or.inl rfl
      · exact Or.inl rfl
      · exact Or.inr rfl

@[simp] theorem stop_socket : self.stop.socket = self.socket := by
  unfold stop
  split_ifs <;> rfl

@[simp] theorem stop_running : self.stop.running = false := by
  unfold stop
  split_ifs with running
  · rfl
  · simpa using running

end SubscriberControl

/-- The descriptors that are open. -/
abbrev Descriptors := Finset Int

/-- Closing a descriptor that is not open. -/
inductive DescriptorFault
  | notOpen (descriptor : Int)
  deriving DecidableEq, Repr

namespace Descriptors

/-- One system call on the open descriptors. -/
def call (descriptors : Descriptors) :
    SocketCall → Except DescriptorFault Descriptors
  | .opened descriptor => .ok (insert descriptor descriptors)
  | .close descriptor =>
      if descriptor ∈ descriptors then .ok (descriptors.erase descriptor)
      else .error (.notOpen descriptor)

/-- Several system calls in order. -/
def callAll : Descriptors → List SocketCall →
    Except DescriptorFault Descriptors
  | descriptors, [] => .ok descriptors
  | descriptors, first :: calls =>
      match descriptors.call first with
      | .error fault => .error fault
      | .ok next => next.callAll calls

variable {descriptors : Descriptors} {descriptor : Int}

theorem callAll_opened :
    descriptors.callAll [.opened descriptor] =
      .ok (insert descriptor descriptors) :=
  rfl

theorem callAll_close (isOpen : descriptor ∈ descriptors) :
    descriptors.callAll [.close descriptor] =
      .ok (descriptors.erase descriptor) := by
  simp [callAll, call, isOpen]

/-- A fresh descriptor that is closed again leaves the others. -/
theorem callAll_opened_close (fresh : descriptor ∉ descriptors) :
    descriptors.callAll [.opened descriptor, .close descriptor] =
      .ok descriptors := by
  simp [callAll, call, Finset.erase_insert fresh]

end Descriptors

/-- A call on the subscriber object. -/
inductive ControlCall
  | start (attempt : StartAttempt)
  | stop
  deriving DecidableEq, Repr

/-- A subscriber object in a process, with the descriptors that are open. -/
structure SubscriberProcess where
  control : SubscriberControl
  descriptors : Descriptors
  deriving DecidableEq

namespace SubscriberProcess

/-- The object as constructed. -/
def create : SubscriberProcess := ⟨SubscriberControl.create, ∅⟩

/-- One call on the object, with what it returns. -/
def step (self : SubscriberProcess) :
    ControlCall → Except DescriptorFault (SubscriberProcess × List Bool)
  | .start attempt =>
      let outcome := self.control.start attempt
      match self.descriptors.callAll outcome.calls with
      | .error fault => .error fault
      | .ok descriptors => .ok (⟨outcome.control, descriptors⟩, [outcome.returned])
  | .stop => .ok (⟨self.control.stop, self.descriptors⟩, [])

/-- The descriptors that the destructor leaves open. -/
def destroy (self : SubscriberProcess) : Except DescriptorFault Descriptors :=
  self.descriptors.callAll self.control.destroy

/-- `socket` returns a descriptor that is not open. -/
def Fresh (self : SubscriberProcess) : ControlCall → Prop
  | .start attempt =>
      ∀ descriptor ∈ attempt.socket, (descriptor : Int) ∉ self.descriptors
  | .stop => True

instance (self : SubscriberProcess) : DecidablePred self.Fresh
  | .start attempt => inferInstanceAs (Decidable (∀ _ ∈ attempt.socket, _))
  | .stop => .isTrue trivial

/-- The open descriptors are the one in `_socket`, or none. -/
def Accounted (self : SubscriberProcess) : Prop :=
  self.descriptors =
    if 0 ≤ self.control.socket then {self.control.socket} else ∅

instance (self : SubscriberProcess) : Decidable self.Accounted :=
  inferInstanceAs (Decidable (self.descriptors = _))

/-- No start is made on a stopped subscriber that still holds its socket. -/
def KeepsSocket (self : SubscriberProcess) : ControlCall → Prop
  | .start _ => self.control.running = true ∨ self.control.socket < 0
  | .stop => True

instance (self : SubscriberProcess) : DecidablePred self.KeepsSocket
  | .start _ => inferInstanceAs (Decidable (_ ∨ _))
  | .stop => .isTrue trivial

/-- After every prefix of the calls, none of which closes a descriptor that is
not open, the open descriptors are the one in `_socket` or none, and the
destructor closes what is open. -/
def NeverLeaks (calls : List ControlCall) : Prop :=
  ∀ early, early <+: calls →
    ∃ reached returned, run step create early = .ok (reached, returned) ∧
      reached.Accounted ∧ reached.destroy = .ok ∅

variable {self : SubscriberProcess}

theorem create_accounted : create.Accounted := rfl

/-- The destructor closes everything when the descriptors are accounted for. -/
theorem Accounted.destroy (accounted : self.Accounted) :
    self.destroy = .ok ∅ := by
  unfold SubscriberProcess.destroy SubscriberControl.destroy
  simp only [SubscriberControl.stop_socket]
  unfold Accounted at accounted
  split_ifs at accounted ⊢ with holds
  · rw [accounted, Descriptors.callAll_close (Finset.mem_singleton_self _),
      Finset.erase_singleton]
  · rw [accounted]
    rfl

/-- A stop changes nothing about the descriptors. -/
theorem Accounted.stop (accounted : self.Accounted) :
    Accounted ⟨self.control.stop, self.descriptors⟩ := by
  unfold Accounted at accounted ⊢
  rw [SubscriberControl.stop_socket]
  exact accounted

theorem step_start
    {attempt : StartAttempt}
    {outcome : StartOutcome}
    {descriptors : Descriptors}
    (started : self.control.start attempt = outcome)
    (called : self.descriptors.callAll outcome.calls = .ok descriptors) :
    self.step (.start attempt) =
      .ok (⟨outcome.control, descriptors⟩, [outcome.returned]) := by
  simp only [step, started, called]

/-- A start that is not a restart keeps the descriptors accounted for. -/
theorem Accounted.start
    (accounted : self.Accounted)
    {attempt : StartAttempt}
    (fresh : self.Fresh (.start attempt))
    (keeps : self.KeepsSocket (.start attempt)) :
    ∃ next returned, self.step (.start attempt) = .ok (next, returned) ∧
      next.Accounted := by
  cases running : self.control.running with
  | true =>
      have started : self.control.start attempt = ⟨self.control, true, []⟩ :=
        SubscriberControl.start_of_running running
      exact ⟨_, _, step_start started rfl, accounted⟩
  | false =>
      have closed : self.descriptors = ∅ := by
        rcases keeps with already | none
        · rw [running] at already
          cases already
        · exact accounted.trans (if_neg (Int.not_le.mpr none))
      rcases SubscriberControl.start_cases running with
        ⟨_, failed⟩ | ⟨descriptor, answered, abandoned | started⟩
      · exact ⟨_, _, step_start failed rfl, closed⟩
      · exact ⟨_, _, step_start abandoned
          (Descriptors.callAll_opened_close (fresh descriptor answered)), closed⟩
      · refine ⟨_, _, step_start started Descriptors.callAll_opened, ?_⟩
        simp [Accounted, closed]

/-- A restart of a stopped subscriber loses the socket it holds. -/
theorem Accounted.restart
    (accounted : self.Accounted)
    {attempt : StartAttempt}
    (fresh : self.Fresh (.start attempt))
    (restart : ¬self.KeepsSocket (.start attempt))
    {next : SubscriberProcess}
    {returned : List Bool}
    (stepped : self.step (.start attempt) = .ok (next, returned)) :
    ¬next.Accounted := by
  obtain ⟨stopped, holds⟩ := not_or.mp restart
  have held : self.descriptors = {self.control.socket} :=
    accounted.trans (if_pos (Int.not_lt.mp holds))
  rcases SubscriberControl.start_cases (Bool.eq_false_of_not_eq_true stopped)
    with ⟨_, failed⟩ | ⟨descriptor, answered, abandoned | started⟩
  · rw [step_start failed rfl, Except.ok.injEq, Prod.mk.injEq] at stepped
    rw [← stepped.1]
    simp [Accounted, held]
  · rw [step_start abandoned (Descriptors.callAll_opened_close
      (fresh descriptor answered)), Except.ok.injEq, Prod.mk.injEq] at stepped
    rw [← stepped.1]
    simp [Accounted, held]
  · rw [step_start started Descriptors.callAll_opened, Except.ok.injEq,
      Prod.mk.injEq] at stepped
    rw [← stepped.1]
    intro both
    have only : insert (descriptor : Int) self.descriptors =
        {(descriptor : Int)} := by
      simpa [Accounted] using both
    have member : self.control.socket ∈
        insert (descriptor : Int) self.descriptors := by
      simp [held]
    rw [only, Finset.mem_singleton] at member
    apply fresh descriptor answered
    rw [held, member]
    exact Finset.mem_singleton_self _

/-- A call keeps the descriptors accounted for exactly when it is no restart. -/
theorem Accounted.step_iff
    (accounted : self.Accounted)
    {made : ControlCall}
    (fresh : self.Fresh made) :
    (∃ next returned, self.step made = .ok (next, returned) ∧
      next.Accounted) ↔ self.KeepsSocket made := by
  cases made with
  | stop => exact iff_of_true ⟨_, _, rfl, accounted.stop⟩ trivial
  | start attempt =>
      refine ⟨?_, accounted.start fresh⟩
      rintro ⟨next, returned, stepped, kept⟩
      by_contra restart
      exact accounted.restart fresh restart stepped kept

/-- For all calls of `start` and `stop`, where each new descriptor is not open,
no descriptor is leaked or closed twice exactly when no start is made on a
stopped subscriber that still holds its socket. -/
theorem neverLeaks_iff
    (calls : List ControlCall)
    (fresh : EachStep step Fresh create calls) :
    NeverLeaks calls ↔ EachStep step KeepsSocket create calls := by
  rw [← Run.prefixes_ok_iff_eachStep
    (fun _ _ accounted => Accounted.step_iff accounted) create_accounted fresh]
  constructor
  · intro neverLeaks early isPrefix
    obtain ⟨reached, returned, ran, accounted, _⟩ := neverLeaks early isPrefix
    exact ⟨reached, returned, ran, accounted⟩
  · intro accountedFor early isPrefix
    obtain ⟨reached, returned, ran, accounted⟩ := accountedFor early isPrefix
    exact ⟨reached, returned, ran, accounted, accounted.destroy⟩

/-- A failed start, a retry and a stop keep the descriptors accounted for. -/
theorem neverLeaks_iff_retried :
    NeverLeaks
      [.start ⟨some 3, false, true, true, false, true⟩, .start (.successful 3),
        .stop] := by
  exact (neverLeaks_iff _ (by decide)).mpr (by decide)

/-- Starting again after a stop leaves the first socket open with no owner. -/
theorem restart_leaks :
    ¬NeverLeaks [.start (.successful 3), .stop, .start (.successful 4)] ∧
      (run step create
        [.start (.successful 3), .stop, .start (.successful 4)]).map
          (fun result => (result.1.control.socket, result.1.destroy)) =
        .ok (4, .ok {3}) := by
  refine ⟨?_, by decide⟩
  intro neverLeaks
  obtain ⟨reached, returned, ran, accounted, _⟩ :=
    neverLeaks _ (List.prefix_refl _)
  obtain ⟨rfl, _⟩ := Prod.mk.inj (Except.ok.inj ran)
  exact absurd accounted (by decide)

end SubscriberProcess
end PubSub
end StarterCpp
