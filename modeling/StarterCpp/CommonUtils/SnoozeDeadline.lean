import StarterCpp.CommonUtils.SnoozableWatch

/-!
# When the snoozable timer fires

A wait that reports a timeout only after the execution time, in a run shorter than
the far execution time, makes the timer fire no earlier than the latest arming
call asks for, at most once for each arming call, and only between a start and a
stop.
-/

namespace StarterCpp
namespace CommonUtils
namespace SnoozableTimer

/-! ## What a history tells -/

/-- How the execution time was last set. -/
inductive Setting
  | armed (time : Int) (periodMs : Int32)
  | rearmed (time : Int)

/-- The execution time of a setting. -/
def Setting.executionTime : Setting → Int
  | .armed time periodMs => time + milliseconds periodMs
  | .rearmed time => time + rearmHours

def Output.setting : Output → Option Setting
  | .armed _ time periodMs => some (.armed time periodMs)
  | .rearmed time => some (.rearmed time)
  | .fired _ | .called | .halted => none

/-- Whether an output starts or stops the timer. -/
def Output.switches : Output → Option Bool
  | .armed .start _ _ => some true
  | .halted => some false
  | .armed .snooze _ _ | .armed .updateSnoozePeriod _ _ | .fired _ | .called
  | .rearmed _ => none

def Output.isArmed : Output → Bool
  | .armed _ _ _ => true
  | .fired _ | .called | .rearmed _ | .halted => false

/-- The number of arming calls. -/
def arms (history : List Output) : ℕ :=
  history.countP Output.isArmed

/-- The number of decisions to fire. -/
def fires (history : List Output) : ℕ :=
  history.countP Output.isFired

/-- At the time of a decision to fire the latest arming call lies its period back,
and the timer has been started and not stopped. -/
def FiresInTime (before : List Output) (now : Int) : Prop :=
  (∃ time periodMs,
      History.latest Output.arming before = some (time, periodMs) ∧
        time + milliseconds periodMs ≤ now) ∧
    History.latest Output.switches before = some true

/-- The timer fires neither early, nor twice, nor while it is stopped. -/
structure FiresRightly (history : List Output) : Prop where
  inTime : ∀ before now after,
    history = before ++ .fired now :: after → FiresInTime before now
  notTwice : fires history ≤ arms history

/-! ## The environment -/

/-- The reading of the clock that an action carries. -/
def Action.reading : Action → Option Int
  | .control now | .snooze now | .updateSnooze now | .thread now _ => some now
  | .start | .stop | .updatePeriod _ | .wake => none

/-- The reading of an action is less than the far period after the beginning. -/
def Action.Within (begin : Int) (action : Action) : Prop :=
  ∀ now, action.reading = some now → begin ≤ now ∧ now < begin + rearmHours

/-- The wait reports a timeout only when the clock has reached the execution time
as it is when the thread holds the mutex again. -/
def TimesOut (timer : SnoozableTimer) (action : Action) : Prop :=
  ∀ now, action = .thread now true → timer.thread = some .woken →
    timer.executionTime ≤ now

instance (timer : SnoozableTimer) (action : Action) :
    Decidable (timer.TimesOut action) :=
  match action with
  | .thread now true =>
      decidable_of_iff (timer.thread = some .woken → timer.executionTime ≤ now)
        (by simp [TimesOut])
  | .thread _ false | .start | .stop | .control _ | .snooze _ | .updatePeriod _
  | .updateSnooze _ | .wake => .isTrue (by simp [TimesOut])

instance (begin : Int) (action : Action) : Decidable (action.Within begin) :=
  match reads : action.reading with
  | none => .isTrue (by simp [Action.Within, reads])
  | some now =>
      decidable_of_iff (begin ≤ now ∧ now < begin + rearmHours)
        (by simp [Action.Within, reads])

/-! ## The account -/

/-- What does not fire keeps what is right of a history. -/
theorem FiresRightly.append
    {past : List Output}
    (rightly : FiresRightly past)
    {output : Output}
    (notFiring : output.isFired = false) :
    FiresRightly (past ++ [output]) where
  inTime := by
    intro before now after split
    rcases History.split_append split with ⟨old, rfl, _⟩ | ⟨new, single, _⟩
    · exact rightly.inTime before now old rfl
    · have member : .fired now ∈ [output] := by
        rw [single]
        simp
      rw [List.mem_singleton] at member
      rw [← member] at notFiring
      simp [Output.isFired] at notFiring
  notTwice := by
    have before := rightly.notTwice
    unfold fires arms at *
    rw [List.countP_append, List.countP_append, List.countP_singleton, notFiring]
    simp only [Bool.false_eq_true, if_false]
    omega

/-- A decision to fire in time that an arming call is left for is right. -/
theorem FiresRightly.fired
    {past : List Output}
    (rightly : FiresRightly past)
    {now : Int}
    (inTime : FiresInTime past now)
    (left : fires past < arms past) :
    FiresRightly (past ++ [.fired now]) where
  inTime := by
    intro before time after split
    rcases History.split_append split with ⟨old, rfl, _⟩ | ⟨new, single, rfl⟩
    · exact rightly.inTime before time old rfl
    · cases new with
      | nil =>
          obtain ⟨same, _⟩ := List.cons.inj single
          obtain rfl := Output.fired.inj same
          rwa [List.append_nil]
      | cons first new => simp at single
  notTwice := by
    unfold fires arms at *
    simp only [List.countP_append, List.countP_singleton, Output.isFired,
      Output.isArmed, if_true, Bool.false_eq_true, if_false]
    omega

namespace Watch

/-- What a history says of the watch it has led to. -/
structure Accounts
    (begin : Int)
    (past : List Output)
    (watch : Watch) : Prop where
  rightly : FiresRightly past
  live : watch.active = true → History.latest Output.switches past = some true
  isSet : watch.active = true →
    ∃ setting, History.latest Output.setting past = some setting
  time : ∀ setting, History.latest Output.setting past = some setting →
    watch.executionTime = setting.executionTime
  agrees : ∀ time periodMs,
    History.latest Output.setting past = some (.armed time periodMs) →
      History.latest Output.arming past = some (time, periodMs)
  credit : ∀ time periodMs, watch.firing = false →
    History.latest Output.setting past = some (.armed time periodMs) →
      fires past < arms past
  far : ∀ time, History.latest Output.setting past = some (.rearmed time) →
    begin ≤ time

namespace Accounts

variable {begin : Int}
variable {past emitted : List Output}
variable {watch next : Watch}

/-- What sets nothing and does not fire keeps the account. -/
theorem append
    (accounts : Accounts begin past watch)
    {output : Output}
    (notFiring : output.isFired = false)
    (notArmed : output.isArmed = false)
    (noSetting : output.setting = none)
    (noArming : output.arming = none)
    {active : Bool}
    (live : active = true →
      History.latest Output.switches (past ++ [output]) = some true ∧
        watch.active = true) :
    Accounts begin (past ++ [output]) { watch with active := active } where
  rightly := accounts.rightly.append notFiring
  live := fun isActive => (live isActive).1
  isSet := by
    intro isActive
    rw [History.latest_concat_none noSetting]
    exact accounts.isSet (live isActive).2
  time := by
    rw [History.latest_concat_none noSetting]
    exact accounts.time
  agrees := by
    rw [History.latest_concat_none noSetting,
      History.latest_concat_none noArming]
    exact accounts.agrees
  credit := by
    rw [History.latest_concat_none noSetting]
    intro time periodMs isFiring latest
    have left := accounts.credit time periodMs isFiring latest
    unfold fires arms at *
    simp only [List.countP_append, List.countP_singleton, notFiring, notArmed,
      Bool.false_eq_true, if_false]
    omega
  far := by
    rw [History.latest_concat_none noSetting]
    exact accounts.far

/-- An arming call adds one decision to fire. -/
theorem armed
    (accounts : Accounts begin past watch)
    {cause : Cause}
    {now : Int}
    {periodMs : Int32}
    {active : Bool}
    (live : active = true → History.latest Output.switches
      (past ++ [.armed cause now periodMs]) = some true) :
    Accounts begin (past ++ [.armed cause now periodMs])
      { watch with
        executionTime := now + milliseconds periodMs
        active := active } := by
  have latest : History.latest Output.setting
      (past ++ [.armed cause now periodMs]) = some (.armed now periodMs) :=
    History.latest_concat_some rfl
  refine ⟨accounts.rightly.append rfl, live, fun _ => ⟨_, latest⟩, ?_, ?_, ?_, ?_⟩
  · intro setting found
    rw [latest, Option.some.injEq] at found
    subst found
    rfl
  · intro time armedMs found
    rw [latest, Option.some.injEq, Setting.armed.injEq] at found
    obtain ⟨rfl, rfl⟩ := found
    exact History.latest_concat_some rfl
  · intro time armedMs _ _
    have before := accounts.rightly.notTwice
    unfold fires arms at *
    simp only [List.countP_append, List.countP_singleton, Output.isFired,
      Output.isArmed, if_true, Bool.false_eq_true, if_false]
    omega
  · intro time found
    rw [latest] at found
    simp at found

/-- A decision to fire uses up the arming call. -/
theorem fired
    (accounts : Accounts begin past watch)
    {now : Int}
    (active : watch.active = true)
    (notFiring : watch.firing = false)
    (reached : watch.executionTime ≤ now)
    (short : now < begin + rearmHours) :
    Accounts begin (past ++ [.fired now]) { watch with firing := true } := by
  have right : FiresRightly (past ++ [.fired now]) := by
    obtain ⟨setting, latest⟩ := accounts.isSet active
    rw [accounts.time setting latest] at reached
    cases setting with
    | armed time periodMs =>
        apply accounts.rightly.fired
        · exact ⟨⟨time, periodMs, accounts.agrees time periodMs latest, reached⟩,
            accounts.live active⟩
        · exact accounts.credit time periodMs notFiring latest
    | rearmed time =>
        have after := accounts.far time latest
        rw [Setting.executionTime] at reached
        omega
  have noSetting : History.latest Output.setting (past ++ [.fired now]) =
      History.latest Output.setting past := History.latest_concat_none rfl
  have noArming : History.latest Output.arming (past ++ [.fired now]) =
      History.latest Output.arming past := History.latest_concat_none rfl
  have noSwitch : History.latest Output.switches (past ++ [.fired now]) =
      History.latest Output.switches past := History.latest_concat_none rfl
  refine ⟨right, ?_, ?_, ?_, ?_, by simp, ?_⟩
  · rw [noSwitch]
    exact accounts.live
  · rw [noSetting]
    exact accounts.isSet
  · rw [noSetting]
    exact accounts.time
  · rw [noSetting, noArming]
    exact accounts.agrees
  · rw [noSetting]
    exact accounts.far

/-- The rewrite of the execution time keeps the timer from firing within the far
period. -/
theorem rearmed
    (accounts : Accounts begin past watch)
    {now : Int}
    (late : begin ≤ now) :
    Accounts begin (past ++ [.rearmed now])
      { watch with executionTime := now + rearmHours, firing := false } := by
  have latest : History.latest Output.setting (past ++ [.rearmed now]) =
      some (.rearmed now) := History.latest_concat_some rfl
  have noSwitch : History.latest Output.switches (past ++ [.rearmed now]) =
      History.latest Output.switches past := History.latest_concat_none rfl
  refine ⟨accounts.rightly.append rfl, ?_, fun _ => ⟨_, latest⟩, ?_, ?_, ?_, ?_⟩
  · rw [noSwitch]
    exact accounts.live
  · intro setting found
    rw [latest, Option.some.injEq] at found
    subst found
    rfl
  · intro time periodMs found
    rw [latest] at found
    simp at found
  · intro time periodMs _ found
    rw [latest] at found
    simp at found
  · intro time found
    rw [latest, Option.some.injEq, Setting.rearmed.injEq] at found
    exact found ▸ late

theorem step
    (accounts : Accounts begin past watch)
    (step : Watch.Step watch emitted next)
    (timely : ∀ now, emitted = [.fired now] →
      watch.executionTime ≤ now ∧ now < begin + rearmHours)
    (late : ∀ now, emitted = [.rearmed now] → begin ≤ now) :
    Accounts begin (past ++ emitted) next := by
  cases step with
  | internal => rwa [List.append_nil]
  | called =>
      apply accounts.append rfl rfl rfl rfl
      intro active
      rw [History.latest_concat_none rfl]
      exact ⟨accounts.live active, active⟩
  | started now periodMs inactive notFiring =>
      apply accounts.armed
      intro _
      exact History.latest_concat_some rfl
  | snoozed cause now periodMs later =>
      apply accounts.armed
      intro active
      have noSwitch : (Output.armed cause now periodMs).switches = none := by
        cases cause with
        | start => exact absurd rfl later
        | snooze | updateSnoozePeriod => rfl
      rw [History.latest_concat_none noSwitch]
      exact accounts.live active
  | halted =>
      apply accounts.append rfl rfl rfl rfl
      simp
  | fired now active notFiring =>
      obtain ⟨reached, short⟩ := timely now rfl
      exact accounts.fired active notFiring reached short
  | rearmed now firing => exact accounts.rearmed (late now rfl)

end Accounts
end Watch

/-! ## Every run -/

/-- The account of the watch holds along every run in such an environment. -/
theorem accounts_of_run
    {periodMs : Int32}
    {begin : Int}
    {actions : List Action}
    {final : SnoozableTimer}
    {history : List Output}
    (timesOut : EachStep step TimesOut (new periodMs) actions)
    (within : ∀ action ∈ actions, action.Within begin)
    (ran : run step (new periodMs) actions = .ok (final, history)) :
    final.watch.Accounts begin history := by
  let Holds : List Output → SnoozableTimer → Prop := fun past timer =>
    timer.Consistent ∧ timer.watch.Accounts begin past
  have initial : Holds [] (new periodMs) := by
    refine ⟨consistent_new periodMs, ⟨?_, Nat.le_refl _⟩, ?_, ?_, ?_, ?_, ?_, ?_⟩
    all_goals simp [watch, active, new, Controller.raising]
  have stepKeeps : ∀ past timer action next emitted, Holds past timer →
      action.Within begin ∧ timer.TimesOut action →
        step timer action = .ok (next, emitted) →
          Holds (past ++ emitted) next := by
    rintro past timer action next emitted ⟨consistent, accounts⟩
      ⟨within, timesOut⟩ stepped
    obtain ⟨consistentNext, watchStep⟩ := step_refines consistent stepped
    refine ⟨consistentNext, accounts.step watchStep ?_ ?_⟩
    · rintro now rfl
      obtain ⟨rfl, woken⟩ := origin_of_step stepped _ (List.mem_singleton_self _)
      exact ⟨timesOut now rfl woken, (within now rfl).2⟩
    · rintro now rfl
      obtain ⟨timedOut, rfl⟩ :=
        origin_of_step stepped _ (List.mem_singleton_self _)
      exact (within now rfl).1
  have conditions := EachStep.and_forall timesOut within
  exact (Run.history_of_eachStep stepKeeps initial conditions ran).2

/-- In a run shorter than the far period, with waits that report a timeout only
after the execution time, every decision to fire comes after the latest arming
call and its period, each arming call leads to at most one, and none comes
between a stop and the next start. -/
theorem fires_rightly
    {periodMs : Int32}
    {begin : Int}
    {actions : List Action}
    {final : SnoozableTimer}
    {history : List Output}
    (timesOut : EachStep step TimesOut (new periodMs) actions)
    (within : ∀ action ∈ actions, action.Within begin)
    (ran : run step (new periodMs) actions = .ok (final, history)) :
    FiresRightly history :=
  (accounts_of_run timesOut within ran).rightly

/-- A timer of 10 ms that is snoozed after 5 ms fires after 15 ms. -/
theorem fires_rightly_after_snooze :
    FiresRightly [.armed .start 0 10, .armed .snooze 5000000 10,
      .fired 15000000, .called] := by
  let actions : List Action := [.start, .control 0, .control 0, .control 0,
    .control 0, .thread 0 false, .thread 0 false, .thread 0 false,
    .snooze 5000000, .thread 5000000 false, .thread 5000000 false,
    .thread 5000000 false, .wake, .thread 15000000 true,
    .thread 15000000 false, .thread 15000000 false]
  have timesOut : EachStep step TimesOut (new 10) actions := by decide
  have within : ∀ action ∈ actions, action.Within 0 := by decide
  exact fires_rightly timesOut within rfl

end SnoozableTimer
end CommonUtils
end StarterCpp
