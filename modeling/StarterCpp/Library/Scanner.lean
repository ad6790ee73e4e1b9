import Mathlib.Data.List.Basic

/-!
# Scanners of an indexed memory

A scanner is a program that reads cells of a memory at indices it computes, may
assign an output parameter, and either returns a value or gives up.  It is
represented as a query tree, so that the cells a run reads are part of its
meaning and not a convention about the code that evaluates it.

Three questions are asked of a run: what it returns, which indices it reads,
and what it leaves in the output parameter.  Each has a rule for sequencing, and
`Meets` combines the first two into a Hoare-style judgement.
-/

namespace StarterCpp

/-- A program over a read-only memory with one output parameter. -/
inductive Scanner (Cell Out α : Type)
  | done (value : α)
  | fail
  | read (index : ℕ) (next : Cell → Scanner Cell Out α)
  | write (out : Out) (next : Scanner Cell Out α)

namespace Scanner

variable {Cell Out Item α β γ : Type}

/-- Run a scanner and continue with its value. -/
protected def bind :
    Scanner Cell Out α → (α → Scanner Cell Out β) → Scanner Cell Out β
  | done value, next => next value
  | fail, _ => fail
  | read index rest, next => read index fun cell => (rest cell).bind next
  | write out rest, next => write out (rest.bind next)

instance : Monad (Scanner Cell Out) where
  pure := done
  bind := Scanner.bind

protected theorem bind_done (program : Scanner Cell Out α) :
    program.bind done = program := by
  induction program with
  | done value => rfl
  | fail => rfl
  | read index next inductionHypothesis =>
      exact congrArg (read index) (funext inductionHypothesis)
  | write out next inductionHypothesis =>
      exact congrArg (write out) inductionHypothesis

protected theorem bind_assoc
    (program : Scanner Cell Out α)
    (first : α → Scanner Cell Out β)
    (second : β → Scanner Cell Out γ) :
    (program.bind first).bind second =
      program.bind fun value => (first value).bind second := by
  induction program with
  | done value => rfl
  | fail => rfl
  | read index next inductionHypothesis =>
      exact congrArg (read index) (funext inductionHypothesis)
  | write out next inductionHypothesis =>
      exact congrArg (write out) inductionHypothesis

instance : LawfulMonad (Scanner Cell Out) :=
  LawfulMonad.mk' _ Scanner.bind_done (fun _ _ => rfl) Scanner.bind_assoc

/-- Read one cell. -/
def cell (index : ℕ) : Scanner Cell Out Cell :=
  read index done

/-- Assign the output parameter. -/
def assign (out : Out) : Scanner Cell Out Unit :=
  write out (done ())

/-- Give up unless a condition holds. -/
def require (condition : Prop) [Decidable condition] : Scanner Cell Out Unit :=
  if condition then done () else fail

section Meaning

variable (memory : ℕ → Cell)

/-- The value a run returns, if it does not give up. -/
def result : Scanner Cell Out α → Option α
  | done value => some value
  | fail => none
  | read index next => (next (memory index)).result
  | write _ next => next.result

/-- The indices a run reads, in order. -/
def reads : Scanner Cell Out α → List ℕ
  | done _ => []
  | fail => []
  | read index next => index :: (next (memory index)).reads
  | write _ next => next.reads

/-- What a run leaves in the output parameter. -/
def output : Scanner Cell Out α → Out → Out
  | done _, out => out
  | fail, out => out
  | read index next, out => (next (memory index)).output out
  | write assigned next, _ => next.output assigned

end Meaning

section Equations

variable {memory : ℕ → Cell}

@[simp] theorem result_pure (value : α) :
    (pure value : Scanner Cell Out α).result memory = some value := rfl

@[simp] theorem reads_pure (value : α) :
    (pure value : Scanner Cell Out α).reads memory = [] := rfl

@[simp] theorem result_assign (out : Out) :
    (assign out : Scanner Cell Out Unit).result memory = some () := rfl

@[simp] theorem reads_assign (out : Out) :
    (assign out : Scanner Cell Out Unit).reads memory = [] := rfl

@[simp] theorem result_cell (index : ℕ) :
    (cell index : Scanner Cell Out Cell).result memory = some (memory index) :=
  rfl

/-- Sequencing threads the value. -/
@[simp] theorem result_bind
    (program : Scanner Cell Out α)
    (next : α → Scanner Cell Out β) :
    (program >>= next).result memory =
      (program.result memory).bind fun value => (next value).result memory := by
  change (program.bind next).result memory = _
  induction program with
  | done value => rfl
  | fail => rfl
  | read index rest inductionHypothesis => exact inductionHypothesis _
  | write out rest inductionHypothesis => exact inductionHypothesis

@[simp] theorem result_map (function : α → β) (program : Scanner Cell Out α) :
    (function <$> program).result memory =
      (program.result memory).map function := by
  rw [← bind_pure_comp, result_bind]
  cases program.result memory <;> rfl

/-- Sequencing appends the reads of the continuation that is entered. -/
theorem reads_bind
    (program : Scanner Cell Out α)
    (next : α → Scanner Cell Out β) :
    (program >>= next).reads memory =
      program.reads memory ++
        (program.result memory).elim [] fun value =>
          (next value).reads memory := by
  change (program.bind next).reads memory = _
  induction program with
  | done value => rfl
  | fail => rfl
  | read index rest inductionHypothesis =>
      exact congrArg (List.cons index) (inductionHypothesis _)
  | write out rest inductionHypothesis => exact inductionHypothesis

/-- Sequencing threads the output parameter, also when the first part fails. -/
theorem output_bind
    (program : Scanner Cell Out α)
    (next : α → Scanner Cell Out β)
    (out : Out) :
    (program >>= next).output memory out =
      (program.result memory).elim (program.output memory out) fun value =>
        (next value).output memory (program.output memory out) := by
  change (program.bind next).output memory out = _
  induction program generalizing out with
  | done value => rfl
  | fail => rfl
  | read index rest inductionHypothesis => exact inductionHypothesis _ out
  | write assigned rest inductionHypothesis =>
      exact inductionHypothesis assigned

@[simp] theorem result_require
    (condition : Prop)
    [Decidable condition] :
    (require condition : Scanner Cell Out Unit).result memory =
      if condition then some () else none := by
  unfold require
  split <;> rfl

@[simp] theorem reads_require
    (condition : Prop)
    [Decidable condition] :
    (require condition : Scanner Cell Out Unit).reads memory = [] := by
  unfold require
  split <;> rfl

@[simp] theorem output_require
    (condition : Prop)
    [Decidable condition]
    (out : Out) :
    (require condition : Scanner Cell Out Unit).output memory out = out := by
  unfold require
  split <;> rfl

end Equations

section Locality

variable {memory other : ℕ → Cell}

/-- A run depends only on the cells it reads. -/
theorem result_eq_of_agree
    {program : Scanner Cell Out α}
    (agree : ∀ index ∈ program.reads memory, other index = memory index) :
    program.result other = program.result memory := by
  induction program with
  | done value => rfl
  | fail => rfl
  | read index next inductionHypothesis =>
      have sameCell : other index = memory index :=
        agree index List.mem_cons_self
      change (next (other index)).result other = _
      rw [sameCell]
      exact inductionHypothesis _ fun later laterRead =>
        agree later (List.mem_cons_of_mem _ laterRead)
  | write out next inductionHypothesis => exact inductionHypothesis agree

end Locality

section Judgement

variable {memory : ℕ → Cell}
variable {Allowed : ℕ → Prop}

/-- A run reads allowed indices only, and a value it returns is as ensured. -/
structure Meets
    (memory : ℕ → Cell)
    (Allowed : ℕ → Prop)
    (program : Scanner Cell Out α)
    (Ensures : α → Prop) : Prop where
  reads_allowed : ∀ index ∈ program.reads memory, Allowed index
  result_ensured : ∀ value, program.result memory = some value → Ensures value

namespace Meets

theorem pure
    {Ensures : α → Prop}
    {value : α}
    (ensured : Ensures value) :
    Meets memory Allowed (pure value : Scanner Cell Out α) Ensures where
  reads_allowed := by simp
  result_ensured := by
    intro returned returns
    rw [result_pure, Option.some.injEq] at returns
    exact returns ▸ ensured

theorem assign (out : Out) :
    Meets memory Allowed (Scanner.assign out : Scanner Cell Out Unit)
      fun _ => True where
  reads_allowed := by simp
  result_ensured := by simp

theorem require (condition : Prop) [Decidable condition] :
    Meets memory Allowed (Scanner.require condition : Scanner Cell Out Unit)
      fun _ => condition where
  reads_allowed := by simp
  result_ensured := by simp

/-- The sequencing rule. -/
theorem bind
    {program : Scanner Cell Out α}
    {next : α → Scanner Cell Out β}
    {Between : α → Prop}
    {Ensures : β → Prop}
    (first : Meets memory Allowed program Between)
    (second : ∀ value, Between value →
      Meets memory Allowed (next value) Ensures) :
    Meets memory Allowed (program >>= next) Ensures where
  reads_allowed := by
    intro index isRead
    rw [reads_bind, List.mem_append] at isRead
    rcases isRead with early | late
    · exact first.reads_allowed index early
    · cases returned : program.result memory with
      | none => simp [returned] at late
      | some value =>
          rw [returned] at late
          exact (second value (first.result_ensured value returned)).reads_allowed
            index late
  result_ensured := by
    intro value returns
    rw [result_bind, Option.bind_eq_some_iff] at returns
    obtain ⟨middle, middleReturned, valueReturned⟩ := returns
    exact (second middle (first.result_ensured middle middleReturned)).result_ensured
      value valueReturned

/-- The consequence rule. -/
theorem imp
    {Permitted : ℕ → Prop}
    {program : Scanner Cell Out α}
    {Ensures Weaker : α → Prop}
    (meets : Meets memory Allowed program Ensures)
    (readsImp : ∀ index, Allowed index → Permitted index)
    (ensuresImp : ∀ value, Ensures value → Weaker value) :
    Meets memory Permitted program Weaker where
  reads_allowed index isRead := readsImp index (meets.reads_allowed index isRead)
  result_ensured value returns :=
    ensuresImp value (meets.result_ensured value returns)

/-- The rule of a loop that collects values: what every round ensures holds of
every value. -/
theorem mapM
    {step : Item → Scanner Cell Out α}
    {items : List Item}
    {Each : α → Prop}
    (rounds : ∀ item ∈ items, Meets memory Allowed (step item) Each) :
    Meets memory Allowed (items.mapM step)
      fun values => ∀ value ∈ values, Each value := by
  induction items with
  | nil => exact Meets.pure (by simp)
  | cons item items inductionHypothesis =>
      rw [List.mapM_cons]
      refine (rounds item List.mem_cons_self).bind fun value valueEach => ?_
      have rest := inductionHypothesis fun later laterMem =>
        rounds later (List.mem_cons_of_mem _ laterMem)
      refine rest.bind fun values valuesEach => Meets.pure ?_
      exact List.forall_mem_cons.mpr ⟨valueEach, valuesEach⟩

end Meets

/-- A run never assigns the output parameter. -/
def Silent (program : Scanner Cell Out α) : Prop :=
  ∀ memory out, program.output memory out = out

namespace Silent

theorem bind
    {program : Scanner Cell Out α}
    {next : α → Scanner Cell Out β}
    (first : Silent program)
    (second : ∀ value, Silent (next value)) :
    Silent (program >>= next) := by
  intro memory out
  rw [output_bind, first]
  cases program.result memory with
  | none => rfl
  | some value => exact second value memory out

theorem pure (value : α) : Silent (pure value : Scanner Cell Out α) :=
  fun _ _ => rfl

theorem require (condition : Prop) [Decidable condition] :
    Silent (Scanner.require condition : Scanner Cell Out Unit) :=
  fun _ out => output_require condition out

theorem mapM
    {step : Item → Scanner Cell Out α}
    {items : List Item}
    (rounds : ∀ item ∈ items, Silent (step item)) :
    Silent (items.mapM step) := by
  induction items with
  | nil => exact Silent.pure []
  | cons item items inductionHypothesis =>
      rw [List.mapM_cons]
      refine (rounds item List.mem_cons_self).bind fun value => ?_
      have rest := inductionHypothesis fun later laterMem =>
        rounds later (List.mem_cons_of_mem _ laterMem)
      exact rest.bind fun values => Silent.pure _

end Silent

/-- A run that returns leaves one value in the output parameter, and a run that
gives up leaves the parameter as it was. -/
def Reports
    (memory : ℕ → Cell)
    (program : Scanner Cell Out α)
    (assigned : Out) : Prop :=
  ∀ out, program.output memory out =
    (program.result memory).elim out fun _ => assigned

namespace Reports

variable {assigned : Out}

/-- A run that returns after an assignment reports what was assigned. -/
theorem assign_pure (value : α) :
    Reports memory
      (Scanner.assign assigned >>= fun _ => Pure.pure value) assigned :=
  fun _ => rfl

/-- A silent part before a report changes nothing. -/
theorem silent_bind
    {program : Scanner Cell Out α}
    {next : α → Scanner Cell Out β}
    (silent : Silent program)
    (reports : ∀ value, program.result memory = some value →
      Reports memory (next value) assigned) :
    Reports memory (program >>= next) assigned := by
  intro out
  rw [output_bind, silent, result_bind]
  cases returned : program.result memory with
  | none => rfl
  | some value => exact reports value returned out

/-- Returning a different value does not change the report. -/
theorem bind_pure
    {program : Scanner Cell Out α}
    (reports : Reports memory program assigned)
    (function : α → β) :
    Reports memory (program >>= fun value => Pure.pure (function value))
      assigned := by
  intro out
  rw [output_bind, result_bind, reports]
  cases program.result memory with
  | none => rfl
  | some value => rfl

end Reports

end Judgement

end Scanner
end StarterCpp
