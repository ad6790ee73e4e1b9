import Mathlib.Data.List.Basic
import Mathlib.Data.List.DropRight
import Mathlib.Data.List.Induction
import Mathlib.Data.List.Infix

/-!
# Histories

A history is the list of the outputs of a run so far.  An occurrence of an output
in a history that has grown lies in the old part or in the new one.  The window
that an occurrence opens lasts up to the first output that closes it.  The latest
reading of a history is that of the last output that has one.
-/

namespace StarterCpp
namespace History

variable {Output : Type*}

/-- An occurrence in an extended history is an old one or a new one. -/
theorem split_append
    {past emitted before during : List Output}
    {output : Output}
    (split : past ++ emitted = before ++ output :: during) :
    (∃ old, past = before ++ output :: old ∧ during = old ++ emitted) ∨
      ∃ new, emitted = new ++ output :: during ∧ before = past ++ new := by
  rcases List.append_eq_append_iff.mp split with
    ⟨new, rfl, tail⟩ | ⟨old, rfl, tail⟩
  · exact .inr ⟨new, tail, rfl⟩
  · cases old with
    | nil => exact .inr ⟨[], by simpa using tail.symm, by simp⟩
    | cons first old =>
        obtain ⟨rfl, rfl⟩ := List.cons.inj tail
        exact .inl ⟨old, rfl, rfl⟩

/-- The outputs of a window: those before the first that closes it. -/
def window (closes : Output → Bool) (during : List Output) : List Output :=
  during.takeWhile fun output => !closes output

/-- What follows a window, from the output that closes it on. -/
def afterWindow (closes : Output → Bool) (during : List Output) : List Output :=
  during.dropWhile fun output => !closes output

variable {closes : Output → Bool}
variable {during emitted : List Output}

/-- While nothing has closed a window, all of the extension counts. -/
theorem window_append_of_open
    (stillOpen : during.any closes = false) :
    window closes (during ++ emitted) = during ++ window closes emitted := by
  apply List.takeWhile_append_of_pos
  simpa using stillOpen

theorem afterWindow_append_of_open
    (stillOpen : during.any closes = false) :
    afterWindow closes (during ++ emitted) = afterWindow closes emitted := by
  apply List.dropWhile_append_of_pos
  simpa using stillOpen

/-- A window that is closed stays as it is. -/
theorem window_append_of_closed
    (closed : during.any closes = true) :
    window closes (during ++ emitted) = window closes during := by
  induction during with
  | nil => simp at closed
  | cons first during inductionHypothesis =>
      cases here : closes first with
      | true => simp [window, here]
      | false =>
          have closedLater : during.any closes = true := by
            simpa [here] using closed
          simpa [window, here] using inductionHypothesis closedLater

theorem afterWindow_append_of_closed
    (closed : during.any closes = true) :
    afterWindow closes (during ++ emitted) =
      afterWindow closes during ++ emitted := by
  induction during with
  | nil => simp at closed
  | cons first during inductionHypothesis =>
      cases here : closes first with
      | true => simp [afterWindow, here]
      | false =>
          have closedLater : during.any closes = true := by
            simpa [here] using closed
          simpa [afterWindow, here] using inductionHypothesis closedLater

/-- An extension that closes nothing lies in a window as a whole. -/
theorem window_of_open (stillOpen : during.any closes = false) :
    window closes during = during := by
  rw [window, List.takeWhile_eq_self_iff]
  simpa using stillOpen

theorem afterWindow_of_open (stillOpen : during.any closes = false) :
    afterWindow closes during = [] := by
  rw [afterWindow, List.dropWhile_eq_nil_iff]
  simpa using stillOpen

/-! ## The latest output -/

section Latest

variable {Reading : Type*}
variable {reading : Output → Option Reading}
variable {past : List Output}
variable {output : Output}

/-- The reading of the last output that has one. -/
def latest (reading : Output → Option Reading) (history : List Output) :
    Option Reading :=
  (history.filterMap reading).getLast?

@[simp] theorem latest_nil : latest reading [] = none :=
  rfl

/-- An output with a reading sets the latest one. -/
theorem latest_concat_some
    {value : Reading}
    (reads : reading output = some value) :
    latest reading (past ++ [output]) = some value := by
  simp [latest, List.filterMap_append, reads]

/-- An output without a reading leaves the latest one. -/
theorem latest_concat_none (silent : reading output = none) :
    latest reading (past ++ [output]) = latest reading past := by
  simp [latest, List.filterMap_append, silent]

/-- Outputs without a reading leave the latest one. -/
theorem latest_append_of_forall
    (past : List Output)
    {emitted : List Output}
    (silent : ∀ output ∈ emitted, reading output = none) :
    latest reading (past ++ emitted) = latest reading past := by
  rw [latest, List.filterMap_append, List.filterMap_eq_nil_iff.mpr silent,
    List.append_nil, latest]

/-- The outputs after the last one that begins a new period. -/
def since (begins : Output → Bool) (history : List Output) : List Output :=
  history.rtakeWhile fun output => !begins output

variable {begins : Output → Bool}

theorem since_concat_true (begun : begins output = true) :
    since begins (past ++ [output]) = [] := by
  simp [since, begun]

theorem since_concat_false (continues : begins output = false) :
    since begins (past ++ [output]) = since begins past ++ [output] := by
  simp [since, continues]

/-- The current period is the end of the history. -/
theorem since_suffix (history : List Output) : since begins history <:+ history :=
  List.rtakeWhile_suffix _ _

/-- Outputs that begin no new period belong to the current one. -/
theorem since_append_of_forall
    (past : List Output)
    {emitted : List Output}
    (continues : ∀ output ∈ emitted, begins output = false) :
    since begins (past ++ emitted) = since begins past ++ emitted := by
  induction emitted using List.reverseRecOn with
  | nil => simp
  | append_singleton emitted output inductionHypothesis =>
      rw [← List.append_assoc, since_concat_false (continues output (by simp)),
        inductionHypothesis fun earlier member => continues earlier (by simp [member]),
        List.append_assoc]

end Latest

end History
end StarterCpp
