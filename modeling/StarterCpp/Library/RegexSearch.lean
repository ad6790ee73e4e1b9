import StarterCpp.Library.RegexMatching

/-!
# Searching a text for a pattern

A text is searched from left to right.  A part of it in which no match begins is
passed over, and a match is followed by the search of the text after it.
-/

namespace StarterCpp
namespace Regex

variable {Symbol : Type*}
variable {pattern : Regex Symbol}
variable {found : Captures Symbol}

/-- No match begins in a part of a text, when the other part follows it. -/
def Passes (pattern : Regex Symbol) (lead rest : List Symbol) : Prop :=
  ∀ before after, lead = before ++ after → after ≠ [] →
    pattern.matchAt (after ++ rest) = none

namespace Passes

theorem head
    {first : Symbol}
    {lead rest : List Symbol}
    (passes : Passes pattern (first :: lead) rest) :
    pattern.matchAt (first :: (lead ++ rest)) = none :=
  passes [] (first :: lead) rfl (List.cons_ne_nil _ _)

theorem tail
    {first : Symbol}
    {lead rest : List Symbol}
    (passes : Passes pattern (first :: lead) rest) :
    Passes pattern lead rest := by
  intro before after split nonempty
  exact passes (first :: before) after (by rw [split]; rfl) nonempty

end Passes

/-! ## The first match -/

theorem search_append
    {lead rest : List Symbol}
    (passes : Passes pattern lead rest) :
    pattern.search (lead ++ rest) = pattern.search rest := by
  induction lead with
  | nil => rfl
  | cons head lead inductionHypothesis =>
      rw [List.cons_append, search, passes.head, Option.none_or]
      exact inductionHypothesis passes.tail

theorem search_of_matchAt
    {text rest : List Symbol}
    (matched : pattern.matchAt text = some (found, rest)) :
    pattern.search text = some (found, rest) := by
  cases text with
  | nil => exact matched
  | cons head text => rw [search, matched, Option.some_or]

theorem search_eq_none
    {text : List Symbol}
    (passes : Passes pattern text [])
    (empty : pattern.matchAt [] = none) :
    pattern.search text = none := by
  have searched := search_append passes
  rw [List.append_nil] at searched
  rw [searched]
  exact empty

/-! ## All matches -/

theorem findAll_eq_drop (skipped : ℕ) (text : List Symbol) :
    pattern.findAll skipped text = pattern.findAll 0 (text.drop skipped) := by
  induction text generalizing skipped with
  | nil => simp [findAll]
  | cons head text inductionHypothesis =>
      cases skipped with
      | zero => rfl
      | succ skipped => exact inductionHypothesis skipped

theorem findAll_append
    {lead rest : List Symbol}
    (passes : Passes pattern lead rest) :
    pattern.findAll 0 (lead ++ rest) = pattern.findAll 0 rest := by
  induction lead with
  | nil => rfl
  | cons head lead inductionHypothesis =>
      rw [List.cons_append, findAll, passes.head]
      exact inductionHypothesis passes.tail

theorem findAll_of_matchAt
    {consumed rest : List Symbol}
    (nonempty : consumed ≠ [])
    (matched : pattern.matchAt (consumed ++ rest) = some (found, rest)) :
    pattern.findAll 0 (consumed ++ rest) = found :: pattern.findAll 0 rest := by
  obtain ⟨head, consumed, rfl⟩ := List.exists_cons_of_ne_nil nonempty
  rw [List.cons_append] at matched ⊢
  have skipped : (consumed ++ rest).length - rest.length = consumed.length := by
    simp
  simp only [findAll, matched]
  rw [skipped, findAll_eq_drop, List.drop_left]

theorem findAll_eq_nil
    {text : List Symbol}
    (passes : Passes pattern text []) :
    pattern.findAll 0 text = [] := by
  have found := findAll_append passes
  rw [List.append_nil] at found
  rw [found]
  rfl

/-! ## Replacing -/

section Replace

variable {replacement : List Symbol}

theorem replaceAll_eq_drop (skipped : ℕ) (text : List Symbol) :
    pattern.replaceAll replacement skipped text =
      pattern.replaceAll replacement 0 (text.drop skipped) := by
  induction text generalizing skipped with
  | nil => simp [replaceAll]
  | cons head text inductionHypothesis =>
      cases skipped with
      | zero => rfl
      | succ skipped => exact inductionHypothesis skipped

theorem replaceAll_append
    {lead rest : List Symbol}
    (passes : Passes pattern lead rest) :
    pattern.replaceAll replacement 0 (lead ++ rest) =
      lead ++ pattern.replaceAll replacement 0 rest := by
  induction lead with
  | nil => rfl
  | cons head lead inductionHypothesis =>
      rw [List.cons_append, replaceAll, passes.head]
      exact congrArg (head :: ·) (inductionHypothesis passes.tail)

theorem replaceAll_of_matchAt
    {consumed rest : List Symbol}
    (nonempty : consumed ≠ [])
    (matched : pattern.matchAt (consumed ++ rest) = some (found, rest)) :
    pattern.replaceAll replacement 0 (consumed ++ rest) =
      replacement ++ pattern.replaceAll replacement 0 rest := by
  obtain ⟨head, consumed, rfl⟩ := List.exists_cons_of_ne_nil nonempty
  rw [List.cons_append] at matched ⊢
  have skipped : (consumed ++ rest).length - rest.length = consumed.length := by
    simp
  simp only [replaceAll, matched]
  rw [skipped, replaceAll_eq_drop, List.drop_left]

end Replace

end Regex
end StarterCpp
