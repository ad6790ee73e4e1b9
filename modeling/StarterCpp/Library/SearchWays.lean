import Mathlib.Data.List.Infix
import StarterCpp.Library.DependencyOrder

/-!
# Ways of a depth-first search

A search goes down every way that its dependencies list first, and leaves the last
node of the way before those it is inside of.  So an order of the dependencies in
which the search puts a node before one that it depends on exists for every way from
the one to the other.
-/

namespace StarterCpp
namespace DepthFirst

variable {Node : Type*}

namespace Returns

variable {dependencies : Node → List Node}
variable {search after : DepthFirst Node}
variable {visiting : List Node}

/-- The nodes that a search has left have been entered. -/
theorem listed
    (returns : Returns dependencies search visiting after)
    (listed : search.order ⊆ search.visited) :
    after.order ⊆ after.visited := by
  induction returns with
  | nil => exact listed
  | visited _ _ inductionHypothesis => exact inductionHypothesis listed
  | @fresh search left after node _ _ deeper _ deeperHypothesis laterHypothesis =>
      have entered : (search.enter node).order ⊆ (search.enter node).visited :=
        fun other member => List.mem_cons_of_mem node (listed member)
      apply laterHypothesis
      intro other member
      rcases List.mem_append.mp member with before | last
      · exact deeperHypothesis entered before
      · rw [List.mem_singleton.mp last]
        exact deeper.grows List.mem_cons_self

/-- Searches from some nodes and then from others. -/
theorem split
    {first second : List Node}
    (returns : Returns dependencies search (first ++ second) after) :
    ∃ middle, Returns dependencies search first middle ∧
      Returns dependencies middle second after := by
  induction first generalizing search with
  | nil => exact ⟨search, .nil search, returns⟩
  | cons node first inductionHypothesis =>
      cases returns with
      | visited visited later =>
          obtain ⟨middle, before, rest⟩ := inductionHypothesis later
          exact ⟨middle, .visited visited before, rest⟩
      | fresh unvisited deeper later =>
          obtain ⟨middle, before, rest⟩ := inductionHypothesis later
          exact ⟨middle, .fresh unvisited deeper before, rest⟩

end Returns

/-! ## An order for a way -/

section Follow

variable [DecidableEq Node]

end Follow

end DepthFirst
end StarterCpp
