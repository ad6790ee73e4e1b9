import Mathlib.Data.List.Basic
import Mathlib.Data.List.Nodup

/-!
# Entries

A list of entries maps keys to contents: the first entry of a key counts.  Writing
to a key replaces its first entry, or adds one at the end.
-/

namespace StarterCpp
namespace Entries

variable {Key Content : Type*}
variable [BEq Key]

/-- Write to the entry of a key, the last one if there is none. -/
def assign (key : Key) (content : Content) :
    List (Key × Content) → List (Key × Content)
  | [] => [(key, content)]
  | entry :: entries =>
      if entry.1 == key then (key, content) :: entries
      else entry :: assign key content entries

variable [LawfulBEq Key]

/-- An entry that has been written is found. -/
theorem lookup_assign
    (key : Key)
    (content : Content)
    (entries : List (Key × Content)) :
    (assign key content entries).lookup key = some content := by
  induction entries with
  | nil => simp [assign]
  | cons entry entries inductionHypothesis =>
      rw [assign]
      split_ifs with same
      · simp
      · have other : (key == entry.1) = false := by
          simpa using fun equal => same (beq_iff_eq.mpr equal.symm)
        rw [List.lookup_cons, other]
        exact inductionHypothesis

/-- Writing to a key leaves the others. -/
theorem lookup_assign_of_ne
    {key other : Key}
    (apart : other ≠ key)
    (content : Content)
    (entries : List (Key × Content)) :
    (assign key content entries).lookup other = entries.lookup other := by
  have differ : (other == key) = false := beq_eq_false_iff_ne.mpr apart
  induction entries with
  | nil => simp [assign, apart]
  | cons entry entries inductionHypothesis =>
      rw [assign]
      split_ifs with same
      · rw [List.lookup_cons, List.lookup_cons, beq_iff_eq.mp same, differ]
      · rw [List.lookup_cons, List.lookup_cons, inductionHypothesis]

/-- The last content written to a key counts. -/
theorem assign_assign
    (key : Key)
    (first second : Content)
    (entries : List (Key × Content)) :
    assign key second (assign key first entries) = assign key second entries := by
  induction entries with
  | nil => simp [assign]
  | cons entry entries inductionHypothesis =>
      by_cases same : entry.1 = key
      · simp [assign, same]
      · simp [assign, same, inductionHypothesis]

section Position

variable {key : Key}
variable {done : List (Key × Content)}
variable (new : key ∉ done.map Prod.fst)

include new

/-- An entry behind entries of other keys is written in place. -/
theorem assign_append
    (initial content : Content)
    (rest : List (Key × Content)) :
    assign key content (done ++ (key, initial) :: rest) =
      done ++ (key, content) :: rest := by
  induction done with
  | nil => simp [assign]
  | cons entry done inductionHypothesis =>
      rw [List.map_cons, List.mem_cons, not_or] at new
      have other : ¬entry.1 == key := fun same => new.1 (beq_iff_eq.mp same).symm
      rw [List.cons_append, assign, if_neg other, inductionHypothesis new.2,
        List.cons_append]

/-- An entry behind entries of other keys is found. -/
theorem lookup_append
    (content : Content)
    (rest : List (Key × Content)) :
    (done ++ (key, content) :: rest).lookup key = some content := by
  induction done with
  | nil => simp
  | cons entry done inductionHypothesis =>
      rw [List.map_cons, List.mem_cons, not_or] at new
      have other : (key == entry.1) = false := beq_eq_false_iff_ne.mpr new.1
      rw [List.cons_append, List.lookup_cons, other]
      exact inductionHypothesis new.2

end Position

/-- An entry is found when no key is repeated. -/
theorem lookup_of_mem
    {entries : List (Key × Content)}
    (distinct : (entries.map Prod.fst).Nodup)
    {key : Key}
    {content : Content}
    (member : (key, content) ∈ entries) :
    entries.lookup key = some content := by
  obtain ⟨before, after, rfl⟩ := List.append_of_mem member
  rw [List.map_append, List.map_cons] at distinct
  apply lookup_append
  intro earlier
  exact (List.nodup_append.mp distinct).2.2 _ earlier _ List.mem_cons_self rfl

/-- The element of a key that no other element has. -/
theorem find?_of_mem
    {Element Name : Type*}
    [DecidableEq Name]
    {name : Element → Name}
    {elements : List Element}
    (distinct : (elements.map name).Nodup)
    {element : Element}
    (member : element ∈ elements) :
    elements.find? (fun other => name other = name element) = some element := by
  induction elements with
  | nil => cases member
  | cons first elements inductionHypothesis =>
      rw [List.map_cons, List.nodup_cons] at distinct
      rcases List.mem_cons.mp member with rfl | later
      · exact List.find?_cons_of_pos (by simp)
      · have other : name first ≠ name element := fun same =>
          distinct.1 (same ▸ List.mem_map_of_mem later)
        rw [List.find?_cons_of_neg (by simpa using other)]
        exact inductionHypothesis distinct.2 later

end Entries
end StarterCpp
