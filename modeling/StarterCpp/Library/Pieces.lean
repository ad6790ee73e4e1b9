import Mathlib.Algebra.Order.Ring.Nat
import Mathlib.Data.List.TakeDrop

/-!
# Cutting a list into a head piece and equal pieces

The first piece of a list takes `head` items and every later piece takes
`size` items.  Enough consecutive pieces concatenate back to the list, which is
the whole correctness of a splitting loop that keeps a running offset.
-/

namespace StarterCpp
namespace Pieces

variable {α : Type*}

/-- The piece of the given index: a head piece first, equal pieces after. -/
def piece (head size : ℕ) (items : List α) : ℕ → List α
  | 0 => items.take head
  | index + 1 => (items.drop (head + index * size)).take size

@[simp] theorem piece_zero (head size : ℕ) (items : List α) :
    piece head size items 0 = items.take head := rfl

@[simp] theorem piece_succ (head size : ℕ) (items : List α) (index : ℕ) :
    piece head size items (index + 1) =
      (items.drop (head + index * size)).take size := rfl

/-- The first `count + 1` pieces concatenate to the prefix they cover. -/
theorem flatten_pieces
    (head size : ℕ)
    (items : List α)
    (count : ℕ) :
    ((List.range (count + 1)).map (piece head size items)).flatten =
      items.take (head + count * size) := by
  induction count with
  | zero => simp
  | succ count inductionHypothesis =>
      rw [List.range_succ, List.map_append, List.flatten_append,
        inductionHypothesis]
      simp only [List.map_cons, List.map_nil, List.flatten_cons,
        List.flatten_nil, List.append_nil, piece_succ]
      rw [← List.take_add]
      congr 1
      rw [Nat.succ_mul]
      omega

/-- Enough pieces concatenate to the whole list. -/
theorem flatten_pieces_of_covering
    {head size count : ℕ}
    {items : List α}
    (covering : items.length ≤ head + count * size) :
    ((List.range (count + 1)).map (piece head size items)).flatten = items := by
  rw [flatten_pieces, List.take_of_length_le covering]

/-- With a head piece of the common size, every piece is an equal chunk. -/
theorem piece_uniform (size : ℕ) (items : List α) (index : ℕ) :
    piece size size items index = (items.drop (index * size)).take size := by
  cases index with
  | zero => simp
  | succ index =>
      rw [piece_succ, Nat.succ_mul, Nat.add_comm]

end Pieces
end StarterCpp
