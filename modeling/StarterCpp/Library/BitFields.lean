import Mathlib.Algebra.Order.Ring.Nat
import Mathlib.Data.Nat.Bitwise
import Mathlib.Tactic.Ring

/-!
# Numbers built from disjoint bit fields

Code that assembles a word shifts each field into place and joins the fields
with a bitwise or.  When the fields do not overlap the join is a sum, so what is
packed can be taken apart again by division and remainder.
-/

namespace StarterCpp
namespace BitFields

/-- Joining a field below an aligned number adds it. -/
theorem or_eq_add
    (width : ℕ)
    {high low : ℕ}
    (aligned : 2 ^ width ∣ high)
    (small : low < 2 ^ width) :
    high ||| low = high + low := by
  obtain ⟨quotient, rfl⟩ := aligned
  exact (Nat.two_pow_add_eq_or_of_lt small quotient).symm

/-- Masking with a run of low ones is a remainder. -/
theorem and_mask (width number : ℕ) :
    number &&& (2 ^ width - 1) = number % 2 ^ width :=
  Nat.and_two_pow_sub_one_eq_mod number width

/-- Masking with a run of ones above an index keeps the bits of the run. -/
theorem and_shifted_mask (low width number : ℕ) :
    number &&& (2 ^ width - 1) * 2 ^ low =
      number / 2 ^ low % 2 ^ width * 2 ^ low := by
  apply Nat.eq_of_testBit_eq
  intro index
  simp only [Nat.testBit_and, Nat.testBit_mul_two_pow,
    Nat.testBit_two_pow_sub_one, Nat.testBit_mod_two_pow,
    Nat.testBit_div_two_pow]
  by_cases above : low ≤ index
  · simp [above, Bool.and_comm]
  · simp [above]

/-- Testing a single bit with a mask. -/
theorem and_bit_ne_zero (number index : ℕ) :
    number &&& 2 ^ index ≠ 0 ↔ number.testBit index = true := by
  rw [Nat.and_two_pow]
  cases number.testBit index <;> simp

end BitFields
end StarterCpp
