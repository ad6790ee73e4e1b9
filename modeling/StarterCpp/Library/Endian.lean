import Mathlib.Algebra.Order.Ring.Nat
import Mathlib.Tactic.Ring

/-!
# Little-endian byte strings

A natural number is written as a fixed number of bytes, least significant
first, and a byte string is read back as a natural.  Reading inverts writing
modulo the width, and writing inverts reading at the same length.  Big-endian
layouts are the reversed lists.
-/

namespace StarterCpp
namespace Endian

/-- The low `width` bytes of a value, least significant first. -/
def toBytes : (width value : ℕ) → List UInt8
  | 0, _ => []
  | width + 1, value => UInt8.ofNat value :: toBytes width (value / 256)

/-- The value of a byte string whose first byte is the least significant. -/
def value : List UInt8 → ℕ
  | [] => 0
  | byte :: rest => byte.toNat + 256 * value rest

@[simp] theorem toBytes_zero (number : ℕ) : toBytes 0 number = [] := rfl

@[simp] theorem toBytes_succ (width number : ℕ) :
    toBytes (width + 1) number =
      UInt8.ofNat number :: toBytes width (number / 256) := rfl

@[simp] theorem value_nil : value [] = 0 := rfl

@[simp] theorem value_cons (byte : UInt8) (rest : List UInt8) :
    value (byte :: rest) = byte.toNat + 256 * value rest := rfl

@[simp] theorem length_toBytes (width number : ℕ) :
    (toBytes width number).length = width := by
  induction width generalizing number with
  | zero => rfl
  | succ width inductionHypothesis => simp [inductionHypothesis]

/-- A concatenation holds the second string in its upper bytes. -/
theorem value_append (first second : List UInt8) :
    value (first ++ second) =
      value first + 256 ^ first.length * value second := by
  induction first with
  | nil => simp
  | cons byte rest inductionHypothesis =>
      rw [List.cons_append, value_cons, value_cons, inductionHypothesis,
        List.length_cons, pow_succ']
      ring

/-- The upper bytes of a number are the number shifted down. -/
theorem toBytes_add (first second number : ℕ) :
    toBytes (first + second) number =
      toBytes first number ++ toBytes second (number / 256 ^ first) := by
  induction first generalizing number with
  | zero => simp
  | succ first inductionHypothesis =>
      rw [Nat.succ_add, toBytes_succ, toBytes_succ, inductionHypothesis,
        Nat.div_div_eq_div_mul, ← pow_succ', List.cons_append]

/-- A byte string of length `n` stands for a number below `256 ^ n`. -/
theorem value_lt (bytes : List UInt8) : value bytes < 256 ^ bytes.length := by
  induction bytes with
  | nil => simp
  | cons byte rest inductionHypothesis =>
      have small := byte.toNat_lt
      rw [value_cons, List.length_cons, pow_succ]
      omega

/-- Reading a written number returns it reduced to the width. -/
theorem value_toBytes (width number : ℕ) :
    value (toBytes width number) = number % 256 ^ width := by
  induction width generalizing number with
  | zero => simp [Nat.mod_one]
  | succ width inductionHypothesis =>
      rw [toBytes_succ, value_cons, inductionHypothesis, pow_succ',
        Nat.mod_mul, UInt8.toNat_ofNat']

/-- Writing the value of a byte string restores the byte string. -/
theorem toBytes_value (bytes : List UInt8) :
    toBytes bytes.length (value bytes) = bytes := by
  induction bytes with
  | nil => rfl
  | cons byte rest inductionHypothesis =>
      have small := byte.toNat_lt
      have headByte : UInt8.ofNat (byte.toNat + 256 * value rest) = byte := by
        apply UInt8.toNat.inj
        rw [UInt8.toNat_ofNat']
        omega
      have tailValue : (byte.toNat + 256 * value rest) / 256 = value rest := by
        omega
      rw [List.length_cons, toBytes_succ, value_cons, headByte, tailValue,
        inductionHypothesis]

/-- Only the low bytes of a number matter. -/
theorem toBytes_mod (width number : ℕ) :
    toBytes width (number % 256 ^ width) = toBytes width number := by
  have restored := toBytes_value (toBytes width number)
  rwa [length_toBytes, value_toBytes] at restored

end Endian
end StarterCpp
