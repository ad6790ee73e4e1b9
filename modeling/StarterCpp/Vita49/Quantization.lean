import StarterCpp.Vita49.SignalDataPacket

/-!
# Sixteen-bit samples in exact arithmetic

A component is multiplied by the scale factor, rounded, narrowed to 32 bits and
clamped to 16.  Within 32 bits the narrowing does nothing, so the written value
is the rounded product clamped to sixteen bits, and a component that is already
a sixteen-bit value over the scale factor is written as that value.
-/

namespace StarterCpp
namespace Vita49

namespace ExactArithmetic

theorem abs_sub_roundHalfAway (x : ℚ) : |x - roundHalfAway x| ≤ 1 / 2 := by
  unfold roundHalfAway
  split
  · exact abs_sub_round x
  · have near := abs_sub_round (-x)
    have mirrored : x - ((-round (-x) : ℤ) : ℚ) = -(-x - round (-x)) := by
      rw [Int.cast_neg]
      ring
    rwa [mirrored, abs_neg]

/-- Rounding a number below a bound stays at the bound, up to a half. -/
theorem abs_roundHalfAway_le
    {x bound : ℚ}
    (small : |x| ≤ bound) :
    |(roundHalfAway x : ℚ)| ≤ bound + 1 / 2 := by
  have near := abs_sub_roundHalfAway x
  have triangle := abs_sub_abs_le_abs_sub (roundHalfAway x : ℚ) x
  rw [abs_sub_comm] at triangle
  linarith

end ExactArithmetic

namespace SignalDataPacket

section AnyArithmetic

variable {F : Type} [FloatArithmetic F]

/-- Sixteen bits hold every clamped value. -/
theorem toInt_clamp (v : Int32) :
    (clamp v (-32768) 32767).toInt16.toInt =
      max (-32768) (min v.toInt 32767) := by
  have lowest : (Int32.toInt16 (-32768)).toInt = -32768 := by decide
  have highest : (Int32.toInt16 32767).toInt = 32767 := by decide
  unfold clamp
  split_ifs with below above
  · rw [Int32.lt_iff_toInt_lt] at below
    simp only [Int32.reduceToInt] at below
    rw [lowest]
    omega
  · rw [Int32.lt_iff_toInt_lt] at below above
    simp only [Int32.reduceToInt] at below above
    rw [highest]
    omega
  · rw [Int32.lt_iff_toInt_lt] at below above
    simp only [Int32.reduceToInt] at below above
    rw [Int32.toInt_toInt16, Int.bmod_eq_of_le (by omega) (by omega)]
    omega

/-- The written value is the rounded product, reduced to 32 bits and clamped. -/
theorem toInt_quantize (scaleFactor component : F) :
    (quantize scaleFactor component).toInt =
      max (-32768) (min
        ((FloatArithmetic.round (component * scaleFactor)).bmod (2 ^ 32))
        32767) := by
  have narrowed :
      (lroundf (component * scaleFactor)).toInt32.toInt =
        (FloatArithmetic.round (component * scaleFactor)).bmod (2 ^ 32) := by
    rw [Int64.toInt_toInt32, lroundf, Int64.toInt_ofInt]
    exact Int.bmod_bmod_of_dvd (by decide)
  rw [quantize, toInt_clamp, narrowed]

end AnyArithmetic

/-- The rounded product clamped to sixteen bits, over the scale factor. -/
def clampedValue (scaleFactor component : ℚ) : ℚ :=
  (max (-32768)
    (min (ExactArithmetic.roundHalfAway (component * scaleFactor)) 32767) : ℤ) /
      scaleFactor

/-- Narrowing does nothing to a rounded product within 32 bits. -/
theorem toInt_quantize_of_small
    {scaleFactor component : ℚ}
    (small : |component * scaleFactor| ≤ 2 ^ 30) :
    (quantize scaleFactor component).toInt =
      max (-32768)
        (min (ExactArithmetic.roundHalfAway (component * scaleFactor)) 32767) := by
  have bound := ExactArithmetic.abs_roundHalfAway_le small
  rw [abs_le] at bound
  have upper : ExactArithmetic.roundHalfAway (component * scaleFactor) <
      2 ^ 31 := by
    have strict : (ExactArithmetic.roundHalfAway (component * scaleFactor) : ℚ) <
        2 ^ 31 := by
      linarith [bound.2]
    exact_mod_cast strict
  have lower : -2 ^ 31 <
      ExactArithmetic.roundHalfAway (component * scaleFactor) := by
    have strict : -2 ^ 31 <
        (ExactArithmetic.roundHalfAway (component * scaleFactor) : ℚ) := by
      linarith [bound.1]
    exact_mod_cast strict
  rw [toInt_quantize, ExactArithmetic.round_eq,
    Int.bmod_eq_of_le (by omega) (by omega)]

/-- Sixteen-bit values over the scale factor are written as they are. -/
theorem quantize_dequantize
    {scaleFactor : ℚ}
    (nonzero : scaleFactor ≠ 0)
    (raw : Int16) :
    quantize scaleFactor
        ((raw.toInt : ℚ) * (((1 : ℤ) : ℚ) / scaleFactor)) = raw := by
  have product :
      (raw.toInt : ℚ) * (((1 : ℤ) : ℚ) / scaleFactor) * scaleFactor =
        (raw.toInt : ℤ) := by
    rw [Int.cast_one]
    field_simp
  have small := raw.toInt_lt
  have large := raw.le_toInt
  rw [← Int16.toInt_inj, toInt_quantize, product, ExactArithmetic.round_eq,
    ExactArithmetic.roundHalfAway_intCast,
    Int.bmod_eq_of_le (by omega) (by omega)]
  omega

end SignalDataPacket
end Vita49
end StarterCpp
