import Mathlib.Data.Rat.Floor
import Mathlib.Tactic.NormNum

/-!
# Truncation

The conversion of a number with a fraction to an integer that C and C++ make: towards zero.
-/

namespace Truncation

def truncate (x : ℚ) : ℤ := if 0 ≤ x then ⌊x⌋ else ⌈x⌉

variable {x : ℚ}

theorem abs_truncate (x : ℚ) : |truncate x| = ⌊|x|⌋ := by
  unfold truncate
  by_cases hx : 0 ≤ x
  · rw [if_pos hx, abs_of_nonneg (Int.floor_nonneg.mpr hx), abs_of_nonneg hx]
  · have hneg : x ≤ 0 := le_of_not_ge hx
    have hceil : ⌈x⌉ ≤ 0 := Int.ceil_le.mpr (by simpa using hneg)
    rw [if_neg hx, abs_of_nonpos hceil, abs_of_nonpos hneg, Int.floor_neg]

theorem abs_truncate_lt_iff {n : ℤ} : |truncate x| < n ↔ |x| < n := by
  rw [abs_truncate, Int.floor_lt]

theorem truncate_eq_zero_iff : truncate x = 0 ↔ |x| < 1 := by
  have h : |truncate x| < 1 ↔ |x| < ((1 : ℤ) : ℚ) := abs_truncate_lt_iff
  rw [Int.cast_one] at h
  rw [← h, Int.abs_lt_one_iff]

end Truncation
