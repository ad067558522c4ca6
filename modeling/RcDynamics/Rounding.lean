import Mathlib.Data.Int.Log
import Mathlib.Data.Rat.Floor
import Mathlib.Algebra.Order.Field.Basic
import Mathlib.Tactic.Linarith
import Mathlib.Tactic.FieldSimp
import Mathlib.Tactic.Ring
import Mathlib.Tactic.NormNum

/-!
# Rounding to a binary significand

A binary floating-point conversion replaces a rational by the nearest one whose significand
has a fixed number of bits, taking the even significand on a tie. The exponent range is left
open here: overflow and gradual underflow are outside this file. The relative error bound is
what comparisons of rounded values need.
-/

namespace Rounding

/-- The nearest integer, the even one of two equally near. -/
def roundHalfEven (x : ℚ) : ℤ :=
  let below := ⌊x⌋
  if x - below < 1 / 2 then below
  else if 1 / 2 < x - below then below + 1
  else if Even below then below else below + 1

/-- Rounding to an integer moves by at most one half. -/
theorem abs_roundHalfEven_sub_le (x : ℚ) : |(roundHalfEven x : ℚ) - x| ≤ 1 / 2 := by
  have lower := Int.floor_le x
  have upper := Int.lt_floor_add_one x
  unfold roundHalfEven
  simp only
  split_ifs with near far even
  all_goals
    rw [abs_le]
    push_cast
    constructor <;> linarith

/-- The weight of the last place of a significand of `precision` bits at the magnitude of `x`. -/
def lastPlace (precision : ℕ) (x : ℚ) : ℚ := (2 : ℚ) ^ (Int.log 2 |x| + 1 - precision)

/-- The nearest rational with a significand of `precision` bits, ties to even. -/
def roundBinary (precision : ℕ) (x : ℚ) : ℚ :=
  roundHalfEven (x / lastPlace precision x) * lastPlace precision x

/-- A last place weighs something. -/
theorem lastPlace_pos (precision : ℕ) (x : ℚ) : 0 < lastPlace precision x :=
  zpow_pos (by norm_num) _

/-- Half a last place is at most the value divided by the range of the significand. -/
theorem lastPlace_le (precision : ℕ) {x : ℚ} (nonzero : x ≠ 0) :
    lastPlace precision x / 2 ≤ |x| / 2 ^ precision := by
  have leading : (2 : ℚ) ^ Int.log 2 |x| ≤ |x| := by
    have bound := Int.zpow_log_le_self (b := 2) (by decide) (abs_pos.mpr nonzero)
    exact_mod_cast bound
  have split : lastPlace precision x / 2 = (2 : ℚ) ^ Int.log 2 |x| / 2 ^ precision := by
    unfold lastPlace
    rw [zpow_sub₀ (by norm_num : (2 : ℚ) ≠ 0), zpow_add₀ (by norm_num : (2 : ℚ) ≠ 0),
      zpow_one, zpow_natCast]
    ring
  rw [split]
  exact div_le_div_of_nonneg_right leading (by positivity)

/-- The relative error of rounding is at most one part in the range of the significand. -/
theorem abs_roundBinary_sub_le (precision : ℕ) (x : ℚ) :
    |roundBinary precision x - x| ≤ |x| / 2 ^ precision := by
  by_cases zero : x = 0
  · subst zero
    simp [roundBinary, roundHalfEven]
  · have positive := lastPlace_pos precision x
    have scaled := abs_roundHalfEven_sub_le (x / lastPlace precision x)
    have error : roundBinary precision x - x =
        (roundHalfEven (x / lastPlace precision x) - x / lastPlace precision x) *
          lastPlace precision x := by
      unfold roundBinary
      field_simp
    calc
      |roundBinary precision x - x| =
          |roundHalfEven (x / lastPlace precision x) - x / lastPlace precision x| *
            lastPlace precision x := by rw [error, abs_mul, abs_of_pos positive]
      _ ≤ 1 / 2 * lastPlace precision x := mul_le_mul_of_nonneg_right scaled positive.le
      _ = lastPlace precision x / 2 := by ring
      _ ≤ |x| / 2 ^ precision := lastPlace_le precision zero

example : roundBinary 24 (8 / 5) = 13421773 / 8388608 := by decide +kernel

end Rounding
