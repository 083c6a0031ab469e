import Mathlib.Algebra.Order.Round
import Mathlib.Data.Int.Log
import Mathlib.Data.Rat.Floor

/-! Sums of binary floats as rationals: the exact sum is rounded to 53 significant
digits, of two nearest to the even one. Exponents have no upper bound here. -/

set_option autoImplicit false

namespace DirectTransfer.Library

/-- The nearest integer, and the even one of two. -/
def roundHalfEven (value : Rat) : Int :=
  if Int.fract value = 1 / 2 ∧ ⌊value⌋ % 2 = 0 then ⌊value⌋ else round value

theorem abs_sub_roundHalfEven (value : Rat) : |value - roundHalfEven value| ≤ 1 / 2 := by
  unfold roundHalfEven
  split
  · next tie =>
      have fraction : value - ⌊value⌋ = 1 / 2 := tie.1
      rw [fraction, abs_of_pos one_half_pos]
  · exact abs_sub_round value

/-- How far apart the floats about a value are. -/
def floatSpacing (value : Rat) : Rat := 2 ^ max (Int.log 2 |value| - 52) (-1074)

theorem floatSpacing_pos (value : Rat) : 0 < floatSpacing value := zpow_pos two_pos _

def roundFloat (value : Rat) : Rat :=
  roundHalfEven (value / floatSpacing value) * floatSpacing value

/-- Rounding moves a value by half the spacing at most. -/
theorem abs_sub_roundFloat (value : Rat) :
    |value - roundFloat value| ≤ floatSpacing value / 2 := by
  have positive := floatSpacing_pos value
  have scaled : value - roundFloat value =
      (value / floatSpacing value - roundHalfEven (value / floatSpacing value)) *
        floatSpacing value := by
    rw [sub_mul, div_mul_cancel₀ _ positive.ne', roundFloat]
  rw [scaled, abs_mul, abs_of_pos positive]
  calc _ ≤ 1 / 2 * floatSpacing value :=
        mul_le_mul_of_nonneg_right (abs_sub_roundHalfEven _) positive.le
    _ = floatSpacing value / 2 := by ring

/-- `left + right` of two floats. -/
def floatAdd (left right : Rat) : Rat := roundFloat (left + right)

end DirectTransfer.Library
