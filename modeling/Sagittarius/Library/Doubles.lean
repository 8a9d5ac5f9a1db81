import Mathlib.Algebra.Order.Field.Basic
import Mathlib.Tactic.Positivity
import Sagittarius.Library.Python

set_option autoImplicit false

namespace Rat

def doubleScale (q : ℚ) : ℕ :=
  if 1 ≤ |q| then 52 - Nat.log2 ⌊|q|⌋.toNat else 53 + Nat.log2 (⌈|q|⁻¹⌉.toNat - 1)

-- The nearest binary64 number, half to even, of a number below 2 ^ 53 in size
-- that is not subnormal.
def toDouble (q : ℚ) : ℚ := roundHalfEven (q * 2 ^ doubleScale q) / 2 ^ doubleScale q

theorem le_to_double (z : ℤ) (q : ℚ) (below : (z : ℚ) ≤ q) : (z : ℚ) ≤ toDouble q := by
  have scale : (0 : ℚ) < 2 ^ doubleScale q := by positivity
  rw [toDouble, le_div_iff₀ scale]
  have scaled : ((z * 2 ^ doubleScale q : ℤ) : ℚ) ≤ q * 2 ^ doubleScale q := by
    push_cast
    exact mul_le_mul_of_nonneg_right below scale.le
  have rounded : ((z * 2 ^ doubleScale q : ℤ) : ℚ) ≤ roundHalfEven (q * 2 ^ doubleScale q) :=
    Int.cast_le.mpr (le_round_half_even _ _ scaled)
  push_cast at rounded
  exact rounded

theorem to_double_le (z : ℤ) (q : ℚ) (above : q ≤ z) : toDouble q ≤ z := by
  have scale : (0 : ℚ) < 2 ^ doubleScale q := by positivity
  rw [toDouble, div_le_iff₀ scale]
  have scaled : q * 2 ^ doubleScale q ≤ ((z * 2 ^ doubleScale q : ℤ) : ℚ) := by
    push_cast
    exact mul_le_mul_of_nonneg_right above scale.le
  have rounded : (roundHalfEven (q * 2 ^ doubleScale q) : ℚ) ≤ ((z * 2 ^ doubleScale q : ℤ) : ℚ) :=
    Int.cast_le.mpr (round_half_even_le _ _ scaled)
  push_cast at rounded
  exact rounded

theorem to_double_int (z : ℤ) : toDouble z = z := le_antisymm (to_double_le z z le_rfl) (le_to_double z z le_rfl)

theorem truncated_between (z : ℤ) (q : ℚ) (below : (z : ℚ) ≤ q) (above : q ≤ z + 1) :
    z ≤ PyFloat.toInt (toDouble q) ∧ PyFloat.toInt (toDouble q) ≤ z + 1 := by
  have atLeast := le_to_double z q below
  have atMost : toDouble q ≤ ((z + 1 : ℤ) : ℚ) := to_double_le (z + 1) q (by push_cast; exact above)
  change z ≤ (if toDouble q < 0 then ⌈toDouble q⌉ else ⌊toDouble q⌋) ∧
    (if toDouble q < 0 then ⌈toDouble q⌉ else ⌊toDouble q⌋) ≤ z + 1
  split_ifs
  · exact ⟨Int.cast_le.mp (atLeast.trans (Int.le_ceil _)), Int.ceil_le.mpr atMost⟩
  · exact ⟨Int.le_floor.mpr atLeast, Int.cast_le.mp ((Int.floor_le _).trans atMost)⟩

theorem truncated_int (z : ℤ) : PyFloat.toInt (toDouble z) = z := by
  rw [to_double_int]
  change (if (z : ℚ) < 0 then ⌈(z : ℚ)⌉ else ⌊(z : ℚ)⌋) = z
  rw [Int.ceil_intCast, Int.floor_intCast, ite_self]

example : PyFloat.toInt (toDouble (19880899259999999 / 1000000)) = 19880899260 := by decide +kernel

end Rat
