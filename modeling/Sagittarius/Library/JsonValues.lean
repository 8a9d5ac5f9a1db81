import Sagittarius.Library.Decimals

set_option autoImplicit false

-- What Python's json module reads: objects are dicts, and a number is an int
-- of any size or a float, the special ones included.
namespace JsonValues

inductive Double
  | finite (value : ℚ)
  | infinity (negative : Bool)
  | nan
deriving DecidableEq

namespace Double

def lt : Double → Double → Bool
  | .nan, _ => false
  | _, .nan => false
  | .finite a, .finite b => a < b
  | .infinity s, .infinity t => s && !t
  | .infinity s, .finite _ => s
  | .finite _, .infinity t => !t

def le : Double → Double → Bool
  | .nan, _ => false
  | _, .nan => false
  | .finite a, .finite b => a ≤ b
  | .infinity s, .infinity t => s || !t
  | .infinity s, .finite _ => s
  | .finite _, .infinity t => !t

theorem lt_not_le (a b : Double) (less : lt a b = true) : le b a = false := by
  cases a with
  | nan => cases less
  | finite a =>
      cases b with
      | nan => cases less
      | finite b => simpa [lt, le] using less
      | infinity t => cases t <;> simp_all [lt, le]
  | infinity s =>
      cases b with
      | nan => cases s <;> cases less
      | finite b => cases s <;> simp_all [lt, le]
      | infinity t => cases s <;> cases t <;> simp_all [lt, le]

theorem not_lt_le_iff (a b : Double) (notLess : lt a b = false) : le b a = true ↔ a ≠ .nan ∧ b ≠ .nan := by
  cases a with
  | nan => cases b <;> simp [le]
  | finite a =>
      cases b with
      | nan => simp [le]
      | finite b => simpa [lt, le] using notLess
      | infinity t => cases t <;> simp_all [lt, le]
  | infinity s =>
      cases b with
      | nan => cases s <;> simp [le]
      | finite b => cases s <;> simp_all [lt, le]
      | infinity t => cases s <;> cases t <;> simp_all [lt, le]

end Double

inductive Number
  | int (value : ℤ)
  | float (value : Double)
deriving DecidableEq

namespace Number

def exact : Number → Double
  | .int value => .finite value
  | .float value => value

def lt (a b : Number) : Bool := a.exact.lt b.exact

def le (a b : Number) : Bool := a.exact.le b.exact

end Number

@[irreducible] def doubleLimit : ℕ := 2 ^ 1024

theorem double_limit_large : 2 ^ 53 < doubleLimit := by
  unfold doubleLimit
  exact pow_lt_pow_right₀ (by norm_num) (by norm_num)

-- `float` of an int: the nearest double, half to even, or none in range.
def toDouble (n : ℤ) : Option ℚ :=
  let excess := n.natAbs.log2 - 52
  let nearest := ((n : ℚ) / 2 ^ excess).roundHalfEven * 2 ^ excess
  if nearest.natAbs < doubleLimit then some nearest else none

theorem to_double_small (n : ℤ) (small : n.natAbs < 2 ^ 53) : toDouble n = some n := by
  have bits : n.natAbs.log2 - 52 = 0 := by
    rcases Nat.eq_zero_or_pos n.natAbs with zero | positive
    · rw [zero]
      rfl
    · have short := (Nat.log2_lt positive.ne').mpr small
      omega
  have inRange : n.natAbs < doubleLimit := small.trans double_limit_large
  simp [toDouble, bits, Rat.round_half_even_int, inRange]

inductive Value
  | null
  | bool (value : Bool)
  | number (value : Number)
  | string (value : String)
  | array (items : List Value)
  | object (members : List (String × Value))

end JsonValues
