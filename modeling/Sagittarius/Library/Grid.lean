import Mathlib.Data.Int.Basic
import Mathlib.Algebra.Order.Ring.Int
import Mathlib.Order.Bounds.Basic
import Mathlib.Tactic.Ring

set_option autoImplicit false

-- Rounding integers to the multiples of a positive span.
namespace Grid

def floor (span t : ℤ) : ℤ := t - t % span

def ceil (span t : ℤ) : ℤ := floor span (t + span - 1)

section

-- Times `t` on a scale `unit` times as fine, rounded by way of a number of
-- units `n` less than one unit off.
variable (unit : ℤ) (finer : 0 < unit) (t n : ℤ) (near : t < n * unit + unit ∧ n * unit < t + unit)

include finer near

theorem units_le_iff (m : ℤ) : m * unit ≤ t ↔ m ≤ n ∧ ¬(m = n ∧ t < n * unit) := by
  constructor
  · intro atMost
    have below : m * unit < (n + 1) * unit := by
      rw [add_mul, one_mul]
      exact lt_of_le_of_lt atMost near.1
    refine ⟨Int.le_of_lt_add_one (lt_of_mul_lt_mul_right below finer.le), fun same => ?_⟩
    rw [same.1] at atMost
    exact absurd same.2 (not_lt.mpr atMost)
  · rintro ⟨atMost, proper⟩
    by_cases same : m = n
    · rw [same]
      exact not_lt.mp fun above => proper ⟨same, above⟩
    · have below : m + 1 ≤ n := lt_of_le_of_ne atMost same
      have scaled := Int.mul_le_mul_of_nonneg_right below finer.le
      rw [add_mul, one_mul] at scaled
      have apart := near.2
      omega

theorem units_ge_iff (m : ℤ) : t ≤ m * unit ↔ n ≤ m ∧ ¬(m = n ∧ n * unit < t) := by
  have mirrored : -t < -n * unit + unit ∧ -n * unit < -t + unit := by
    rw [Int.neg_mul]
    omega
  have below := units_le_iff unit finer (-t) (-n) mirrored (-m)
  rw [Int.neg_mul, Int.neg_mul, neg_le_neg_iff, neg_le_neg_iff, neg_lt_neg_iff, neg_inj] at below
  exact below

end

variable (span : ℤ) (positive : 0 < span)

theorem floor_eq_mul (t : ℤ) : floor span t = span * (t / span) := by
  have divided := Int.mul_ediv_add_emod t span
  unfold floor
  omega

theorem floor_dvd (t : ℤ) : span ∣ floor span t := ⟨t / span, floor_eq_mul span t⟩

theorem floor_of_multiple (t : ℤ) (onGrid : span ∣ t) : floor span t = t := by
  rw [floor, Int.emod_eq_zero_of_dvd onGrid, sub_zero]

include positive

theorem floor_contains (t : ℤ) : floor span t ≤ t ∧ t < floor span t + span := by
  have nonnegative := Int.emod_nonneg t positive.ne'
  have bounded := Int.emod_lt_of_pos t positive
  unfold floor
  omega

theorem floor_mono (s t : ℤ) (ordered : s ≤ t) : floor span s ≤ floor span t := by
  rw [floor_eq_mul, floor_eq_mul]
  exact Int.mul_le_mul_of_nonneg_left (Int.ediv_le_ediv positive ordered) positive.le

theorem floor_eq_iff (s t : ℤ) : floor span t = floor span s ↔ floor span s ≤ t ∧ t < floor span s + span := by
  constructor
  · intro same
    rw [← same]
    exact floor_contains span positive t
  · rintro ⟨after, before⟩
    rw [floor_eq_mul] at after before
    have quotient : t / span = s / span := by
      apply le_antisymm
      · have upper : t < (s / span + 1) * span := by
          calc t < span * (s / span) + span := before
            _ = (s / span + 1) * span := by ring
        have less := (Int.ediv_lt_iff_lt_mul positive).mpr upper
        omega
      · exact (Int.le_ediv_iff_mul_le positive).mpr (by rw [mul_comm]; exact after)
    rw [floor_eq_mul, floor_eq_mul, quotient]

theorem floor_lt_floor (s t : ℤ) (past : floor span s + span ≤ t) : floor span s < floor span t := by
  have inside := (floor_contains span positive t).2
  omega

theorem multiple_le_iff (t below : ℤ) (onGrid : span ∣ below) : below ≤ t ↔ below ≤ floor span t := by
  obtain ⟨m, rfl⟩ := onGrid
  rw [floor_eq_mul, mul_le_mul_iff_of_pos_left positive, Int.le_ediv_iff_mul_le positive, mul_comm]

theorem multiple_ge_iff (t above : ℤ) (onGrid : span ∣ above) : t ≤ above ↔ ceil span t ≤ above := by
  obtain ⟨m, rfl⟩ := onGrid
  have quotient : (t + span - 1) / span ≤ m ↔ t + span - 1 < (m + 1) * span := by
    rw [← Int.ediv_lt_iff_lt_mul positive, Int.lt_add_one_iff]
  have regrouped : (m + 1) * span = span * m + span := by ring
  rw [ceil, floor_eq_mul, mul_le_mul_iff_of_pos_left positive, quotient, regrouped]
  omega

theorem floor_greatest (t : ℤ) : IsGreatest {below | span ∣ below ∧ below ≤ t} (floor span t) :=
  ⟨⟨floor_dvd span t, (floor_contains span positive t).1⟩,
    fun below inside => (multiple_le_iff span positive t below inside.1).mp inside.2⟩

theorem ceil_least (t : ℤ) : IsLeast {above | span ∣ above ∧ t ≤ above} (ceil span t) :=
  ⟨⟨floor_dvd span _, (multiple_ge_iff span positive t _ (floor_dvd span _)).mpr le_rfl⟩,
    fun above inside => (multiple_ge_iff span positive t above inside.1).mp inside.2⟩

theorem ceil_of_multiple (t : ℤ) (onGrid : span ∣ t) : ceil span t = t :=
  le_antisymm ((multiple_ge_iff span positive t t onGrid).mp le_rfl) (ceil_least span positive t).1.2

theorem ceil_of_between (t : ℤ) (offGrid : ¬span ∣ t) : ceil span t = floor span t + span := by
  obtain ⟨contains, within⟩ := floor_contains span positive t
  have aligned := floor_dvd span t
  refine le_antisymm ((multiple_ge_iff span positive t _ (Int.dvd_add aligned (Int.dvd_refl span))).mp within.le) ?_
  obtain ⟨onGrid, above⟩ := (ceil_least span positive t).1
  have strict : floor span t < t := lt_of_le_of_ne contains fun same => offGrid (same ▸ aligned)
  have past : span ≤ ceil span t - floor span t := Int.le_of_dvd (by omega) (Int.dvd_sub onGrid aligned)
  omega

section

variable (unit : ℤ) (finer : 0 < unit) (t n : ℤ) (near : t < n * unit + unit ∧ n * unit < t + unit)

include finer near

theorem units_floor_iff :
    IsGreatest {below | span * unit ∣ below ∧ below ≤ t} (floor span n * unit) ↔ ¬(span ∣ n ∧ t < n * unit) := by
  constructor
  · rintro greatest ⟨onGrid, above⟩
    rw [floor_of_multiple span n onGrid] at greatest
    exact absurd greatest.1.2 (not_le.mpr above)
  · intro proper
    obtain ⟨⟨aligned, atMost⟩, largest⟩ := floor_greatest span positive n
    refine ⟨⟨Int.mul_dvd_mul_right unit aligned, ?_⟩, fun below inside => ?_⟩
    · refine (units_le_iff unit finer t n near _).mpr ⟨atMost, fun same => proper ⟨same.1 ▸ aligned, same.2⟩⟩
    · obtain ⟨⟨m, rfl⟩, inside⟩ := inside
      rw [mul_right_comm] at inside ⊢
      have bounded := ((units_le_iff unit finer t n near _).mp inside).1
      exact Int.mul_le_mul_of_nonneg_right (largest ⟨Int.dvd_mul_right span m, bounded⟩) finer.le

theorem units_ceil_iff :
    IsLeast {above | span * unit ∣ above ∧ t ≤ above} (ceil span n * unit) ↔ ¬(span ∣ n ∧ n * unit < t) := by
  constructor
  · rintro least ⟨onGrid, below⟩
    rw [ceil_of_multiple span positive n onGrid] at least
    exact absurd least.1.2 (not_le.mpr below)
  · intro proper
    obtain ⟨⟨aligned, atLeast⟩, smallest⟩ := ceil_least span positive n
    refine ⟨⟨Int.mul_dvd_mul_right unit aligned, ?_⟩, fun above inside => ?_⟩
    · refine (units_ge_iff unit finer t n near _).mpr ⟨atLeast, fun same => proper ⟨same.1 ▸ aligned, same.2⟩⟩
    · obtain ⟨⟨m, rfl⟩, inside⟩ := inside
      rw [mul_right_comm] at inside ⊢
      have bounded := ((units_ge_iff unit finer t n near _).mp inside).1
      exact Int.mul_le_mul_of_nonneg_right (smallest ⟨Int.dvd_mul_right span m, bounded⟩) finer.le

end

end Grid
