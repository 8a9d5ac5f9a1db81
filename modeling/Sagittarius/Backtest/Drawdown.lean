import Sagittarius.Backtest.BacktestResult
import Sagittarius.Library.Peaks

set_option autoImplicit false

namespace Sagittarius

def equities (equityCurve : EquityCurve ℚ) : List ℚ := equityCurve.map Prod.snd

def drawdowns (values : List ℚ) : Set ℚ :=
  Peaks.Worths (fun earlier => 0 < earlier) (fun earlier later => (earlier - later) / earlier) values

def drawdownStep (state : ℚ × ℚ) (point : ℤ × ℚ) : ℚ × ℚ :=
  if state.1 < point.2 then (point.2, state.2)
  else if truthy state.1 then
    (state.1, PyFloat.larger state.2 ((state.1 - point.2) / state.1 * PyFloat.ofInt 100))
  else state

def durationStep (state : ℚ × ℕ × ℕ) (point : ℤ × ℚ) : ℚ × ℕ × ℕ :=
  if state.1 ≤ point.2 then (point.2, 0, state.2.2)
  else (state.1, state.2.1 + 1, max state.2.2 (state.2.1 + 1))

theorem max_drawdown_fold (first : ℤ × ℚ) (rest : EquityCurve ℚ) :
    maxDrawdownPercent (first :: rest) = ((first :: rest).foldl drawdownStep (first.2, 0)).2 := rfl

theorem duration_fold (first : ℤ × ℚ) (rest : EquityCurve ℚ) :
    maxDrawdownDurationBars (first :: rest) = ((first :: rest).foldl durationStep (first.2, 0, 0)).2.2 := rfl

theorem drop_grows (low high later : ℚ) (positive : 0 < low) (ordered : low ≤ high) (nonneg : 0 ≤ later) :
    (low - later) / low ≤ (high - later) / high := by
  have positiveToo : 0 < high := lt_of_lt_of_le positive ordered
  rw [div_le_div_iff₀ positive positiveToo]
  have scaled : later * low ≤ later * high := mul_le_mul_of_nonneg_left ordered nonneg
  linarith

structure DrawdownState (values : List ℚ) (state : ℚ × ℚ) : Prop where
  peak : IsGreatest {value | value ∈ values} state.1
  positive : 0 < state.1
  deepest : ∃ depth, IsGreatest (drawdowns values) depth ∧ 0 ≤ depth ∧ state.2 = 100 * depth

theorem drawdown_step (values : List ℚ) (state : ℚ × ℚ) (point : ℤ × ℚ) (nonneg : 0 ≤ point.2)
    (holds : DrawdownState values state) : DrawdownState (values ++ [point.2]) (drawdownStep state point) := by
  obtain ⟨peak, positive, depth, greatest, atLeast, percent⟩ := holds
  have nextPeak := Peaks.peak_append values point.2 state.1 peak
  have nextPositive : 0 < max state.1 point.2 := lt_of_lt_of_le positive (le_max_left _ _)
  have nextDepth := Peaks.worths_append (fun earlier => 0 < earlier) (fun earlier later => (earlier - later) / earlier)
    values point.2 (max state.1 point.2) depth greatest nextPeak.1 nextPositive
    (fun value inside above => drop_grows value _ point.2 above (nextPeak.2 inside) nonneg)
  rw [drawdownStep]
  by_cases rises : state.1 < point.2
  · rw [if_pos rises]
    rw [max_eq_right rises.le] at nextPeak nextPositive nextDepth
    rw [sub_self, zero_div, max_eq_left atLeast] at nextDepth
    exact ⟨nextPeak, nextPositive, depth, nextDepth, atLeast, percent⟩
  · rw [if_neg rises]
    have isTruthy : truthy state.1 = true := by
      rw [truthy, decide_eq_true_eq, rat_equal]
      exact positive.ne'
    rw [if_pos isTruthy]
    rw [max_eq_left (not_lt.mp rises)] at nextPeak nextPositive nextDepth
    refine ⟨nextPeak, nextPositive, _, nextDepth, le_max_of_le_left atLeast, ?_⟩
    change PyFloat.larger state.2 _ = _
    rw [rat_larger, percent, rat_of_int, mul_max_of_nonneg _ _ (by norm_num : (0 : ℚ) ≤ 100),
      mul_comm 100 ((state.1 - point.2) / state.1)]
    rfl

structure DurationState (values : List ℚ) (state : ℚ × ℕ × ℕ) : Prop where
  peak : IsGreatest {value | value ∈ values} state.1
  streaks : Peaks.Streaks (Peaks.Below values) values.length state.2.1 state.2.2

theorem duration_step (values : List ℚ) (state : ℚ × ℕ × ℕ) (point : ℤ × ℚ) (holds : DurationState values state) :
    DurationState (values ++ [point.2]) (durationStep state point) := by
  obtain ⟨peak, streaks⟩ := holds
  have nextPeak := Peaks.peak_append values point.2 state.1 peak
  have below := Peaks.below_last values point.2 state.1 peak
  have carried := Peaks.streaks_congr (Peaks.Below (values ++ [point.2])) _ _ _ (Peaks.below_append values point.2) streaks
  rw [durationStep]
  by_cases recovers : state.1 ≤ point.2
  · rw [if_pos recovers]
    rw [max_eq_right recovers] at nextPeak
    refine ⟨nextPeak, ?_⟩
    rw [List.length_append, List.length_singleton]
    exact Peaks.streaks_break _ _ _ carried (fun isBelow => absurd (below.mp isBelow) (not_lt.mpr recovers))
  · rw [if_neg recovers]
    rw [max_eq_left (not_le.mp recovers).le] at nextPeak
    refine ⟨nextPeak, ?_⟩
    rw [List.length_append, List.length_singleton]
    exact Peaks.streaks_extend _ _ _ carried (below.mpr (not_le.mp recovers))

theorem greatest_alone (value : ℚ) : IsGreatest {point | point ∈ [value]} value := by
  simp only [List.mem_singleton]
  exact isGreatest_singleton

-- The loops start with the first point, which is its own peak.
theorem drawdown_step_first (first : ℤ × ℚ) : drawdownStep (first.2, 0) first = (first.2, 0) := by
  rw [drawdownStep, if_neg (lt_irrefl _)]
  split_ifs
  · rw [sub_self, zero_div, zero_mul, rat_larger, max_self]
  · rfl

theorem drawdown_run (first : ℤ × ℚ) (rest : EquityCurve ℚ) (positive : 0 < first.2)
    (nonneg : ∀ point ∈ first :: rest, 0 ≤ point.2) :
    DrawdownState (equities (first :: rest)) ((first :: rest).foldl drawdownStep (first.2, 0)) := by
  induction rest using List.reverseRecOn with
  | nil =>
      have alone := Peaks.worths_singleton (fun earlier => 0 < earlier) (fun earlier later => (earlier - later) / earlier)
        first.2 positive
      rw [sub_self, zero_div] at alone
      rw [List.foldl_cons, List.foldl_nil, drawdown_step_first first]
      exact ⟨greatest_alone first.2, positive, 0, alone, le_refl 0, (mul_zero 100).symm⟩
  | append_singleton rest point ih =>
      have before := ih fun point inside => nonneg point (List.mem_append_left _ inside)
      rw [← List.cons_append, List.foldl_append, equities, List.map_append]
      exact drawdown_step _ _ point (nonneg point (by simp)) before

theorem duration_run (first : ℤ × ℚ) (rest : EquityCurve ℚ) :
    DurationState (equities (first :: rest)) ((first :: rest).foldl durationStep (first.2, 0, 0)) := by
  induction rest using List.reverseRecOn with
  | nil =>
      have unbelow : ¬ Peaks.Below [first.2] 0 := by
        rw [← List.nil_append [first.2], Peaks.Below]
        simp
      rw [List.foldl_cons, List.foldl_nil, durationStep, if_pos (le_refl _)]
      exact ⟨greatest_alone first.2, Peaks.streaks_break 0 0 0 (Peaks.streaks_start _) unbelow⟩
  | append_singleton rest point ih =>
      rw [← List.cons_append, List.foldl_append, equities, List.map_append]
      exact duration_step _ _ point ih

theorem drawdown_zero (values : List ℚ) (depth : ℚ) (duration : ℕ) (nonneg : ∀ value ∈ values, 0 ≤ value)
    (deepest : IsGreatest (drawdowns values) depth) (atLeast : 0 ≤ depth)
    (longest : IsGreatest {length | Peaks.Streak (Peaks.Below values) values.length length} duration) :
    depth = 0 ↔ duration = 0 := by
  rw [Peaks.longest_zero values.length duration longest]
  constructor
  · intro flat index within below
    obtain ⟨earlier, later, follows, less⟩ := Peaks.below_follows values index below
    obtain ⟨i, j, ordered, isEarlier, isLater⟩ := follows
    have above : 0 < earlier := lt_of_le_of_lt (nonneg later (List.mem_of_getElem? isLater)) less
    have drop := deepest.2 ⟨earlier, later, ⟨i, j, ordered, isEarlier, isLater⟩, above, rfl⟩
    have sinks : 0 < (earlier - later) / earlier := div_pos (sub_pos.mpr less) above
    linarith
  · intro none
    obtain ⟨earlier, later, follows, above, isDepth⟩ := deepest.1
    have rises : earlier ≤ later := by
      by_contra sinks
      obtain ⟨index, within, below⟩ := Peaks.follows_below values earlier later follows (not_le.mp sinks)
      exact none index within below
    have drop : (earlier - later) / earlier ≤ 0 := div_nonpos_of_nonpos_of_nonneg (sub_nonpos.mpr rises) above.le
    linarith

theorem compute_drawdown (trades : List (Trade ℚ)) (equityCurve : EquityCurve ℚ) (initialBalance : ℚ) :
    (BacktestMetrics.compute trades equityCurve initialBalance).maxDrawdownPercent = maxDrawdownPercent equityCurve ∧
      (BacktestMetrics.compute trades equityCurve initialBalance).maxDrawdownDurationBars =
        maxDrawdownDurationBars equityCurve := by
  cases trades with
  | nil => exact ⟨rfl, rfl⟩
  | cons trade rest => exact ⟨rfl, rfl⟩

-- The one pass of each measure gives the greatest drop between any two points in
-- order and the longest streak below a peak; one is zero exactly if the other is.
theorem drawdown_measures_exact (trades : List (Trade ℚ)) (first : ℤ × ℚ) (rest : EquityCurve ℚ) (initialBalance : ℚ)
    (positive : 0 < first.2) (nonneg : ∀ point ∈ first :: rest, 0 ≤ point.2) :
    let metrics := BacktestMetrics.compute trades (first :: rest) initialBalance
    let values := equities (first :: rest)
    (∃ depth, IsGreatest (drawdowns values) depth ∧ metrics.maxDrawdownPercent = 100 * depth) ∧
      IsGreatest {length | Peaks.Streak (Peaks.Below values) values.length length} metrics.maxDrawdownDurationBars ∧
      (metrics.maxDrawdownPercent = 0 ↔ metrics.maxDrawdownDurationBars = 0) := by
  intro metrics values
  obtain ⟨percentOf, durationOf⟩ := compute_drawdown trades (first :: rest) initialBalance
  obtain ⟨_, _, depth, deepest, atLeast, percent⟩ := drawdown_run first rest positive nonneg
  have longest := (duration_run first rest).streaks.longest
  rw [← max_drawdown_fold, ← percentOf] at percent
  rw [← duration_fold, ← durationOf] at longest
  refine ⟨⟨depth, deepest, percent⟩, longest, ?_⟩
  have isNonneg : ∀ value ∈ values, 0 ≤ value := by
    intro value inside
    obtain ⟨point, isPoint, rfl⟩ := List.mem_map.mp inside
    exact nonneg point isPoint
  rw [← drawdown_zero values depth _ isNonneg deepest atLeast longest]
  change metrics.maxDrawdownPercent = 0 ↔ _
  rw [show metrics.maxDrawdownPercent = 100 * depth from percent, mul_eq_zero, or_iff_right (by norm_num)]

theorem unrecovered_drawdown_exact :
    let curve : EquityCurve ℚ := [(0, 100), (1, 90), (2, 100), (3, 80), (4, 85), (5, 80)]
    let metrics := BacktestMetrics.compute [] curve 100
    metrics.maxDrawdownPercent = 20 ∧ metrics.maxDrawdownDurationBars = 3 ∧
      (∃ depth, IsGreatest (drawdowns (equities curve)) depth ∧ metrics.maxDrawdownPercent = 100 * depth) ∧
      IsGreatest {length | Peaks.Streak (Peaks.Below (equities curve)) (equities curve).length length}
        metrics.maxDrawdownDurationBars ∧
      (metrics.maxDrawdownPercent = 0 ↔ metrics.maxDrawdownDurationBars = 0) :=
  ⟨by decide +kernel, by decide +kernel, drawdown_measures_exact [] (0, 100) _ 100 (by decide) (by decide +kernel)⟩

end Sagittarius
