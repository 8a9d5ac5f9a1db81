import Sagittarius.Backtest.BacktestResult
import Sagittarius.Library.Runs

set_option autoImplicit false

namespace Sagittarius

namespace BacktestMetrics

section

variable {α : Type} [PyFloat α]

def Won (trade : Trade α) : Prop := PyFloat.ofInt 0 < trade.pnl

def Lost (trade : Trade α) : Prop := ¬ PyFloat.ofInt 0 < trade.pnl ∧ trade.pnl < PyFloat.ofInt 0

instance : DecidablePred (Won (α := α)) := fun _ => inferInstanceAs (Decidable (_ < _))

instance : DecidablePred (Lost (α := α)) := fun _ => inferInstanceAs (Decidable (_ ∧ _))

theorem count_wins (streaks : Streaks) (trade : Trade α) :
    ((streaks.count trade).currentWins, (streaks.count trade).maxWins) =
      Runs.streak Won (streaks.currentWins, streaks.maxWins) trade := by
  unfold Streaks.count Runs.streak Won
  by_cases won : PyFloat.ofInt 0 < trade.pnl
  · simp [won]
  · by_cases lost : trade.pnl < PyFloat.ofInt 0
    · simp [won, lost]
    · simp [won, lost]

theorem count_losses (streaks : Streaks) (trade : Trade α) :
    ((streaks.count trade).currentLosses, (streaks.count trade).maxLosses) =
      Runs.streak Lost (streaks.currentLosses, streaks.maxLosses) trade := by
  unfold Streaks.count Runs.streak Lost
  by_cases won : PyFloat.ofInt 0 < trade.pnl
  · simp [won]
  · by_cases lost : trade.pnl < PyFloat.ofInt 0
    · simp [won, lost]
    · simp [won, lost]

theorem streaks_in_passes (trades : List (Trade α)) (streaks : Streaks) :
    let counted := trades.foldl Streaks.count streaks
    (counted.currentWins, counted.maxWins) =
        trades.foldl (Runs.streak Won) (streaks.currentWins, streaks.maxWins) ∧
      (counted.currentLosses, counted.maxLosses) =
        trades.foldl (Runs.streak Lost) (streaks.currentLosses, streaks.maxLosses) := by
  induction trades generalizing streaks with
  | nil => exact ⟨rfl, rfl⟩
  | cons trade rest ih =>
      simp only [List.foldl_cons, ← count_wins, ← count_losses]
      exact ih (streaks.count trade)

-- The reported streaks are the longest unbroken sequences of wins and of
-- losses, whatever order the floats have.
theorem reported_streaks_longest (trades : List (Trade α)) (equityCurve : EquityCurve α) (initialBalance : α) :
    let metrics := compute trades equityCurve initialBalance
    IsGreatest { length | ∃ run, run <:+: trades ∧ (∀ trade ∈ run, Won trade) ∧ run.length = length }
        metrics.maxConsecutiveWins ∧
      IsGreatest { length | ∃ run, run <:+: trades ∧ (∀ trade ∈ run, Lost trade) ∧ run.length = length }
        metrics.maxConsecutiveLosses := by
  have computed : (compute trades equityCurve initialBalance).maxConsecutiveWins = (maxConsecutiveStreaks trades).1 ∧
      (compute trades equityCurve initialBalance).maxConsecutiveLosses = (maxConsecutiveStreaks trades).2 := by
    cases trades with
    | nil => exact ⟨rfl, rfl⟩
    | cons first rest => exact ⟨rfl, rfl⟩
  obtain ⟨wins, losses⟩ := streaks_in_passes trades {}
  have longestWins := Runs.streak_longest Won trades
  have longestLosses := Runs.streak_longest Lost trades
  rw [← wins] at longestWins
  rw [← losses] at longestLosses
  simp only [computed.1, computed.2]
  exact ⟨longestWins, longestLosses⟩

end

end BacktestMetrics

end Sagittarius
