import Sagittarius.Backtest.PaperExchange

set_option autoImplicit false

namespace Sagittarius

abbrev EquityCurve (α : Type) := List (ℤ × α)

-- The ratios that need a real power (Sharpe, Sortino, Calmar) are not modelled.
structure BacktestMetrics (α : Type) where
  netProfit : α
  netProfitPercent : α
  grossProfit : α
  grossLoss : α
  maxDrawdownPercent : α
  totalClosedTrades : ℕ
  percentProfitable : α
  -- none stands for infinity
  profitFactor : Option α
  avgTrade : α
  avgWinningTrade : α
  avgLosingTrade : α
  largestWinningTrade : α
  largestLosingTrade : α
  totalFeesPaid : α
  avgBarsPerTrade : α
  hasHighFeeRatio : Bool
  hasHighTradeFrequency : Bool
  maxDrawdownDurationBars : ℕ
  maxConsecutiveWins : ℕ
  maxConsecutiveLosses : ℕ
deriving DecidableEq

variable {α : Type} [PyFloat α]

def truthy (value : α) : Bool := ¬ PyFloat.Equal value (PyFloat.ofInt 0)

def maxDrawdownPercent (equityCurve : EquityCurve α) : α :=
  match equityCurve with
  | [] => PyFloat.literal 0
  | (_, first) :: _ =>
      (equityCurve.foldl
        (fun (peak, maxDrawdown) (_, equity) =>
          if peak < equity then (equity, maxDrawdown)
          else if truthy peak then
            (peak, PyFloat.larger maxDrawdown ((peak - equity) / peak * PyFloat.ofInt 100))
          else (peak, maxDrawdown))
        (first, PyFloat.literal 0)).2

def maxDrawdownDurationBars (equityCurve : EquityCurve α) : ℕ :=
  match equityCurve with
  | [] => 0
  | (_, first) :: _ =>
      (equityCurve.foldl
        (fun (peak, currentDuration, maxDuration) (_, equity) =>
          if peak ≤ equity then (equity, 0, maxDuration)
          else (peak, currentDuration + 1, max maxDuration (currentDuration + 1)))
        (first, 0, 0)).2.2

namespace BacktestMetrics

structure Streaks where
  currentWins : ℕ := 0
  currentLosses : ℕ := 0
  maxWins : ℕ := 0
  maxLosses : ℕ := 0

def Streaks.count (streaks : Streaks) (trade : Trade α) : Streaks :=
  let (wins, losses) :=
    if PyFloat.ofInt 0 < trade.pnl then (streaks.currentWins + 1, 0)
    else if trade.pnl < PyFloat.ofInt 0 then (0, streaks.currentLosses + 1)
    else (0, 0)
  { currentWins := wins
    currentLosses := losses
    maxWins := max streaks.maxWins wins
    maxLosses := max streaks.maxLosses losses }

def maxConsecutiveStreaks (trades : List (Trade α)) : ℕ × ℕ :=
  let streaks := trades.foldl Streaks.count {}
  (streaks.maxWins, streaks.maxLosses)

def winners (trades : List (Trade α)) : List (Trade α) := trades.filter fun trade => PyFloat.ofInt 0 < trade.pnl

def losers (trades : List (Trade α)) : List (Trade α) := trades.filter fun trade => trade.pnl < PyFloat.ofInt 0

def feeDominanceWarningRatio : α := PyFloat.literal (3 / 10)

def minBarsPerTradeWarningThreshold : α := PyFloat.literal 15

def compute (trades : List (Trade α)) (equityCurve : EquityCurve α) (initialBalance : α) : BacktestMetrics α :=
  let zero : α := PyFloat.literal 0
  match trades with
  | [] =>
      { netProfit := zero
        netProfitPercent := zero
        grossProfit := zero
        grossLoss := zero
        maxDrawdownPercent := Sagittarius.maxDrawdownPercent equityCurve
        totalClosedTrades := 0
        percentProfitable := zero
        profitFactor := some zero
        avgTrade := zero
        avgWinningTrade := zero
        avgLosingTrade := zero
        largestWinningTrade := zero
        largestLosingTrade := zero
        totalFeesPaid := zero
        avgBarsPerTrade := zero
        hasHighFeeRatio := false
        hasHighTradeFrequency := false
        maxDrawdownDurationBars := Sagittarius.maxDrawdownDurationBars equityCurve
        maxConsecutiveWins := 0
        maxConsecutiveLosses := 0 }
  | _ :: _ =>
      let won := (winners trades).map (·.pnl)
      let lost := (losers trades).map (·.pnl)
      let grossProfit := PyFloat.total won
      let grossLoss := PyFloat.total lost
      let netProfit := grossProfit + grossLoss
      let count (n : ℕ) : α := PyFloat.ofInt n
      let totalFeesPaid := PyFloat.total (trades.map (·.feesPaid))
      let avgBarsPerTrade := count equityCurve.length / count trades.length
      let (maxConsecutiveWins, maxConsecutiveLosses) := maxConsecutiveStreaks trades
      { netProfit, grossProfit, grossLoss, totalFeesPaid, avgBarsPerTrade, maxConsecutiveWins, maxConsecutiveLosses
        netProfitPercent := if truthy initialBalance then netProfit / initialBalance * PyFloat.ofInt 100 else zero
        maxDrawdownPercent := Sagittarius.maxDrawdownPercent equityCurve
        totalClosedTrades := trades.length
        percentProfitable := count won.length / count trades.length * PyFloat.ofInt 100
        profitFactor :=
          if truthy grossLoss then some (grossProfit / PyFloat.absolute grossLoss)
          else if PyFloat.ofInt 0 < grossProfit then none
          else some zero
        avgTrade := netProfit / count trades.length
        avgWinningTrade := if won.isEmpty then zero else grossProfit / count won.length
        avgLosingTrade := if lost.isEmpty then zero else grossLoss / count lost.length
        largestWinningTrade := won.head?.elim zero (PyFloat.largest · won.tail)
        largestLosingTrade := lost.head?.elim zero (PyFloat.smallest · lost.tail)
        hasHighFeeRatio := feeDominanceWarningRatio * PyFloat.absolute netProfit < totalFeesPaid
        hasHighTradeFrequency := avgBarsPerTrade < minBarsPerTradeWarningThreshold
        maxDrawdownDurationBars := Sagittarius.maxDrawdownDurationBars equityCurve }

end BacktestMetrics

structure BacktestResult (α : Type) where
  symbol : String
  initialBalance : α
  finalBalance : α
  trades : List (Trade α)
  equityCurve : EquityCurve α
  metrics : BacktestMetrics α
  committedBars : Option (List (MarketData α))
deriving DecidableEq

def BacktestResult.compute (symbol : String) (initialBalance finalBalance : α) (trades : List (Trade α))
    (equityCurve : EquityCurve α) (committedBars : Option (List (MarketData α)) := none) : BacktestResult α where
  metrics := BacktestMetrics.compute trades equityCurve initialBalance
  symbol
  initialBalance
  finalBalance
  trades
  equityCurve
  committedBars

end Sagittarius
