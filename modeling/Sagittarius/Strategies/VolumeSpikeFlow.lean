import Sagittarius.Strategies.Context

set_option autoImplicit false

namespace Sagittarius

variable {α : Type} [PyFloat α]

structure VolumeSpikeFlowInputs (α : Type) [PyFloat α] where
  baselineBars : ℕ := 60
  volumeSpikeMult : α := PyFloat.literal 4
  deltaImbalance : α := PyFloat.literal (4 / 10)
  fadeMode : Bool := false
  useTrendFilter : Bool := true
  trendEmaPeriod : ℕ := 200
  trailingStopPct : α := PyFloat.literal (1 / 2)
  baselineBarsDeclared : 5 ≤ baselineBars ∧ baselineBars ≤ 500 := by decide
  volumeSpikeMultDeclared : FloatInput 4 1 50 volumeSpikeMult := by exact .inl rfl
  deltaImbalanceDeclared : FloatInput (4 / 10) 0 1 deltaImbalance := by exact .inl rfl
  trendEmaPeriodDeclared : 5 ≤ trendEmaPeriod ∧ trendEmaPeriod ≤ 500 := by decide
  trailingStopPctDeclared : FloatInput (1 / 2) (5 / 100) 20 trailingStopPct := by exact .inl rfl

structure VolumeSpikeFlowStrategy (α : Type) [PyFloat α] where
  inputs : VolumeSpikeFlowInputs α
  volumeSeries : Series α
  bestPrice : Option α

namespace VolumeSpikeFlowStrategy

def trendEmaKey : String := "trend_ema"

def baselineHistoryMargin : ℕ := 1

def epsilon : α := PyFloat.literal (1 / 10 ^ 12)

def setup (inputs : VolumeSpikeFlowInputs α) : VolumeSpikeFlowStrategy α where
  inputs := inputs
  volumeSeries := .empty (inputs.baselineBars + baselineHistoryMargin)
    (by have := inputs.baselineBarsDeclared; simp only [minimumHistory, baselineHistoryMargin]; omega)
  bestPrice := none

def buildIndicators (strategy : VolumeSpikeFlowStrategy α) : List (String × Indicator α) :=
  [(trendEmaKey, .ema (.build strategy.inputs.trendEmaPeriod
    (by have := strategy.inputs.trendEmaPeriodDeclared; omega)))]

def baselineVolume (strategy : VolumeSpikeFlowStrategy α) (volumeSeries : Series α) : Option α :=
  if volumeSeries.length < strategy.inputs.baselineBars then none
  else
    let present := (List.range strategy.inputs.baselineBars).filterMap volumeSeries.committed
    if present.length < strategy.inputs.baselineBars then none
    else some (PyFloat.total present / PyFloat.ofInt present.length)

def orderFlowDelta (candle : MarketData α) : α :=
  if candle.volume ≤ epsilon then PyFloat.literal 0
  else
    let aggressiveBuy := candle.takerBuyBaseAssetVolume
    let aggressiveSell := candle.volume - aggressiveBuy
    (aggressiveBuy - aggressiveSell) / candle.volume

def goLong (inputs : VolumeSpikeFlowInputs α) (delta : α) : Bool :=
  xor (Decidable.decide (PyFloat.literal 0 < delta)) inputs.fadeMode

-- Why `_enter` holds although volume spiked with an imbalance, if it does.
def trendRefusal (inputs : VolumeSpikeFlowInputs α) (closePrice delta trendEma : α) : Option String :=
  if inputs.useTrendFilter then
    if goLong inputs delta && Decidable.decide (closePrice ≤ trendEma) then
      some "buy signal but price is below the trend EMA"
    else if !goLong inputs delta && Decidable.decide (trendEma ≤ closePrice) then
      some "sell signal but price is above the trend EMA"
    else none
  else none

def enter (strategy : VolumeSpikeFlowStrategy α) (candle : MarketData α) (delta baseline trendEma : α) :
    Decision α × VolumeSpikeFlowStrategy α :=
  match trendRefusal strategy.inputs candle.closePrice delta trendEma with
  | some reason => (.hold reason, strategy)
  | none =>
      let ratio := if epsilon < baseline then candle.volume / baseline else PyFloat.literal 0
      let direction := if PyFloat.literal 0 < delta then "buy" else "sell"
      let reason := "Volume x" ++ PyFloat.fixed 1 ratio ++ " of baseline, " ++ direction ++ " imbalance " ++
        PyFloat.percent (PyFloat.absolute delta) ++ if strategy.inputs.fadeMode then " (faded)" else ""
      ({ action := if goLong strategy.inputs delta then .buy else .short,
         reason := reason,
         metadata := [("volume_ratio", .number ratio), ("delta", .number delta), ("trend_ema", .number trendEma),
           ("fade_mode", .flag strategy.inputs.fadeMode)] },
        { strategy with bestPrice := some candle.closePrice })

def checkTrailingStop (strategy : VolumeSpikeFlowStrategy α) (context : StrategyContext α) :
    Option (Decision α) × VolumeSpikeFlowStrategy α :=
  let closePrice := context.candle.closePrice
  let threshold := strategy.inputs.trailingStopPct / PyFloat.literal 100
  let pct := PyFloat.fixed 2 strategy.inputs.trailingStopPct
  match context.currentPositionSide, strategy.bestPrice with
  | none, _ => (none, { strategy with bestPrice := none })
  | some _, none => (none, { strategy with bestPrice := some closePrice })
  | some .long, some previous =>
      let bestPrice := PyFloat.larger previous closePrice
      let stopPrice := bestPrice * (PyFloat.literal 1 - threshold)
      let next := { strategy with bestPrice := some bestPrice }
      if closePrice ≤ stopPrice then
        (some { action := .sell,
                reason := "Trailing stop: dropped " ++ pct ++ "% from peak " ++ PyFloat.fixed 2 bestPrice,
                metadata := [("best_price", .number bestPrice), ("stop_price", .number stopPrice)] }, next)
      else (none, next)
  | some .short, some previous =>
      let bestPrice := PyFloat.smaller previous closePrice
      let stopPrice := bestPrice * (PyFloat.literal 1 + threshold)
      let next := { strategy with bestPrice := some bestPrice }
      if stopPrice ≤ closePrice then
        (some { action := .cover,
                reason := "Trailing stop: bounced " ++ pct ++ "% from trough " ++ PyFloat.fixed 2 bestPrice,
                metadata := [("best_price", .number bestPrice), ("stop_price", .number stopPrice)] }, next)
      else (none, next)

-- The holds of `decide` between the trailing stop and `_enter`, for a flat
-- account; with none of them there is a spike over the baseline it returns.
def spike (inputs : VolumeSpikeFlowInputs α) (candle : MarketData α) (baseline : Option α) :
    Except String α :=
  match baseline with
  | none => .error "not enough baseline volume data yet"
  | some baseline =>
      if baseline ≤ epsilon ∨ candle.volume < baseline * inputs.volumeSpikeMult then .error "no signal"
      else if PyFloat.absolute (orderFlowDelta candle) < inputs.deltaImbalance then
        .error "volume spiked but buy/sell flow is balanced"
      else .ok baseline

def decide (strategy : VolumeSpikeFlowStrategy α) (context : StrategyContext α) :
    Except PyError (Decision α × VolumeSpikeFlowStrategy α) := do
  let candle := context.candle
  -- read before this bar is recorded
  let baseline := strategy.baselineVolume strategy.volumeSeries
  let recorded := { strategy with volumeSeries := track strategy.volumeSeries (some candle.volume) context }
  match recorded.checkTrailingStop context with
  | (some exitDecision, next) => return (exitDecision, next)
  | (none, next) =>
      if context.currentPositionSide.isSome then return (.hold "already holding a position", next)
      match spike strategy.inputs candle baseline with
      | .error reason => return (.hold reason, next)
      | .ok baseline =>
          let trendEma ← context.number trendEmaKey
          return next.enter candle (orderFlowDelta candle) baseline trendEma

end VolumeSpikeFlowStrategy

end Sagittarius
