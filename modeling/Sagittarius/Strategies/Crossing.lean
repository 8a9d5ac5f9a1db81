import Sagittarius.Strategies.Context

set_option autoImplicit false

namespace Sagittarius

variable {α : Type} [PyFloat α]

structure EmaCrossoverInputs where
  fastPeriod : ℕ := 12
  slowPeriod : ℕ := 26
  fastDeclared : 1 ≤ fastPeriod := by decide
  slowDeclared : 1 ≤ slowPeriod := by decide
deriving DecidableEq

structure EmaCrossoverStrategy (α : Type) where
  inputs : EmaCrossoverInputs
  fastSeries : Series α
  slowSeries : Series α
deriving DecidableEq

namespace EmaCrossoverStrategy

def fastKey : String := "ema_fast"

def slowKey : String := "ema_slow"

def setup (inputs : EmaCrossoverInputs) : EmaCrossoverStrategy α where
  inputs := inputs
  fastSeries := .fresh
  slowSeries := .fresh

def name (strategy : EmaCrossoverStrategy α) : String :=
  s!"EMA Crossover {strategy.inputs.fastPeriod}/{strategy.inputs.slowPeriod}"

def buildIndicators (strategy : EmaCrossoverStrategy α) : List (String × Indicator α) :=
  [(fastKey, .ema (.build strategy.inputs.fastPeriod strategy.inputs.fastDeclared)),
    (slowKey, .ema (.build strategy.inputs.slowPeriod strategy.inputs.slowDeclared))]

def decide (strategy : EmaCrossoverStrategy α) (context : StrategyContext α) :
    Except PyError (Decision α × EmaCrossoverStrategy α) := do
  let fast ← context.number fastKey
  let fastSeries := track strategy.fastSeries (some fast) context
  let slow ← context.number slowKey
  let slowSeries := track strategy.slowSeries (some slow) context
  let next := { strategy with fastSeries, slowSeries }
  if fastSeries.crossedAbove slowSeries then return (.buy (strategy.name ++ " crossed above"), next)
  if fastSeries.crossedBelow slowSeries then return (.sell (strategy.name ++ " crossed below"), next)
  return (.hold, next)

end EmaCrossoverStrategy

structure LongTermTrendZoneInputs where
  trendEmaLen : ℕ := 200
  trendEmaLenDeclared : 10 ≤ trendEmaLen ∧ trendEmaLen ≤ 500 := by decide
deriving DecidableEq

structure LongTermTrendZoneStrategy (α : Type) where
  inputs : LongTermTrendZoneInputs
  priceSeries : Series α
  emaSeries : Series α
deriving DecidableEq

namespace LongTermTrendZoneStrategy

def trendEmaKey : String := "trend_ema"

def setup (inputs : LongTermTrendZoneInputs) : LongTermTrendZoneStrategy α where
  inputs := inputs
  priceSeries := .fresh
  emaSeries := .fresh

def buildIndicators (strategy : LongTermTrendZoneStrategy α) : List (String × Indicator α) :=
  [(trendEmaKey, .ema (.build strategy.inputs.trendEmaLen
    (by have := strategy.inputs.trendEmaLenDeclared; omega)))]

def decide (strategy : LongTermTrendZoneStrategy α) (context : StrategyContext α) :
    Except PyError (Decision α × LongTermTrendZoneStrategy α) := do
  let priceSeries := track strategy.priceSeries (some context.candle.closePrice) context
  let trendEma ← context.number trendEmaKey
  let emaSeries := track strategy.emaSeries (some trendEma) context
  let next := { strategy with priceSeries, emaSeries }
  if priceSeries.crossedAbove emaSeries then return (.buy "Price crossed above the long-term trend EMA", next)
  if priceSeries.crossedBelow emaSeries then return (.sell "Price crossed below the long-term trend EMA", next)
  return (.hold, next)

def classifyTrendZone (_ : LongTermTrendZoneStrategy α) (context : StrategyContext α) :
    Except PyError (Option TrendZone) := do
  let trendEma ← context.number trendEmaKey
  if trendEma < context.candle.closePrice then return some .up
  if context.candle.closePrice < trendEma then return some .down
  return none

end LongTermTrendZoneStrategy

structure MultiEmaTrendFollowerInputs where
  fastPeriod : ℕ := 8
  midFastPeriod : ℕ := 21
  midSlowPeriod : ℕ := 50
  slowPeriod : ℕ := 200
  fastDeclared : 1 ≤ fastPeriod := by decide
  midFastDeclared : 1 ≤ midFastPeriod := by decide
  midSlowDeclared : 1 ≤ midSlowPeriod := by decide
  slowDeclared : 1 ≤ slowPeriod := by decide
deriving DecidableEq

structure MultiEmaTrendFollowerStrategy (α : Type) where
  inputs : MultiEmaTrendFollowerInputs
  fast : Series α
  midFast : Series α
  midSlow : Series α
  slow : Series α
  stacked : Series α
deriving DecidableEq

namespace MultiEmaTrendFollowerStrategy

def fastKey : String := "ema_fast"

def midFastKey : String := "ema_mid_fast"

def midSlowKey : String := "ema_mid_slow"

def slowKey : String := "ema_slow"

def setup (inputs : MultiEmaTrendFollowerInputs) : MultiEmaTrendFollowerStrategy α where
  inputs := inputs
  fast := .fresh
  midFast := .fresh
  midSlow := .fresh
  slow := .fresh
  stacked := .fresh

def name (strategy : MultiEmaTrendFollowerStrategy α) : String :=
  s!"Multi-EMA Trend Follower {strategy.inputs.fastPeriod}/{strategy.inputs.midFastPeriod}/" ++
    s!"{strategy.inputs.midSlowPeriod}/{strategy.inputs.slowPeriod}"

def stackedLevel : Series α := .constant (PyFloat.literal (1 / 2))

def buildIndicators (strategy : MultiEmaTrendFollowerStrategy α) : List (String × Indicator α) :=
  [(fastKey, .ema (.build strategy.inputs.fastPeriod strategy.inputs.fastDeclared)),
    (midFastKey, .ema (.build strategy.inputs.midFastPeriod strategy.inputs.midFastDeclared)),
    (midSlowKey, .ema (.build strategy.inputs.midSlowPeriod strategy.inputs.midSlowDeclared)),
    (slowKey, .ema (.build strategy.inputs.slowPeriod strategy.inputs.slowDeclared))]

def decide (strategy : MultiEmaTrendFollowerStrategy α) (context : StrategyContext α) :
    Except PyError (Decision α × MultiEmaTrendFollowerStrategy α) := do
  let fast := track strategy.fast (some (← context.number fastKey)) context
  let midFast := track strategy.midFast (some (← context.number midFastKey)) context
  let midSlow := track strategy.midSlow (some (← context.number midSlowKey)) context
  let slow := track strategy.slow (some (← context.number slowKey)) context
  let isStacked := fast.isAbove midFast && midFast.isAbove midSlow && midSlow.isAbove slow
  let stacked := track strategy.stacked (some (PyFloat.literal (if isStacked then 1 else 0))) context
  let next := { strategy with fast, midFast, midSlow, slow, stacked }
  if stacked.crossedAbove stackedLevel then return (.buy (strategy.name ++ " fully stacked"), next)
  if stacked.crossedBelow stackedLevel then return (.sell (strategy.name ++ " stacking broken"), next)
  return (.hold, next)

end MultiEmaTrendFollowerStrategy

end Sagittarius
