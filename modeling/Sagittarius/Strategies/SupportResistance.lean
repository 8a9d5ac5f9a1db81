import Sagittarius.Strategies.Context

set_option autoImplicit false

namespace Sagittarius

variable {α : Type} [PyFloat α]

structure SupportResistanceInputs (α : Type) [PyFloat α] where
  lookbackPeriod : ℕ := 20
  breakoutPct : α := PyFloat.literal (1 / 10)
  useTrendFilter : Bool := true
  trendEmaPeriod : ℕ := 50
  exitOnMidline : Bool := true
  lookbackPeriodDeclared : 5 ≤ lookbackPeriod ∧ lookbackPeriod ≤ 200 := by decide
  breakoutPctDeclared : FloatInput (1 / 10) 0 5 breakoutPct := by exact .inl rfl
  trendEmaPeriodDeclared : 5 ≤ trendEmaPeriod ∧ trendEmaPeriod ≤ 300 := by decide

structure SupportResistanceStrategy (α : Type) [PyFloat α] where
  inputs : SupportResistanceInputs α
  prevWasBreakout : Bool

namespace SupportResistanceStrategy

def srKey : String := "sr_levels"

def trendEmaKey : String := "trend_ema"

def setup (inputs : SupportResistanceInputs α) : SupportResistanceStrategy α where
  inputs := inputs
  prevWasBreakout := false

def buildIndicators (strategy : SupportResistanceStrategy α) : List (String × Indicator α) :=
  [(srKey, .supportResistance (.build strategy.inputs.lookbackPeriod
      (by have := strategy.inputs.lookbackPeriodDeclared; omega))),
    (trendEmaKey, .ema (.build strategy.inputs.trendEmaPeriod
      (by have := strategy.inputs.trendEmaPeriodDeclared; omega)))]

def decide (strategy : SupportResistanceStrategy α) (context : StrategyContext α) :
    Except PyError (Decision α × SupportResistanceStrategy α) := do
  let sr ← context.levels srKey
  let trendEma ← context.number trendEmaKey
  let close := context.candle.closePrice
  let breakoutTarget := sr.resistance * (PyFloat.literal 1 + strategy.inputs.breakoutPct / PyFloat.literal 100)
  let isBreakout := breakoutTarget ≤ close
  let trendOk := !strategy.inputs.useTrendFilter || Decidable.decide (trendEma < close)
  if isBreakout ∧ trendOk then
    if !strategy.prevWasBreakout then
      return ({ action := .buy,
                reason := "Resistance breakout " ++ PyFloat.fixed 2 sr.resistance,
                metadata := [("resistance", .number sr.resistance), ("support", .number sr.support),
                  ("midline", .number sr.midline), ("trend_ema", .number trendEma)] },
        { strategy with prevWasBreakout := true })
    else return (.hold "in breakout mode", strategy)
  let next := { strategy with prevWasBreakout := false }
  if strategy.inputs.exitOnMidline ∧ close < sr.midline then
    return ({ action := .sell,
              reason := "Exit: dropped below Midline " ++ PyFloat.fixed 2 sr.midline,
              metadata := [("midline", .number sr.midline), ("close", .number close)] }, next)
  if close < sr.support then
    return ({ action := .sell,
              reason := "Exit: broke through Support " ++ PyFloat.fixed 2 sr.support,
              metadata := [("support", .number sr.support), ("close", .number close)] }, next)
  return (.hold, next)

end SupportResistanceStrategy

end Sagittarius
