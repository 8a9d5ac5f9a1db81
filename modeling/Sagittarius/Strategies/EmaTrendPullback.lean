import Sagittarius.Strategies.Context

set_option autoImplicit false

namespace Sagittarius

variable {α : Type} [PyFloat α]

def trendFlat : ℤ := 0

def trendUp : ℤ := 1

def trendDown : ℤ := -1

structure EmaTrendPullbackInputs (α : Type) [PyFloat α] where
  emaLongLen : ℕ := 200
  tickConfirm : ℕ := 5
  touchSensitivity : α := PyFloat.literal 0
  enableTouchReset : Bool := true
  enableTouchExit : Bool := true
  emaEntryLen : ℕ := 50
  pullbackSensitivity : α := PyFloat.literal (2 / 10)
  candleConfirmEntry : Bool := false
  takeProfitPercent : α := PyFloat.literal 2
  enableAlerts : Bool := true
  emaLongLenDeclared : 10 ≤ emaLongLen ∧ emaLongLen ≤ 500 := by decide
  tickConfirmDeclared : 1 ≤ tickConfirm ∧ tickConfirm ≤ 20 := by decide
  touchSensitivityDeclared : FloatInput 0 0 5 touchSensitivity := by exact .inl rfl
  emaEntryLenDeclared : 10 ≤ emaEntryLen ∧ emaEntryLen ≤ 500 := by decide
  pullbackSensitivityDeclared : FloatInput (2 / 10) (1 / 10) 3 pullbackSensitivity := by exact .inl rfl
  takeProfitPercentDeclared : FloatInput 2 (1 / 2) 20 takeProfitPercent := by exact .inl rfl

structure EmaTrendPullbackStrategy (α : Type) [PyFloat α] where
  inputs : EmaTrendPullbackInputs α
  trendSide : Series α
  consecutiveBars : Series α
  confirmedTrend : Series α
  low : Series α
  high : Series α

namespace EmaTrendPullbackStrategy

def emaLongKey : String := "ema_long"

def emaEntryKey : String := "ema_entry"

def setup (inputs : EmaTrendPullbackInputs α) : EmaTrendPullbackStrategy α where
  inputs := inputs
  trendSide := .fresh
  consecutiveBars := .fresh
  confirmedTrend := .fresh
  low := .fresh
  high := .fresh

def buildIndicators (strategy : EmaTrendPullbackStrategy α) : List (String × Indicator α) :=
  [(emaLongKey, .ema (.build strategy.inputs.emaLongLen
      (by have := strategy.inputs.emaLongLenDeclared; omega))),
    (emaEntryKey, .ema (.build strategy.inputs.emaEntryLen
      (by have := strategy.inputs.emaEntryLenDeclared; omega)))]

def above (level pct : α) : α := level * (PyFloat.ofInt 1 + pct / PyFloat.literal 100)

def below (level pct : α) : α := level * (PyFloat.ofInt 1 - pct / PyFloat.literal 100)

def touchesLong (inputs : EmaTrendPullbackInputs α) (candle : MarketData α) (emaLong : α) : Bool :=
  Decidable.decide (candle.lowPrice ≤ above emaLong inputs.touchSensitivity) &&
    Decidable.decide (below emaLong inputs.touchSensitivity ≤ candle.highPrice)

def previousInt (series : Series α) : ℤ := ((series.committed 0).map PyFloat.toInt).getD 0

def updateTrendConfirmation (strategy : EmaTrendPullbackStrategy α) (touches : Bool) (closePrice emaLong : α)
    (context : StrategyContext α) : ℤ × EmaTrendPullbackStrategy α :=
  let prevTrend := previousInt strategy.trendSide
  let prevConsecutive := previousInt strategy.consecutiveBars
  let prevConfirmed := previousInt strategy.confirmedTrend
  let (newTrend, newConsecutive, newConfirmed) :=
    if touches && strategy.inputs.enableTouchReset then (trendFlat, 0, trendFlat)
    else
      let (newTrend, newConsecutive) :=
        if emaLong < closePrice then (trendUp, if prevTrend = trendUp then prevConsecutive + 1 else 1)
        else if closePrice < emaLong then (trendDown, if prevTrend = trendDown then prevConsecutive + 1 else 1)
        else (prevTrend, prevConsecutive)
      (newTrend, newConsecutive,
        if (strategy.inputs.tickConfirm : ℤ) ≤ newConsecutive then newTrend else prevConfirmed)
  (newConfirmed,
    { strategy with
      trendSide := track strategy.trendSide (some (PyFloat.ofInt newTrend)) context
      consecutiveBars := track strategy.consecutiveBars (some (PyFloat.ofInt newConsecutive)) context
      confirmedTrend := track strategy.confirmedTrend (some (PyFloat.ofInt newConfirmed)) context })

def entryConfirmation (strategy : EmaTrendPullbackStrategy α) (closePrice emaEntry entryUpper entryLower : α)
    (context : StrategyContext α) : (Bool × Bool) × EmaTrendPullbackStrategy α :=
  let prevLow := strategy.low.committed 0
  let prevHigh := strategy.high.committed 0
  let next :=
    { strategy with
      low := track strategy.low (some context.candle.lowPrice) context
      high := track strategy.high (some context.candle.highPrice) context }
  if !strategy.inputs.candleConfirmEntry then ((true, true), next)
  else
    let bounceLong := prevLow.elim false fun prev =>
      Decidable.decide (emaEntry < closePrice) && Decidable.decide (prev ≤ entryUpper)
    let rejectShort := prevHigh.elim false fun prev =>
      Decidable.decide (closePrice < emaEntry) && Decidable.decide (entryLower ≤ prev)
    ((bounceLong, rejectShort), next)

-- `decide` up to the two entry conditions, which no position side enters
def entryConditions (strategy : EmaTrendPullbackStrategy α) (emaLong emaEntry : α) (context : StrategyContext α) :
    (Bool × Bool) × EmaTrendPullbackStrategy α :=
  let candle := context.candle
  let inputs := strategy.inputs
  let (confirmedTrend, confirming) :=
    strategy.updateTrendConfirmation (touchesLong inputs candle emaLong) candle.closePrice emaLong context
  let entryUpper := above emaEntry inputs.pullbackSensitivity
  let entryLower := below emaEntry inputs.pullbackSensitivity
  let pullbackLong := Decidable.decide (candle.lowPrice ≤ entryUpper) && Decidable.decide (emaEntry < candle.closePrice)
  let pullbackShort := Decidable.decide (entryLower ≤ candle.highPrice) && Decidable.decide (candle.closePrice < emaEntry)
  let ((bounceLong, rejectShort), next) :=
    confirming.entryConfirmation candle.closePrice emaEntry entryUpper entryLower context
  let longCondition := Decidable.decide (confirmedTrend = trendUp) && pullbackLong && bounceLong &&
    Decidable.decide (emaEntry < candle.closePrice)
  let shortCondition := Decidable.decide (confirmedTrend = trendDown) && pullbackShort && rejectShort &&
    Decidable.decide (candle.closePrice < emaEntry)
  ((longCondition, shortCondition), next)

def decide (strategy : EmaTrendPullbackStrategy α) (context : StrategyContext α) :
    Except PyError (Decision α × EmaTrendPullbackStrategy α) := do
  let emaLong ← context.number emaLongKey
  let emaEntry ← context.number emaEntryKey
  let ((longCondition, shortCondition), next) := strategy.entryConditions emaLong emaEntry context
  if longCondition then return (.buy "LONG Pullback EMA", next)
  if shortCondition then return (.short "SHORT Pullback EMA", next)
  if strategy.inputs.enableTouchExit && touchesLong strategy.inputs context.candle emaLong then
    match context.currentPositionSide with
    | some .long => return (.sell "Exit Touch EMA Long", next)
    | some .short => return (.cover "Exit Touch EMA Long", next)
    | none => return (.hold, next)
  return (.hold, next)

end EmaTrendPullbackStrategy

end Sagittarius
