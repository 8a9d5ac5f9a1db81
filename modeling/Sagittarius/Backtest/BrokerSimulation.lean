import Sagittarius.Trading.OrderSizing

set_option autoImplicit false

namespace Sagittarius

inductive CommissionType
  | percent
  | cashPerOrder
  | cashPerContract
deriving DecidableEq

-- Each check of `__post_init__` is a field, so a configuration that raises
-- cannot be built.
structure BrokerSimulationConfig (α : Type) [PyFloat α] where
  slippageTicks : ℤ := 0
  tickSize : α := PyFloat.literal (1 / 100)
  commissionType : CommissionType := .percent
  commissionValue : α := PyFloat.literal (1 / 10)
  pyramiding : ℤ := 1
  longLeverage : α := PyFloat.literal 1
  shortLeverage : α := PyFloat.literal 1
  stopLossPct : Option α := none
  takeProfitPct : Option α := none
  slippage_nonnegative : ¬ slippageTicks < 0
  tick_positive : ¬ tickSize ≤ PyFloat.ofInt 0
  commission_nonnegative : ¬ commissionValue < PyFloat.ofInt 0
  pyramiding_positive : ¬ pyramiding < 1
  leverage_positive : ¬ (longLeverage ≤ PyFloat.ofInt 0 ∨ shortLeverage ≤ PyFloat.ofInt 0)
  stop_in_range : ∀ pct, stopLossPct = some pct → PyFloat.ofInt 0 < pct ∧ pct < PyFloat.literal 100
  target_positive : ∀ pct, takeProfitPct = some pct → ¬ pct ≤ PyFloat.ofInt 0

theorem default_slippage : ¬ (0 : ℤ) < 0 := lt_irrefl 0

theorem default_pyramiding : ¬ (1 : ℤ) < 1 := lt_irrefl 1

inductive ExitReason
  | strategySignal
  | endOfBacktest
  | stopLoss
  | takeProfit
  | liquidation
deriving DecidableEq

def PositionSide.opposite : PositionSide → PositionSide
  | .long => .short
  | .short => .long

variable {α : Type} [PyFloat α]

def BrokerSimulationConfig.percentFee (feePercent : α) : Option (BrokerSimulationConfig α) :=
  if accepted : ¬ (PyFloat.literal (1 / 100) : α) ≤ PyFloat.ofInt 0 ∧ ¬ feePercent < PyFloat.ofInt 0 ∧
      ¬ (PyFloat.literal 1 : α) ≤ PyFloat.ofInt 0 then
    some {
      commissionType := .percent
      commissionValue := feePercent
      slippage_nonnegative := default_slippage
      tick_positive := accepted.1
      commission_nonnegative := accepted.2.1
      pyramiding_positive := default_pyramiding
      leverage_positive := by simpa using accepted.2.2
      stop_in_range := by simp
      target_positive := by simp }
  else none

namespace PositionSizing

def value : PositionSizing α → α
  | .percentOfEquity value => value
  | .fixedCash value => value
  | .fixedContracts value => value
  | .riskPercent value => value

def isPercentage : PositionSizing α → Bool
  | .percentOfEquity _ => true
  | .riskPercent _ => true
  | _ => false

def Accepted (sizing : PositionSizing α) : Prop :=
  ¬ sizing.value ≤ PyFloat.ofInt 0 ∧
    (sizing.isPercentage = true → ¬ (PyFloat.literal 100 < sizing.value ∨ sizing.value ≤ PyFloat.ofInt 0))

instance (sizing : PositionSizing α) : Decidable sizing.Accepted := inferInstanceAs (Decidable (_ ∧ _))

end PositionSizing

-- FeeCalculatorPolicy

def calculateEntryFeeAndQuantity (notionalCapital effectivePrice : α) (commissionType : CommissionType)
    (commissionValue : α) : α × α :=
  let refused : α × α := (PyFloat.literal 0, PyFloat.literal 0)
  if notionalCapital ≤ PyFloat.ofInt 0 ∨ effectivePrice ≤ PyFloat.ofInt 0 then refused
  else
    match commissionType with
    | .percent =>
        let entryFee := notionalCapital * (commissionValue / PyFloat.literal 100)
        let netNotional := notionalCapital - entryFee
        if netNotional ≤ PyFloat.ofInt 0 then refused else (entryFee, netNotional / effectivePrice)
    | .cashPerOrder =>
        let entryFee := commissionValue
        let netNotional := notionalCapital - entryFee
        if netNotional ≤ PyFloat.ofInt 0 then refused else (entryFee, netNotional / effectivePrice)
    | .cashPerContract =>
        let quantity := notionalCapital / (effectivePrice + commissionValue)
        if quantity ≤ PyFloat.ofInt 0 then refused else (quantity * commissionValue, quantity)

def calculateExitFee (quantity exitPrice : α) (commissionType : CommissionType) (commissionValue : α) : α :=
  if quantity ≤ PyFloat.ofInt 0 ∨ exitPrice ≤ PyFloat.ofInt 0 then PyFloat.literal 0
  else
    let notional := quantity * exitPrice
    match commissionType with
    | .percent => notional * (commissionValue / PyFloat.literal 100)
    | .cashPerOrder => commissionValue
    | .cashPerContract => quantity * commissionValue

-- MarginRiskPolicy

def getLeverage (side : PositionSide) (longLeverage shortLeverage : α) : α :=
  match side with
  | .long => longLeverage
  | .short => shortLeverage

def markToMarket (side : PositionSide) (leverage quantity entryPrice balanceBeforeEntry markPrice : α) : α :=
  match side with
  | .long =>
      if PyFloat.Equal leverage (PyFloat.literal 1) then quantity * markPrice
      else balanceBeforeEntry + (markPrice - entryPrice) * quantity
  | .short => balanceBeforeEntry + (entryPrice - markPrice) * quantity

def realized (side : PositionSide) (leverage quantity entryPrice exitPrice balanceBeforeEntry entryFee exitFee : α) :
    α × α :=
  match side with
  | .long =>
      if PyFloat.Equal leverage (PyFloat.literal 1) then
        let netProceeds := quantity * exitPrice - exitFee
        (netProceeds - balanceBeforeEntry, netProceeds)
      else
        let pnl := (exitPrice - entryPrice) * quantity - entryFee - exitFee
        (pnl, balanceBeforeEntry + pnl)
  | .short =>
      let pnl := (entryPrice - exitPrice) * quantity - entryFee - exitFee
      (pnl, balanceBeforeEntry + pnl)

def calculateRealizedPnl (side : PositionSide)
    (leverage quantity entryPrice exitPrice balanceBeforeEntry entryFee exitFee : α) : α × α × α :=
  let (pnl, balanceRelease) :=
    realized side leverage quantity entryPrice exitPrice balanceBeforeEntry entryFee exitFee
  let pnlPercent :=
    if PyFloat.ofInt 0 < balanceBeforeEntry then pnl / balanceBeforeEntry * PyFloat.literal 100
    else PyFloat.literal 0
  (pnl, pnlPercent, balanceRelease)

-- OrderMatchingPolicy

def calculateSlippageDelta (slippageTicks : ℤ) (tickSize : α) : α := PyFloat.ofInt slippageTicks * tickSize

def calculateEntryEffectivePrice (side : PositionSide) (price slippageDelta : α) : α :=
  match side with
  | .long => price + slippageDelta
  | .short => PyFloat.larger (PyFloat.literal 0) (price - slippageDelta)

def calculateExitEffectivePrice (side : PositionSide) (price slippageDelta : α) : α :=
  match side with
  | .long => PyFloat.larger (PyFloat.literal 0) (price - slippageDelta)
  | .short => price + slippageDelta

def calculateStopLossPrice (side : PositionSide) (effectivePrice : α) (stopLossPct : Option α) : Option α :=
  stopLossPct.map fun pct =>
    let stopPct := pct / PyFloat.literal 100
    match side with
    | .long => effectivePrice * (PyFloat.literal 1 - stopPct)
    | .short => effectivePrice * (PyFloat.literal 1 + stopPct)

def calculateTakeProfitPrice (side : PositionSide) (effectivePrice : α) (takeProfitPct : Option α) : Option α :=
  takeProfitPct.map fun pct =>
    let tpPct := pct / PyFloat.literal 100
    match side with
    | .long => effectivePrice * (PyFloat.literal 1 + tpPct)
    | .short => effectivePrice * (PyFloat.literal 1 - tpPct)

end Sagittarius
