import Mathlib.Data.Rat.Floor
import Sagittarius.Domain.MarketData

set_option autoImplicit false

namespace Sagittarius

inductive OrderSide
  | buy
  | sell
deriving DecidableEq

structure OrderIntent where
  side : OrderSide
  reduceOnly : Bool
deriving DecidableEq

-- HOLD has no intent: the lookup raises KeyError.
def orderIntentFor : SignalAction → Option OrderIntent
  | .buy => some { side := .buy, reduceOnly := false }
  | .sell => some { side := .sell, reduceOnly := true }
  | .short => some { side := .sell, reduceOnly := false }
  | .cover => some { side := .buy, reduceOnly := true }
  | .hold => none

theorem order_intent_found (action : SignalAction) (acts : action ≠ .hold) :
    ∃ intent, orderIntentFor action = some intent := by
  cases action with
  | hold => exact absurd rfl acts
  | buy => exact ⟨_, rfl⟩
  | sell => exact ⟨_, rfl⟩
  | short => exact ⟨_, rfl⟩
  | cover => exact ⟨_, rfl⟩

-- Decimals are exact rationals here.
def roundQuantityDown (quantity stepSize : ℚ) : ℚ :=
  if stepSize ≤ 0 then quantity else ⌊quantity / stepSize⌋ * stepSize

def roundPriceToTick (price tickSize : ℚ) (side : OrderSide) : ℚ :=
  if tickSize ≤ 0 then price
  else
    match side with
    | .buy => ⌊price / tickSize⌋ * tickSize
    | .sell => ⌈price / tickSize⌉ * tickSize

inductive NotionalCheck
  | sufficient
  | insufficient
deriving DecidableEq

def isNotionalSufficient (quantity price minNotional : ℚ) : NotionalCheck :=
  if minNotional ≤ quantity * price then .sufficient else .insufficient

variable {α : Type} [PyFloat α]

inductive PositionSizing (α : Type)
  | percentOfEquity (value : α)
  | fixedCash (value : α)
  | fixedContracts (value : α)
  | riskPercent (value : α)

-- `(margin, notional_capital)` before the margin is clamped to the balance;
-- a RISK_PERCENT sizing without a stop distance has neither.
def PositionSizing.requested (sizing : PositionSizing α) (effectivePrice currentEquity leverage : α)
    (stopLossPct : Option α) : Option (α × α) :=
  let hundred : α := PyFloat.literal 100
  match sizing with
  | .percentOfEquity value =>
      let margin := currentEquity * (value / hundred)
      some (margin, margin * leverage)
  | .fixedCash value => some (value, value * leverage)
  | .fixedContracts value =>
      let notional := value * effectivePrice
      some (notional / leverage, notional)
  | .riskPercent value =>
      match stopLossPct with
      | none => none
      | some stop =>
          let distance := effectivePrice * (stop / hundred)
          if stop ≤ PyFloat.ofInt 0 ∨ distance ≤ PyFloat.ofInt 0 then none
          else
            let notional := currentEquity * (value / hundred) * (effectivePrice / distance)
            some (notional / leverage, notional)

def calculateMarginAndNotional (effectivePrice currentEquity availableBalance : α) (sizing : PositionSizing α)
    (leverage : α) (stopLossPct : Option α := none) : α × α :=
  let zero : α := PyFloat.ofInt 0
  if effectivePrice ≤ zero ∨ leverage ≤ zero then (zero, zero)
  else
    match sizing.requested effectivePrice currentEquity leverage stopLossPct with
    | none => (zero, zero)
    | some (margin, notional) =>
        let scale := if zero < margin then availableBalance / margin else zero
        let clamped := availableBalance < margin
        let margin := if clamped then availableBalance else margin
        let notional := if clamped then notional * scale else notional
        if margin ≤ zero ∨ notional ≤ zero then (zero, zero) else (margin, notional)

def calculateLiveOrderQuantity (sizing : PositionSizing α) (availableBalance referencePrice : ℚ) (leverage : α)
    (stepSize : ℚ) (stopLossPct : Option α := none) : ℚ :=
  if referencePrice ≤ 0 then 0
  else
    let balance : α := PyFloat.literal availableBalance
    let price : α := PyFloat.literal referencePrice
    let notional := (calculateMarginAndNotional price balance balance sizing leverage stopLossPct).2
    if notional ≤ PyFloat.ofInt 0 then 0
    else roundQuantityDown (PyFloat.decimal notional / referencePrice) stepSize

end Sagittarius
