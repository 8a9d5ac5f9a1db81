import Sagittarius.Domain.Indicators
import Mathlib.Data.List.Induction

set_option autoImplicit false

namespace Sagittarius

-- A reading is `none` while the indicator warms up.
class IIndicator (σ : Type) (α ρ : outParam Type) where
  update : σ → α → Option ρ × σ
  peekProvisional : σ → α → Option ρ

inductive IndicatorError (α : Type)
  | periodNotPositive (indicator : String) (period : ℤ)
  | alphaOutOfRange (alpha : α)
  | fastNotBelowSlow (fast slow : ℤ)
deriving DecidableEq

def IndicatorError.text {α : Type} (str : α → String) : IndicatorError α → String
  | .periodNotPositive indicator period => s!"{indicator} period must be positive, got {period}"
  | .alphaOutOfRange alpha => "EMA alpha must be a finite float in (0.0, 1.0], got " ++ str alpha
  | .fastNotBelowSlow fast slow => s!"fast_period ({fast}) must be < slow_period ({slow})"

inductive ZeroDivisionError
  | floatDivision
deriving DecidableEq

structure WMA (α : Type) where
  period : ℕ
  positive : 0 < period
  values : List α
  bounded : values.length ≤ period

structure RSI (α : Type) where
  period : ℕ
  previousClose : Option α
  gainSmoother : EMA α
  lossSmoother : EMA α
deriving DecidableEq

structure MACDValue (α : Type) where
  macd : α
  signal : α
  histogram : α
deriving DecidableEq

structure MACD (α : Type) where
  fastEma : EMA α
  slowEma : EMA α
  signalEma : EMA α
deriving DecidableEq

def dequeAppend {α : Type} (maxlen : ℕ) (values : List α) (value : α) : List α :=
  values.drop (values.length + 1 - maxlen) ++ [value]

def latest {α : Type} (count : ℕ) (values : List α) : List α := values.drop (values.length - count)

theorem latest_append {α : Type} (maxlen : ℕ) (positive : 0 < maxlen) (values : List α) (value : α) :
    dequeAppend maxlen (latest maxlen values) value = latest maxlen (values ++ [value]) := by
  unfold dequeAppend latest
  rw [List.drop_append_of_le_length (by simp; omega), List.drop_drop, List.length_append, List.length_drop,
    List.length_singleton]
  congr 2
  omega

theorem latest_length {α : Type} (maxlen : ℕ) (values : List α) :
    (latest maxlen values).length = min maxlen values.length := by
  unfold latest
  rw [List.length_drop]
  omega

theorem period_positive (period : ℤ) (positive : 0 < period) : 0 < period.toNat := by omega

theorem empty_bounded {α : Type} (period : ℕ) : ([] : List α).length ≤ period := Nat.zero_le _

variable {α : Type} [PyFloat α]

-- No alpha within these bounds is infinite or NaN.
def EMA.create (period : ℤ) (alpha : Option α) : Except (IndicatorError α) (EMA α) :=
  if positive : 0 < period then
    let indicator := EMA.build period.toNat (period_positive period positive)
    match alpha with
    | none => .ok indicator
    | some alpha =>
        if PyFloat.literal 0 < alpha ∧ alpha ≤ PyFloat.literal 1 then .ok { indicator with multiplier := alpha }
        else .error (.alphaOutOfRange alpha)
  else .error (.periodNotPositive "EMA" period)

instance : IIndicator (EMA α) α α where
  update := EMA.update
  peekProvisional := EMA.peekProvisional

def WMA.create (period : ℤ) : Except (IndicatorError α) (WMA α) :=
  if positive : 0 < period then
    .ok { period := period.toNat, positive := period_positive period positive, values := [], bounded := empty_bounded _ }
  else .error (.periodNotPositive "WMA" period)

def WMA.weights (indicator : WMA α) : List ℕ := List.range' 1 indicator.period

def WMA.weightTotal (indicator : WMA α) : ℕ := indicator.weights.sum

def WMA.append (indicator : WMA α) (value : α) : WMA α where
  period := indicator.period
  positive := indicator.positive
  values := dequeAppend indicator.period indicator.values value
  bounded := by
    have held := indicator.bounded
    have positive := indicator.positive
    simp only [dequeAppend, List.length_append, List.length_drop, List.length_singleton]
    omega

def WMA.weighted (indicator : WMA α) (window : List α) : α :=
  PyFloat.total (List.zipWith (fun value (weight : ℕ) => value * PyFloat.ofInt weight) window indicator.weights)
    / PyFloat.ofInt indicator.weightTotal

def WMA.update (indicator : WMA α) (value : α) : Option α × WMA α :=
  let next := indicator.append value
  if next.values.length < next.period then (none, next) else (some (next.weighted next.values), next)

def WMA.peekProvisional (indicator : WMA α) (value : α) : Option α :=
  let window :=
    if indicator.values.length = indicator.period then indicator.values.drop 1 ++ [value]
    else indicator.values ++ [value]
  if window.length < indicator.period then none else some (indicator.weighted window)

instance : IIndicator (WMA α) α α where
  update := WMA.update
  peekProvisional := WMA.peekProvisional

def SupportResistance.create (period : ℤ) : Except (IndicatorError α) (SupportResistance α) :=
  if positive : 0 < period then .ok (SupportResistance.build period.toNat (period_positive period positive))
  else .error (.periodNotPositive "SupportResistance" period)

instance : IIndicator (SupportResistance α) α (SupportResistanceValue α) where
  update := SupportResistance.update
  peekProvisional := SupportResistance.peekProvisional

def pyDivide (a b : α) : Except ZeroDivisionError α :=
  if PyFloat.Equal b (PyFloat.literal 0) then .error .floatDivision else .ok (a / b)

namespace RSI

def create (period : ℤ) : Except (IndicatorError α) (RSI α) :=
  if period ≤ 0 then .error (.periodNotPositive "RSI" period)
  else do
    let gainSmoother ← EMA.create period (some (PyFloat.literal 1 / PyFloat.ofInt period))
    let lossSmoother ← EMA.create period (some (PyFloat.literal 1 / PyFloat.ofInt period))
    return { period := period.toNat, previousClose := none, gainSmoother, lossSmoother }

def computeRsiFrom (avgGain avgLoss : α) : Except ZeroDivisionError α :=
  if PyFloat.Equal avgLoss (PyFloat.literal 0) then
    if PyFloat.literal 0 < avgGain then .ok (PyFloat.literal 100) else .ok (PyFloat.literal 50)
  else do
    let relativeStrength ← pyDivide avgGain avgLoss
    let share ← pyDivide (PyFloat.literal 100) (PyFloat.literal 1 + relativeStrength)
    return PyFloat.literal 100 - share

def gain (change : α) : α := PyFloat.larger change (PyFloat.literal 0)

def loss (change : α) : α := PyFloat.larger (-change) (PyFloat.literal 0)

def update (indicator : RSI α) (value : α) : Option (Except ZeroDivisionError α) × RSI α :=
  match indicator.previousClose with
  | none => (none, { indicator with previousClose := some value })
  | some previous =>
      let change := value - previous
      let (avgGain, gainSmoother) := indicator.gainSmoother.update (gain change)
      let (avgLoss, lossSmoother) := indicator.lossSmoother.update (loss change)
      let next := { indicator with previousClose := some value, gainSmoother, lossSmoother }
      match avgGain, avgLoss with
      | some avgGain, some avgLoss => (some (computeRsiFrom avgGain avgLoss), next)
      | _, _ => (none, next)

def peekProvisional (indicator : RSI α) (value : α) : Option (Except ZeroDivisionError α) :=
  match indicator.previousClose with
  | none => none
  | some previous =>
      let change := value - previous
      match indicator.gainSmoother.peekProvisional (gain change), indicator.lossSmoother.peekProvisional (loss change) with
      | some avgGain, some avgLoss => some (computeRsiFrom avgGain avgLoss)
      | _, _ => none

end RSI

instance : IIndicator (RSI α) α (Except ZeroDivisionError α) where
  update := RSI.update
  peekProvisional := RSI.peekProvisional

namespace MACD

def create (fastPeriod slowPeriod signalPeriod : ℤ) : Except (IndicatorError α) (MACD α) :=
  if slowPeriod ≤ fastPeriod then .error (.fastNotBelowSlow fastPeriod slowPeriod)
  else do
    let fastEma ← EMA.create fastPeriod none
    let slowEma ← EMA.create slowPeriod none
    let signalEma ← EMA.create signalPeriod none
    return { fastEma, slowEma, signalEma }

def valueOf (macdLine signal : α) : MACDValue α where
  macd := macdLine
  signal := signal
  histogram := macdLine - signal

def update (indicator : MACD α) (value : α) : Option (MACDValue α) × MACD α :=
  let (fast, fastEma) := indicator.fastEma.update value
  let (slow, slowEma) := indicator.slowEma.update value
  match fast, slow with
  | some fast, some slow =>
      let macdLine := fast - slow
      let (signal, signalEma) := indicator.signalEma.update macdLine
      (signal.map (valueOf macdLine), { fastEma, slowEma, signalEma })
  | _, _ => (none, { indicator with fastEma, slowEma })

def peekProvisional (indicator : MACD α) (value : α) : Option (MACDValue α) :=
  match indicator.fastEma.peekProvisional value, indicator.slowEma.peekProvisional value with
  | some fast, some slow =>
      let macdLine := fast - slow
      (indicator.signalEma.peekProvisional macdLine).map (valueOf macdLine)
  | _, _ => none

end MACD

instance : IIndicator (MACD α) α (MACDValue α) where
  update := MACD.update
  peekProvisional := MACD.peekProvisional

end Sagittarius
