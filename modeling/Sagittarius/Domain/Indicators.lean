import Sagittarius.Library.Python

set_option autoImplicit false

namespace Sagittarius

structure EMA (α : Type) where
  period : ℕ
  positive : 0 < period
  multiplier : α
  seedValues : List α
  ema : Option α
deriving DecidableEq

structure SupportResistanceValue (α : Type) where
  resistance : α
  support : α
  midline : α
deriving DecidableEq

-- `values` is oldest first, as the deque is filled from the right.
structure SupportResistance (α : Type) where
  period : ℕ
  positive : 0 < period
  values : List α
  bounded : values.length ≤ period
deriving DecidableEq

inductive IndicatorValue (α : Type)
  | number (value : α)
  | levels (value : SupportResistanceValue α)
deriving DecidableEq

variable {α : Type} [PyFloat α]

def EMA.build (period : ℕ) (positive : 0 < period) : EMA α where
  period := period
  positive := positive
  multiplier := PyFloat.literal 2 / PyFloat.ofInt (period + 1)
  seedValues := []
  ema := none

def EMA.update (indicator : EMA α) (value : α) : Option α × EMA α :=
  match indicator.ema with
  | none =>
      let seeded := indicator.seedValues ++ [value]
      if seeded.length < indicator.period then (none, { indicator with seedValues := seeded })
      else
        let ema := PyFloat.total seeded / PyFloat.ofInt indicator.period
        (some ema, { indicator with ema := some ema, seedValues := [] })
  | some previous =>
      let ema := (value - previous) * indicator.multiplier + previous
      (some ema, { indicator with ema := some ema })

def EMA.peekProvisional (indicator : EMA α) (value : α) : Option α :=
  indicator.ema.map fun previous => (value - previous) * indicator.multiplier + previous

def SupportResistance.build (period : ℕ) (positive : 0 < period) : SupportResistance α where
  period := period
  positive := positive
  values := []
  bounded := Nat.zero_le period

def SupportResistance.append (indicator : SupportResistance α) (value : α) : SupportResistance α where
  period := indicator.period
  positive := indicator.positive
  values := indicator.values.drop (indicator.values.length + 1 - indicator.period) ++ [value]
  bounded := by
    have held := indicator.bounded
    have positive := indicator.positive
    simp only [List.length_append, List.length_drop, List.length_singleton]
    omega

def SupportResistance.update (indicator : SupportResistance α) (value : α) :
    Option (SupportResistanceValue α) × SupportResistance α :=
  let next := indicator.append value
  match next.values with
  | [] => (none, next)
  | first :: rest =>
      if next.values.length < next.period then (none, next)
      else
        let resistance := PyFloat.largest first rest
        let support := PyFloat.smallest first rest
        let midline := (resistance + support) / PyFloat.literal 2
        (some { resistance, support, midline }, next)

def SupportResistance.peekProvisional (indicator : SupportResistance α) (value : α) :
    Option (SupportResistanceValue α) :=
  let window :=
    if indicator.values.length = indicator.period then indicator.values.drop 1 ++ [value]
    else indicator.values ++ [value]
  match window with
  | [] => none
  | first :: rest =>
      if window.length < indicator.period then none
      else
        let resistance := PyFloat.largest first rest
        let support := PyFloat.smallest first rest
        let midline := (resistance + support) / PyFloat.literal 2
        some { resistance, support, midline }

inductive Indicator (α : Type)
  | ema (state : EMA α)
  | supportResistance (state : SupportResistance α)
deriving DecidableEq

def Indicator.update (indicator : Indicator α) (value : α) : Option (IndicatorValue α) × Indicator α :=
  match indicator with
  | .ema state =>
      let (reading, next) := state.update value
      (reading.map .number, .ema next)
  | .supportResistance state =>
      let (reading, next) := state.update value
      (reading.map .levels, .supportResistance next)

def Indicator.peekProvisional (indicator : Indicator α) (value : α) : Option (IndicatorValue α) :=
  match indicator with
  | .ema state => (state.peekProvisional value).map .number
  | .supportResistance state => (state.peekProvisional value).map .levels

inductive IndicatorKind
  | ema
  | supportResistance
deriving DecidableEq

def Indicator.kind : Indicator α → IndicatorKind
  | .ema _ => .ema
  | .supportResistance _ => .supportResistance

def IndicatorValue.kind : IndicatorValue α → IndicatorKind
  | .number _ => .ema
  | .levels _ => .supportResistance

@[simp] theorem indicator_update_kind (indicator : Indicator α) (value : α) :
    (indicator.update value).2.kind = indicator.kind := by
  cases indicator with
  | ema state => rfl
  | supportResistance state => rfl

theorem indicator_reading_kind (indicator : Indicator α) (value : α) (reading : IndicatorValue α)
    (ready : (indicator.update value).1 = some reading) : reading.kind = indicator.kind := by
  cases indicator with
  | ema state =>
      obtain ⟨number, _, rfl⟩ := Option.map_eq_some_iff.mp ready
      rfl
  | supportResistance state =>
      obtain ⟨levels, _, rfl⟩ := Option.map_eq_some_iff.mp ready
      rfl

theorem indicator_peek_kind (indicator : Indicator α) (value : α) (reading : IndicatorValue α)
    (ready : indicator.peekProvisional value = some reading) : reading.kind = indicator.kind := by
  cases indicator with
  | ema state =>
      obtain ⟨number, _, rfl⟩ := Option.map_eq_some_iff.mp ready
      rfl
  | supportResistance state =>
      obtain ⟨levels, _, rfl⟩ := Option.map_eq_some_iff.mp ready
      rfl

end Sagittarius
