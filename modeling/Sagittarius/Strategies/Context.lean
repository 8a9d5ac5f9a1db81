import Sagittarius.Domain.Indicators
import Sagittarius.Domain.MarketData
import Sagittarius.Domain.Series

set_option autoImplicit false

namespace Sagittarius

variable {α : Type}

abbrev Readings (α : Type) := List (String × IndicatorValue α)

structure StrategyContext (α : Type) where
  candle : MarketData α
  indicators : Readings α
  currentPositionSide : Option PositionSide := none

def StrategyContext.number (context : StrategyContext α) (key : String) : Except PyError α :=
  match context.indicators.lookup key with
  | some (.number value) => .ok value
  | some (.levels _) => .error (.typeError key)
  | none => .error (.keyError key)

def StrategyContext.levels (context : StrategyContext α) (key : String) :
    Except PyError (SupportResistanceValue α) :=
  match context.indicators.lookup key with
  | some (.levels value) => .ok value
  | some (.number _) => .error (.typeError key)
  | none => .error (.keyError key)

@[simp] theorem context_number_side (context : StrategyContext α) (side : Option PositionSide) (key : String) :
    { context with currentPositionSide := side }.number key = context.number key := rfl

@[simp] theorem context_levels_side (context : StrategyContext α) (side : Option PositionSide) (key : String) :
    { context with currentPositionSide := side }.levels key = context.levels key := rfl

structure Decision (α : Type) where
  action : SignalAction
  reason : String
  metadata : List (String × MetadataValue α) := []
deriving DecidableEq

inductive TrendZone
  | up
  | down
deriving DecidableEq

def Decision.buy (reason : String) : Decision α := { action := .buy, reason }

def Decision.sell (reason : String) : Decision α := { action := .sell, reason }

def Decision.hold (reason : String := "no signal") : Decision α := { action := .hold, reason }

def Decision.short (reason : String) : Decision α := { action := .short, reason }

def Decision.cover (reason : String) : Decision α := { action := .cover, reason }

-- A closed candle commits the value, a forming one only pokes it.
def track (series : Series α) (value : Option α) (context : StrategyContext α) : Series α :=
  if context.candle.isClosed then series.push value else series.pokeProvisional value

-- What an `input_float` can return: its default, which is not checked, or a
-- value that compares neither below nor above the bounds, as NaN does.
def FloatInput [PyFloat α] (default minval maxval : ℚ) (value : α) : Prop :=
  value = PyFloat.literal default ∨
    (¬ value < PyFloat.literal minval ∧ ¬ PyFloat.literal maxval < value)

theorem float_default_declared [PyFloat α] (default minval maxval : ℚ) :
    FloatInput default minval maxval (PyFloat.literal default : α) := .inl rfl

end Sagittarius
