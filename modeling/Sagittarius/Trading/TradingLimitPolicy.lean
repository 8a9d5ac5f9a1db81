import Mathlib.Data.Rat.Lemmas

set_option autoImplicit false

namespace Sagittarius

inductive TradingLimitViolation
  | maxOrdersPerSession
  | maxNotionalPerOrder
  | maxPositionsPerSymbol
  | minOrderInterval
deriving DecidableEq

-- The thresholds come from the configuration unchecked.
structure TradingLimits where
  maxOrdersPerSession : ℤ
  maxNotionalPerOrder : ℚ
  maxPositionsPerSymbol : ℤ
  minOrderInterval : ℤ
deriving DecidableEq

def TradingLimits.configured : TradingLimits where
  maxOrdersPerSession := 20
  maxNotionalPerOrder := 500
  maxPositionsPerSymbol := 1
  minOrderInterval := 60 * 1000000

structure TradingLimitContext where
  ordersSentThisSession : ℕ
  orderNotional : ℚ
  openPositionCountForSymbol : ℕ
  timeSinceLastOrderForSymbol : Option ℤ
deriving DecidableEq

structure TradingLimitCheck where
  violation : TradingLimitViolation
  passed : Bool
deriving DecidableEq

namespace TradingLimits

def evaluate (limits : TradingLimits) (context : TradingLimitContext) : List TradingLimitCheck :=
  [{ violation := .maxOrdersPerSession
     passed := context.ordersSentThisSession < limits.maxOrdersPerSession },
    { violation := .maxNotionalPerOrder
      passed := context.orderNotional ≤ limits.maxNotionalPerOrder },
    { violation := .maxPositionsPerSymbol
      passed := context.openPositionCountForSymbol < limits.maxPositionsPerSymbol },
    { violation := .minOrderInterval
      passed := context.timeSinceLastOrderForSymbol.all (limits.minOrderInterval ≤ ·) }]

def firstViolation (limits : TradingLimits) (context : TradingLimitContext) : Option TradingLimitViolation :=
  (limits.evaluate context).findSome? fun check => if check.passed then none else some check.violation

def Reports (limits : TradingLimits) (context : TradingLimitContext) (violation : TradingLimitViolation) : Prop :=
  ∃ check ∈ limits.evaluate context, check.violation = violation ∧ check.passed = false

structure Within (limits : TradingLimits) (context : TradingLimitContext) : Prop where
  orders : (context.ordersSentThisSession : ℤ) < limits.maxOrdersPerSession
  notional : context.orderNotional ≤ limits.maxNotionalPerOrder
  positions : (context.openPositionCountForSymbol : ℤ) < limits.maxPositionsPerSymbol
  interval : ∀ elapsed, context.timeSinceLastOrderForSymbol = some elapsed → limits.minOrderInterval ≤ elapsed

theorem first_violation_none (limits : TradingLimits) (context : TradingLimitContext) :
    limits.firstViolation context = none ↔ limits.Within context := by
  constructor
  · intro clear
    simp only [firstViolation, evaluate, List.findSome?_eq_none_iff, List.mem_cons, List.not_mem_nil, or_false,
      forall_eq_or_imp, forall_eq, ite_eq_left_iff, reduceCtorEq, imp_false, not_not, decide_eq_true_eq] at clear
    obtain ⟨orders, notional, positions, interval⟩ := clear
    refine ⟨orders, notional, positions, fun elapsed since => ?_⟩
    simpa [since] using interval
  · rintro ⟨orders, notional, positions, interval⟩
    have spaced : context.timeSinceLastOrderForSymbol.all (limits.minOrderInterval ≤ ·) = true := by
      cases since : context.timeSinceLastOrderForSymbol with
      | none => rfl
      | some elapsed => simpa using interval elapsed since
    simp [firstViolation, evaluate, orders, notional, positions, spaced]

theorem reports_positions (limits : TradingLimits) (context : TradingLimitContext) :
    limits.Reports context .maxPositionsPerSymbol ↔
      limits.maxPositionsPerSymbol ≤ context.openPositionCountForSymbol := by
  simp [Reports, evaluate]

end TradingLimits

end Sagittarius
