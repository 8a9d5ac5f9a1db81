import Mathlib.Data.Finset.Insert
import Mathlib.Data.Finset.Erase

set_option autoImplicit false

namespace Sagittarius

-- Times are microseconds since the epoch, intervals microseconds.
structure TradingSessionState where
  enabled : Bool := false
  ordersSentThisSession : ℕ := 0
  knownOpenSymbols : Finset String := ∅
  lastOrderTimeBySymbol : String → Option ℤ := fun _ => none
  generation : ℕ := 0

namespace TradingSessionState

def expects (session : TradingSessionState) (expectedGeneration : Option ℕ) : Bool :=
  expectedGeneration.all (· == session.generation)

def enable (session : TradingSessionState) (openSymbols : Finset String) (expectedGeneration : Option ℕ) :
    Bool × TradingSessionState :=
  if session.expects expectedGeneration then
    (true, { session with
      enabled := true
      knownOpenSymbols := openSymbols
      generation := session.generation + 1 })
  else (false, session)

def disable (session : TradingSessionState) : TradingSessionState :=
  { session with
    enabled := false
    generation := session.generation + 1 }

def openPositionCount (session : TradingSessionState) (symbol : String) : ℕ :=
  if symbol ∈ session.knownOpenSymbols then 1 else 0

def timeSinceLastOrder (session : TradingSessionState) (symbol : String) (now : ℤ) : Option ℤ :=
  (session.lastOrderTimeBySymbol symbol).map (now - ·)

def recordOrderSent (session : TradingSessionState) (symbol : String) (now : ℤ) : TradingSessionState :=
  { session with
    ordersSentThisSession := session.ordersSentThisSession + 1
    lastOrderTimeBySymbol := Function.update session.lastOrderTimeBySymbol symbol (some now)
    knownOpenSymbols := insert symbol session.knownOpenSymbols
    generation := session.generation + 1 }

def reconcilePosition (session : TradingSessionState) (symbol : String) (hasPosition : Bool) : TradingSessionState :=
  { session with
    knownOpenSymbols :=
      if hasPosition then insert symbol session.knownOpenSymbols else session.knownOpenSymbols.erase symbol
    generation := session.generation + 1 }

end TradingSessionState

-- The calls that change the state; each runs under the state's own lock.
inductive SessionOp
  | enable (openSymbols : Finset String) (expectedGeneration : Option ℕ)
  | disable
  | recordOrderSent (symbol : String) (now : ℤ)
  | reconcilePosition (symbol : String) (hasPosition : Bool)
deriving DecidableEq

namespace TradingSessionState

def perform (session : TradingSessionState) : SessionOp → TradingSessionState
  | .enable openSymbols expectedGeneration => (session.enable openSymbols expectedGeneration).2
  | .disable => session.disable
  | .recordOrderSent symbol now => session.recordOrderSent symbol now
  | .reconcilePosition symbol hasPosition => session.reconcilePosition symbol hasPosition

def performAll (session : TradingSessionState) (ops : List SessionOp) : TradingSessionState :=
  ops.foldl perform session

theorem enable_applied (session : TradingSessionState) (openSymbols : Finset String) (expectedGeneration : Option ℕ)
    (expected : session.expects expectedGeneration = true) :
    session.perform (.enable openSymbols expectedGeneration) =
      { session with
        enabled := true
        knownOpenSymbols := openSymbols
        generation := session.generation + 1 } := by
  simp [perform, enable, expected]

theorem enable_superseded (session : TradingSessionState) (openSymbols : Finset String)
    (expectedGeneration : Option ℕ) (other : session.expects expectedGeneration = false) :
    session.perform (.enable openSymbols expectedGeneration) = session := by
  simp [perform, enable, other]

@[simp] theorem record_orders_sent (session : TradingSessionState) (symbol : String) (now : ℤ) :
    (session.perform (.recordOrderSent symbol now)).ordersSentThisSession = session.ordersSentThisSession + 1 := rfl

@[simp] theorem record_last_order_time (session : TradingSessionState) (symbol : String) (now : ℤ) :
    (session.perform (.recordOrderSent symbol now)).lastOrderTimeBySymbol =
      Function.update session.lastOrderTimeBySymbol symbol (some now) := rfl

@[simp] theorem record_known (session : TradingSessionState) (symbol : String) (now : ℤ) :
    (session.perform (.recordOrderSent symbol now)).knownOpenSymbols = insert symbol session.knownOpenSymbols := rfl

theorem reconcile_known (session : TradingSessionState) (symbol other : String) (hasPosition : Bool) :
    other ∈ (session.perform (.reconcilePosition symbol hasPosition)).knownOpenSymbols ↔
      if other = symbol then hasPosition = true else other ∈ session.knownOpenSymbols := by
  cases hasPosition <;> by_cases same : other = symbol <;> simp [perform, reconcilePosition, same]

theorem perform_orders_sent (session : TradingSessionState) (op : SessionOp)
    (other : ∀ symbol now, op ≠ .recordOrderSent symbol now) :
    (session.perform op).ordersSentThisSession = session.ordersSentThisSession := by
  cases op with
  | enable openSymbols expectedGeneration =>
      cases expected : session.expects expectedGeneration <;> simp [perform, enable, expected]
  | disable => rfl
  | recordOrderSent symbol now => exact absurd rfl (other symbol now)
  | reconcilePosition symbol hasPosition => rfl

theorem perform_last_order_time (session : TradingSessionState) (op : SessionOp)
    (other : ∀ symbol now, op ≠ .recordOrderSent symbol now) :
    (session.perform op).lastOrderTimeBySymbol = session.lastOrderTimeBySymbol := by
  cases op with
  | enable openSymbols expectedGeneration =>
      cases expected : session.expects expectedGeneration <;> simp [perform, enable, expected]
  | disable => rfl
  | recordOrderSent symbol now => exact absurd rfl (other symbol now)
  | reconcilePosition symbol hasPosition => rfl

end TradingSessionState

end Sagittarius
