import Sagittarius.Library.Machine
import Sagittarius.Trading.ExitQuantity
import Sagittarius.Trading.TradingLimitPolicy
import Sagittarius.Trading.TradingSessionState

set_option autoImplicit false

namespace Sagittarius

namespace SessionOp

def appliesTo (op : SessionOp) (session : TradingSessionState) : Bool :=
  match op with
  | .enable _ expectedGeneration => session.expects expectedGeneration
  | _ => true

def marks (symbol : String) : SessionOp → Option Bool
  | .enable openSymbols _ => some (decide (symbol ∈ openSymbols))
  | .disable => none
  | .recordOrderSent sent _ => if sent = symbol then some true else none
  | .reconcilePosition reconciled hasPosition => if reconciled = symbol then some hasPosition else none

end SessionOp

namespace TradingSessionState

def performApplied (session : TradingSessionState) (op : SessionOp) : Option TradingSessionState :=
  if op.appliesTo session then some (session.perform op) else none

def effective (session : TradingSessionState) : List SessionOp → List SessionOp
  | [] => []
  | op :: rest =>
      if op.appliesTo session then op :: (session.perform op).effective rest else session.effective rest

theorem run_effective (session : TradingSessionState) (ops : List SessionOp) :
    Interleaving.run performApplied session (session.effective ops) = some (session.performAll ops) := by
  induction ops generalizing session with
  | nil => rfl
  | cons op rest ih =>
      have performed : session.performAll (op :: rest) = (session.perform op).performAll rest := rfl
      cases applied : op.appliesTo session with
      | true =>
          simp only [effective, applied, if_true, Interleaving.run, performApplied, Option.bind_some]
          exact (ih (session.perform op)).trans (by rw [performed])
      | false =>
          have superseded : session.perform op = session := by
            cases op with
            | enable openSymbols expectedGeneration =>
                exact enable_superseded session openSymbols expectedGeneration applied
            | disable => cases applied
            | recordOrderSent symbol now => cases applied
            | reconcilePosition symbol hasPosition => cases applied
          simp only [effective, applied, performed, superseded]
          exact ih session

theorem perform_applied_mark (symbol : String) (session : TradingSessionState) (op : SessionOp)
    (next : TradingSessionState) (moved : session.performApplied op = some next) :
    decide (symbol ∈ next.knownOpenSymbols) =
      (op.marks symbol).getD (decide (symbol ∈ session.knownOpenSymbols)) := by
  unfold performApplied at moved
  split_ifs at moved with applied
  cases moved
  cases op with
  | enable openSymbols expectedGeneration =>
      rw [enable_applied session openSymbols expectedGeneration applied]
      rfl
  | disable => rfl
  | recordOrderSent sent now =>
      by_cases same : sent = symbol
      · simp [SessionOp.marks, same]
      · simp [SessionOp.marks, same, Ne.symm same]
  | reconcilePosition reconciled hasPosition =>
      by_cases same : reconciled = symbol
      · simp [SessionOp.marks, reconcile_known, same]
      · simp [SessionOp.marks, reconcile_known, same, Ne.symm same]

-- The last order sent, reconcile or enable that bears on a symbol decides
-- whether it is believed open.
def leftMarked (symbol : String) (ops : List SessionOp) : Bool :=
  Interleaving.lastWrite (SessionOp.marks symbol) false (effective {} ops)

theorem perform_all_marked (symbol : String) (ops : List SessionOp) :
    decide (symbol ∈ (performAll {} ops).knownOpenSymbols) = leftMarked symbol ops := by
  have initial : decide (symbol ∈ (({} : TradingSessionState)).knownOpenSymbols) = false := by simp
  rw [leftMarked, ← initial]
  exact Interleaving.run_last_write performApplied (SessionOp.marks symbol)
    (fun session => decide (symbol ∈ session.knownOpenSymbols)) (perform_applied_mark symbol) (effective {} ops) {}
    (performAll {} ops) (run_effective {} ops)

end TradingSessionState

theorem exit_passes_position_limit (limits : TradingLimits) (ops : List SessionOp) (side : PositionSide)
    (symbol : String) (quantity referencePrice : ℚ) (metadata : FuturesSymbolMetadata) (now : ℤ) :
    ¬ limits.Reports ((TradingSessionState.performAll {} ops).limitContext
        (.build (exitRequest side symbol quantity referencePrice) metadata) symbol now) .maxPositionsPerSymbol ↔
      2 ≤ limits.maxPositionsPerSymbol ∨
        (limits.maxPositionsPerSymbol = 1 ∧ TradingSessionState.leftMarked symbol ops = false) := by
  rw [TradingLimits.reports_positions, ← TradingSessionState.perform_all_marked]
  simp only [TradingSessionState.limitContext, TradingSessionState.openPositionCount, decide_eq_false_iff_not]
  by_cases marked : symbol ∈ (TradingSessionState.performAll {} ops).knownOpenSymbols
  · rw [if_pos marked]
    simp only [marked, not_true_eq_false, and_false, or_false]
    omega
  · rw [if_neg marked]
    simp only [marked, not_false_eq_true, and_true]
    omega

theorem exit_blocked_while_position_open :
    ¬ ∀ (limits : TradingLimits) (ops : List SessionOp) (side : PositionSide) (symbol : String)
      (quantity referencePrice : ℚ) (metadata : FuturesSymbolMetadata) (now : ℤ),
      ¬ limits.Reports ((TradingSessionState.performAll {} ops).limitContext
        (.build (exitRequest side symbol quantity referencePrice) metadata) symbol now) .maxPositionsPerSymbol := by
  intro passes
  have passed := passes .configured
    [.enable ∅ (some 0), .recordOrderSent "BTCUSDT" 0, .reconcilePosition "BTCUSDT" true] .long "BTCUSDT" 2 100
    thousandths 60000000
  rw [TradingLimits.reports_positions] at passed
  exact passed (by decide +kernel)

end Sagittarius
