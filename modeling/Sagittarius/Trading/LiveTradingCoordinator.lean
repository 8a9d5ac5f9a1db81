import Sagittarius.Live.LiveStrategySession
import Sagittarius.Trading.OrderRequest

set_option autoImplicit false

namespace Sagittarius

variable {α : Type} [PyFloat α]

-- How `handle` leaves off: with nothing to do, with a LiveOrderBlockedEvent
-- for a quantity of zero, or with the order command it dispatches.
inductive HandleOutcome (α : Type)
  | ignored
  | blocked (balance : ℚ) (sizingPercent : α)
  | dispatch (command : ExecuteOrderCommand)
deriving DecidableEq

def LiveStrategyConfig.sizedOrder (config : LiveStrategyConfig α) (signal : Signal α) (intent : OrderIntent)
    (stepSize balance : ℚ) : HandleOutcome α :=
  let referencePrice := PyFloat.decimal signal.price
  let quantity := calculateLiveOrderQuantity (.percentOfEquity config.sizingPercent) balance referencePrice
    config.leverage stepSize
  if quantity ≤ 0 then .blocked balance config.sizingPercent
  else
    .dispatch
      { orderRequest :=
          { symbol := signal.symbol
            side := intent.side
            orderType := .market
            quantity := quantity
            referencePrice := referencePrice
            reduceOnly := intent.reduceOnly }
        live := true }

-- `LiveTradingCoordinator.handle` up to the dispatch, given the futures
-- metadata and the USDT balance it is told.
def LiveStrategyConfig.handle (config : LiveStrategyConfig α) (signal : Signal α)
    (metadata : Option FuturesSymbolMetadata) (usdtBalance : Option ℚ) : Except PyError (HandleOutcome α) :=
  if signal.symbol ≠ config.symbol then .ok .ignored
  else
    match metadata, usdtBalance with
    | some metadata, some balance =>
        match orderIntentFor signal.action with
        | none => .error (.keyError "HOLD")
        | some intent => .ok (config.sizedOrder signal intent metadata.stepSize balance)
    | _, _ => .ok .ignored

theorem handle_returns (config : LiveStrategyConfig α) (signal : Signal α) (metadata : Option FuturesSymbolMetadata)
    (usdtBalance : Option ℚ) (acts : signal.action ≠ .hold) :
    ∃ outcome, config.handle signal metadata usdtBalance = .ok outcome := by
  obtain ⟨intent, found⟩ := order_intent_found signal.action acts
  unfold LiveStrategyConfig.handle
  rw [found]
  split
  · exact ⟨_, rfl⟩
  · split <;> exact ⟨_, rfl⟩

end Sagittarius
