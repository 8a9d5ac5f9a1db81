import Sagittarius.Library.KeyedRows
import Sagittarius.Trading.FuturesPayloads

set_option autoImplicit false

namespace Sagittarius

structure OrderTradeUpdate where
  c : Option String
  s : Option String
  S : Option String
  o : Option String
  q : Option String
  X : Option String
  p : Option String := none
  sp : Option String := none
  f : Option String := none
  R : Bool := false
  T : Option ℤ := none
  x : Option String
  L : Option String := none
  l : Option String := none
deriving DecidableEq

structure PositionUpdate where
  s : Option String
  up : Option String := none
deriving DecidableEq

structure BalanceUpdate where
  a : Option String
  wb : Option String
deriving DecidableEq

structure AccountUpdate where
  E : Option ℤ
  P : List PositionUpdate := []
  B : List BalanceUpdate := []
deriving DecidableEq

inductive UserDataMessage
  | orderTradeUpdate (o : Option OrderTradeUpdate)
  | accountUpdate (payload : AccountUpdate)
  -- the library's own sentinel, or an event that is not handled
  | error (m type : Option String)
  | other (e : Option String)
deriving DecidableEq

structure EquitySample where
  capturedAt : ℤ
  walletBalance : ℚ
  unrealizedPnl : ℚ
deriving DecidableEq

structure OrderFilledEvent where
  order : ReportedOrder
  fillPrice : ℚ
  fillQuantity : ℚ
deriving DecidableEq

section Parsing

variable (decimal : String → Except PyError ℚ)

def parseOrderTradeUpdate (payload : Option OrderTradeUpdate) : Except PyError ReportedOrder := do
  let o ← required "o" payload
  let clientOrderId ← required "c" o.c
  let symbol ← required "s" o.s
  let side ← orderSideNamed (← required "S" o.S)
  let orderType := orderTypeOrUnknown (← required "o" o.o)
  let quantity ← decimalField decimal "q" o.q
  let status := orderStatusOrUnknown (← required "X" o.X)
  let price ← decimalOrNone decimal o.p
  let stopPrice ← decimalOrNone decimal o.sp
  return {
    clientOrderId, symbol, side, orderType, quantity, status, price, stopPrice
    timeInForce := timeInForceOrNone o.f
    reduceOnly := o.R
    orderTime := (truthyTime o.T).map (· * 1000) }

def isFillExecution (o : OrderTradeUpdate) : Bool := o.x = some "TRADE"

def fillDetails (o : OrderTradeUpdate) : Except PyError (ℚ × ℚ) := do
  return (← decimalField decimal "L" o.L, ← decimalField decimal "l" o.l)

-- `_handle_order_trade_update`: what it emits, if anything, or what it raises.
-- A KeyError or a ValueError of the parser is logged.
def handleOrderTradeUpdate (payload : Option OrderTradeUpdate) : Except PyError (Option OrderFilledEvent) :=
  match parseOrderTradeUpdate decimal payload with
  | .error (.keyError _) => .ok none
  | .error (.valueError _) => .ok none
  | .error error => .error error
  | .ok order =>
      match payload.filter isFillExecution with
      | none => .ok none
      | some o =>
          (fillDetails decimal o).map fun details => some { order, fillPrice := details.1, fillQuantity := details.2 }

def accountUpdateChangedSymbols (payload : AccountUpdate) : Except PyError (List String) :=
  payload.P.mapM fun position => required "s" position.s

def accountUpdatePositionPnls (payload : AccountUpdate) : Except PyError (List (String × ℚ)) :=
  payload.P.mapM fun position => return (← required "s" position.s, ← decimal (position.up.getD "0"))

def accountUpdateWalletBalance (payload : AccountUpdate) : Except PyError (Option ℚ) :=
  match payload.B.find? (·.a = some "USDT") with
  | none => .ok none
  | some balance => (decimalField decimal "wb" balance.wb).map some

def accountUpdateCapturedAt (payload : AccountUpdate) : Except PyError ℤ := (required "E" payload.E).map (· * 1000)

def foldPnls (totals pnls : List (String × ℚ)) : List (String × ℚ) := pnls.foldl (KeyedRows.upsert Prod.fst) totals

def sampleEquity (totals : List (String × ℚ)) (payload : AccountUpdate) : Except PyError (Option EquitySample) := do
  let some walletBalance ← accountUpdateWalletBalance decimal payload | return none
  let capturedAt ← accountUpdateCapturedAt payload
  return some { capturedAt, walletBalance, unrealizedPnl := (totals.map Prod.snd).sum }

end Parsing

end Sagittarius
