import Sagittarius.Domain.MarketData
import Sagittarius.Trading.OrderRequest

set_option autoImplicit false

namespace Sagittarius

inductive OrderStatus
  | new
  | partiallyFilled
  | filled
  | canceled
  | rejected
  | expired
  | unknown
deriving DecidableEq

namespace OrderStatus

def validTransitions : OrderStatus → List OrderStatus
  | .new => [.partiallyFilled, .filled, .canceled, .rejected, .expired]
  | .partiallyFilled => [.filled, .canceled, .expired]
  | .filled => []
  | .canceled => []
  | .rejected => []
  | .expired => []
  | .unknown => [.new, .partiallyFilled, .filled, .canceled, .rejected, .expired]

def isTerminal (status : OrderStatus) : Bool := status.validTransitions.isEmpty

end OrderStatus

structure ReportedOrder extends Order where
  clientOrderId : String
  status : OrderStatus := .new
  stopPrice : Option ℚ := none
  orderTime : Option ℤ := none
deriving DecidableEq

inductive MarginType
  | crossed
  | isolated
deriving DecidableEq

structure LivePosition where
  symbol : String
  positionAmt : ℚ
  entryPrice : ℚ
  markPrice : ℚ
  unrealizedPnl : ℚ
  leverage : ℤ
  marginType : MarginType
  liquidationPrice : Option ℚ
  updatedAt : ℤ
deriving DecidableEq

def LivePosition.side (position : LivePosition) : PositionSide := if 0 < position.positionAmt then .long else .short

-- `payload[key]` of a JSON object whose field may be absent.
def required {α : Type} (key : String) : Option α → Except PyError α
  | some value => .ok value
  | none => .error (.keyError key)

def orderStatusOrUnknown : String → OrderStatus
  | "NEW" => .new
  | "PARTIALLY_FILLED" => .partiallyFilled
  | "FILLED" => .filled
  | "CANCELED" => .canceled
  | "REJECTED" => .rejected
  | "EXPIRED" => .expired
  | _ => .unknown

def orderTypeOrUnknown : String → OrderType
  | "MARKET" => .market
  | "LIMIT" => .limit
  | "STOP_MARKET" => .stopMarket
  | "TAKE_PROFIT_MARKET" => .takeProfitMarket
  | _ => .unknown

def timeInForceOrNone : Option String → Option TimeInForce
  | some "GTC" => some .gtc
  | some "IOC" => some .ioc
  | some "FOK" => some .fok
  | _ => none

def orderSideNamed : String → Except PyError OrderSide
  | "BUY" => .ok .buy
  | "SELL" => .ok .sell
  | raw => .error (.keyError raw)

structure OrderPayload where
  type : Option String
  clientOrderId : Option String
  symbol : Option String
  side : Option String
  origQty : Option String
  status : Option String
  price : Option String := none
  stopPrice : Option String := none
  timeInForce : Option String := none
  reduceOnly : Bool := false
  updateTime : Option ℤ := none
  time : Option ℤ := none
deriving DecidableEq

structure PositionPayload where
  symbol : Option String
  positionAmt : Option String
  entryPrice : Option String
  markPrice : Option String
  unRealizedProfit : Option String
  notional : Option String
  initialMargin : Option String
  isolatedMargin : Option String := none
  liquidationPrice : Option String := none
  updateTime : Option ℤ := none
deriving DecidableEq

def truthyTime (raw : Option ℤ) : Option ℤ := raw.filter (· ≠ 0)

section Mapping

variable (decimal : String → Except PyError ℚ)

def decimalOrNone : Option String → Except PyError (Option ℚ)
  | none => .ok none
  | some raw => (decimal raw).map fun value => if value ≠ 0 then some value else none

def decimalField (key : String) (raw : Option String) : Except PyError ℚ := do decimal (← required key raw)

def mapFuturesOrderPayloadToOrder (payload : OrderPayload) : Except PyError ReportedOrder := do
  let orderType := orderTypeOrUnknown (← required "type" payload.type)
  let clientOrderId ← required "clientOrderId" payload.clientOrderId
  let symbol ← required "symbol" payload.symbol
  let side ← orderSideNamed (← required "side" payload.side)
  let quantity ← decimalField decimal "origQty" payload.origQty
  let status := orderStatusOrUnknown (← required "status" payload.status)
  let price ← decimalOrNone decimal payload.price
  let stopPrice ← decimalOrNone decimal payload.stopPrice
  return {
    clientOrderId, symbol, side, orderType, quantity, status, price, stopPrice
    timeInForce := timeInForceOrNone payload.timeInForce
    reduceOnly := payload.reduceOnly
    orderTime := ((truthyTime payload.updateTime).or (truthyTime payload.time)).map (· * 1000) }

def leverageFromMargin (payload : PositionPayload) : Except PyError ℤ := do
  let notional ← decimalField decimal "notional" payload.notional
  let initialMargin ← decimalField decimal "initialMargin" payload.initialMargin
  if initialMargin = 0 then .error (.keyError "leverage")
  return (notional / initialMargin).roundHalfEven

def marginTypeFromIsolation (payload : PositionPayload) : Except PyError MarginType := do
  let isolatedMargin ← decimalOrNone decimal payload.isolatedMargin
  return if isolatedMargin.isSome then .isolated else .crossed

-- The quotient is exact here, where Decimal keeps 28 digits of it.
def mapFuturesPositionPayloadToLivePosition (now : ℤ) (payload : PositionPayload) : Except PyError LivePosition := do
  let liquidationPrice ← decimalOrNone decimal payload.liquidationPrice
  let updatedAt := ((truthyTime payload.updateTime).map (· * 1000)).getD now
  let symbol ← required "symbol" payload.symbol
  let positionAmt ← decimalField decimal "positionAmt" payload.positionAmt
  let entryPrice ← decimalField decimal "entryPrice" payload.entryPrice
  let markPrice ← decimalField decimal "markPrice" payload.markPrice
  let unrealizedPnl ← decimalField decimal "unRealizedProfit" payload.unRealizedProfit
  let leverage ← leverageFromMargin decimal payload
  let marginType ← marginTypeFromIsolation decimal payload
  return { symbol, positionAmt, entryPrice, markPrice, unrealizedPnl, leverage, marginType, liquidationPrice, updatedAt }

theorem required_ok {α : Type} (key : String) (field : Option α) (value : α) (present : required key field = .ok value) :
    field = some value := by
  cases field with
  | none => cases present
  | some held =>
      cases present
      rfl

theorem mapped_order_symbol (payload : OrderPayload) (order : ReportedOrder)
    (mapped : mapFuturesOrderPayloadToOrder decimal payload = .ok order) : payload.symbol = some order.symbol := by
  obtain ⟨type, _, mapped⟩ := bind_ok _ _ _ mapped
  obtain ⟨clientOrderId, _, mapped⟩ := bind_ok _ _ _ mapped
  obtain ⟨symbol, present, mapped⟩ := bind_ok _ _ _ mapped
  obtain ⟨named, _, mapped⟩ := bind_ok _ _ _ mapped
  obtain ⟨side, _, mapped⟩ := bind_ok _ _ _ mapped
  obtain ⟨quantity, _, mapped⟩ := bind_ok _ _ _ mapped
  obtain ⟨status, _, mapped⟩ := bind_ok _ _ _ mapped
  obtain ⟨price, _, mapped⟩ := bind_ok _ _ _ mapped
  obtain ⟨stopPrice, _, mapped⟩ := bind_ok _ _ _ mapped
  cases mapped
  exact required_ok "symbol" payload.symbol symbol present

theorem mapped_position (now : ℤ) (payload : PositionPayload) (position : LivePosition)
    (mapped : mapFuturesPositionPayloadToLivePosition decimal now payload = .ok position) :
    payload.symbol = some position.symbol ∧
      ∃ raw, payload.positionAmt = some raw ∧ decimal raw = .ok position.positionAmt := by
  obtain ⟨liquidationPrice, _, mapped⟩ := bind_ok _ _ _ mapped
  obtain ⟨symbol, present, mapped⟩ := bind_ok _ _ _ mapped
  obtain ⟨positionAmt, read, mapped⟩ := bind_ok _ _ _ mapped
  obtain ⟨entryPrice, _, mapped⟩ := bind_ok _ _ _ mapped
  obtain ⟨markPrice, _, mapped⟩ := bind_ok _ _ _ mapped
  obtain ⟨unrealizedPnl, _, mapped⟩ := bind_ok _ _ _ mapped
  obtain ⟨leverage, _, mapped⟩ := bind_ok _ _ _ mapped
  obtain ⟨marginType, _, mapped⟩ := bind_ok _ _ _ mapped
  cases mapped
  obtain ⟨raw, held, parsed⟩ := bind_ok _ _ _ read
  exact ⟨required_ok "symbol" payload.symbol symbol present,
    raw, required_ok "positionAmt" payload.positionAmt raw held, parsed⟩

end Mapping

def readDecimal (text : String) : Except PyError ℚ :=
  if text.toList.all Char.isDigit then .ok (text.toList.foldl (fun value digit => 10 * value + (digit.toNat - 48)) 0)
  else .error (.invalidOperation text)

end Sagittarius
