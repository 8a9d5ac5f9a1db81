import Sagittarius.Trading.OrderSizing

set_option autoImplicit false

namespace Sagittarius

inductive OrderType
  | market
  | limit
  | stopMarket
  | takeProfitMarket
  | unknown
deriving DecidableEq

inductive TimeInForce
  | gtc
  | ioc
  | fok
deriving DecidableEq

structure FuturesSymbolMetadata where
  stepSize : ℚ
  tickSize : ℚ
  minNotional : ℚ
deriving DecidableEq

def thousandths : FuturesSymbolMetadata where
  stepSize := 1 / 1000
  tickSize := 1 / 10
  minNotional := 5

structure PreviewOrderQuery where
  symbol : String
  side : OrderSide
  orderType : OrderType
  quantity : ℚ
  referencePrice : ℚ
  reduceOnly : Bool := false
deriving DecidableEq

structure Order where
  symbol : String
  side : OrderSide
  orderType : OrderType
  quantity : ℚ
  price : Option ℚ
  timeInForce : Option TimeInForce
  reduceOnly : Bool
deriving DecidableEq

structure OrderPreview where
  order : Order
  rawQuantity : ℚ
  estimatedNotional : ℚ
  minNotional : ℚ
  stepSize : ℚ
  notionalCheck : NotionalCheck
deriving DecidableEq

def isLimit (orderType : OrderType) : Bool :=
  match orderType with
  | .limit => true
  | _ => false

def OrderPreview.build (query : PreviewOrderQuery) (metadata : FuturesSymbolMetadata) : OrderPreview :=
  let quantity := roundQuantityDown query.quantity metadata.stepSize
  let price := roundPriceToTick query.referencePrice metadata.tickSize query.side
  { order :=
      { symbol := query.symbol
        side := query.side
        orderType := query.orderType
        quantity := quantity
        price := if isLimit query.orderType then some price else none
        timeInForce := if isLimit query.orderType then some .gtc else none
        reduceOnly := query.reduceOnly }
    rawQuantity := query.quantity
    estimatedNotional := quantity * price
    minNotional := metadata.minNotional
    stepSize := metadata.stepSize
    notionalCheck := isNotionalSufficient quantity price metadata.minNotional }

def previewOrder (query : PreviewOrderQuery) (metadata : Option FuturesSymbolMetadata) :
    Except PyError OrderPreview :=
  match metadata with
  | none => .error (.valueError ("Unknown futures symbol: " ++ query.symbol))
  | some metadata => .ok (.build query metadata)

structure ExecuteOrderCommand where
  orderRequest : PreviewOrderQuery
  live : Bool := false
deriving DecidableEq

end Sagittarius
