import Sagittarius.Backtest.RiskSizing
import Sagittarius.Library.Decimals
import Sagittarius.Trading.EmergencyStop
import Sagittarius.Trading.ExitQuantity

set_option autoImplicit false

namespace Sagittarius

open Decimals (Direction Trap)

-- What the order code uses of Decimal. The code is read once, over Python's
-- context of 28 digits and over exact rationals.
class DecimalArithmetic (δ : Type) where
  zero : δ
  divide : δ → δ → Except Trap δ
  multiply : δ → δ → Except Trap δ
  remainder : δ → δ → Except Trap δ
  toIntegral : Direction → δ → Except Trap δ
  absolute : δ → Except Trap δ
  atMost : δ → δ → Except Trap Bool
  isZero : δ → Except Trap Bool

-- `getcontext()`, which the application leaves as it finds it
def defaultContext : Decimals.Context where
  prec := 28
  emin := -999999
  emax := 999999

instance : DecimalArithmetic Decimals.Number where
  zero := .finite false 0 0
  divide := Decimals.divide defaultContext
  multiply := Decimals.multiply defaultContext
  remainder := Decimals.remainder defaultContext
  toIntegral := Decimals.toIntegral
  absolute := Decimals.absolute defaultContext
  atMost := Decimals.atMost
  isZero := Decimals.isZero

instance : DecimalArithmetic ℚ where
  zero := 0
  divide a b := if b = 0 then .error (if a = 0 then .invalidOperation else .divisionByZero) else .ok (a / b)
  multiply a b := .ok (a * b)
  remainder a b :=
    if b = 0 then .error .invalidOperation
    else .ok (a - (if a / b < 0 then ⌈a / b⌉ else ⌊a / b⌋) * b)
  toIntegral direction a := .ok (direction.round a)
  absolute a := .ok |a|
  atMost a b := .ok (decide (a ≤ b))
  isZero a := .ok (decide (a = 0))

open DecimalArithmetic

variable {δ : Type} [DecimalArithmetic δ]

namespace OrderQuantityRoundingPolicy

def toMultiple (direction : Direction) (amount size : δ) : Except Trap δ := do
  if (← atMost size zero) then return amount
  else
    let steps ← toIntegral direction (← divide amount size)
    multiply steps size

def roundQuantityDown (quantity stepSize : δ) : Except Trap δ := toMultiple .floor quantity stepSize

def towards : OrderSide → Direction
  | .buy => .floor
  | .sell => .ceiling

def roundPriceToTick (price tickSize : δ) (side : OrderSide) : Except Trap δ := toMultiple (towards side) price tickSize

def isNotionalSufficient (quantity price minNotional : δ) : Except Trap NotionalCheck := do
  let notional ← multiply quantity price
  if (← atMost minNotional notional) then return .sufficient else return .insufficient

end OrderQuantityRoundingPolicy

structure SymbolFilters (δ : Type) where
  stepSize : δ
  tickSize : δ
  minNotional : δ

structure PreviewRequest (δ : Type) where
  symbol : String
  side : OrderSide
  orderType : OrderType
  quantity : δ
  referencePrice : δ
  reduceOnly : Bool := false

structure SubmittedOrder (δ : Type) where
  clientOrderId : String
  symbol : String
  side : OrderSide
  orderType : OrderType
  quantity : δ
  price : Option δ := none
  stopPrice : Option δ := none
  timeInForce : Option TimeInForce := none
  reduceOnly : Bool := false

structure PreviewedOrder (δ : Type) where
  order : SubmittedOrder δ
  rawQuantity : δ
  estimatedNotional : δ
  minNotional : δ
  stepSize : δ
  notionalCheck : NotionalCheck

inductive SubmissionError
  | valueError (message : String)
  | invalidOrderForSubmission (message : String)
  | arithmetic (trap : Trap)
deriving DecidableEq

def computed {β : Type} (result : Except Trap β) : Except SubmissionError β := result.mapError .arithmetic

def PreviewRequest.execute (query : PreviewRequest δ) (metadata : Option (SymbolFilters δ)) (clientOrderId : String) :
    Except SubmissionError (PreviewedOrder δ) := do
  match metadata with
  | none => throw (.valueError s!"Unknown futures symbol: {query.symbol}")
  | some metadata =>
      let roundedQuantity ← computed (OrderQuantityRoundingPolicy.roundQuantityDown query.quantity metadata.stepSize)
      let roundedPrice ← computed
        (OrderQuantityRoundingPolicy.roundPriceToTick query.referencePrice metadata.tickSize query.side)
      let notionalCheck ← computed
        (OrderQuantityRoundingPolicy.isNotionalSufficient roundedQuantity roundedPrice metadata.minNotional)
      let estimatedNotional ← computed (multiply roundedQuantity roundedPrice)
      return {
        order := {
          clientOrderId
          symbol := query.symbol
          side := query.side
          orderType := query.orderType
          quantity := roundedQuantity
          price := if isLimit query.orderType then some roundedPrice else none
          timeInForce := if isLimit query.orderType then some .gtc else none
          reduceOnly := query.reduceOnly }
        rawQuantity := query.quantity
        estimatedNotional
        minNotional := metadata.minNotional
        stepSize := metadata.stepSize
        notionalCheck }

theorem computed_ok {β : Type} (result : Except Trap β) (value : β) (done : computed result = .ok value) :
    result = .ok value := by
  cases result with
  | error trap => cases done
  | ok held =>
      cases done
      rfl

theorem executed_order (query : PreviewRequest δ) (metadata : SymbolFilters δ) (clientOrderId : String)
    (previewed : PreviewedOrder δ) (executed : query.execute (some metadata) clientOrderId = .ok previewed) :
    ∃ roundedQuantity roundedPrice,
      OrderQuantityRoundingPolicy.roundQuantityDown query.quantity metadata.stepSize = .ok roundedQuantity ∧
      OrderQuantityRoundingPolicy.roundPriceToTick query.referencePrice metadata.tickSize query.side = .ok roundedPrice ∧
      previewed.order = {
        clientOrderId
        symbol := query.symbol
        side := query.side
        orderType := query.orderType
        quantity := roundedQuantity
        price := if isLimit query.orderType then some roundedPrice else none
        timeInForce := if isLimit query.orderType then some .gtc else none
        reduceOnly := query.reduceOnly } := by
  obtain ⟨roundedQuantity, quantity, executed⟩ := bind_ok _ _ _ executed
  obtain ⟨roundedPrice, price, executed⟩ := bind_ok _ _ _ executed
  obtain ⟨notionalCheck, _, executed⟩ := bind_ok _ _ _ executed
  obtain ⟨estimatedNotional, _, executed⟩ := bind_ok _ _ _ executed
  cases executed
  exact ⟨roundedQuantity, roundedPrice, computed_ok _ _ quantity, computed_ok _ _ price, rfl⟩

-- The order that `_close_all_positions` places for a position.
def closingPosition (clientOrderId symbol : String) (side : PositionSide) (positionAmt : δ) :
    Except Trap (SubmittedOrder δ) := do
  return {
    clientOrderId
    symbol
    side := if side = .long then .sell else .buy
    orderType := .market
    quantity := ← absolute positionAmt
    reduceOnly := true }

structure FuturesOrderParams where
  symbol : String
  side : String
  type : String
  quantity : String
  newClientOrderId : String
  positionSide : String
  reduceOnly : Bool
  price : Option String := none
  timeInForce : Option String := none
  stopPrice : Option String := none
deriving DecidableEq

def OrderSide.value : OrderSide → String
  | .buy => "BUY"
  | .sell => "SELL"

def OrderType.name : OrderType → String
  | .market => "MARKET"
  | .limit => "LIMIT"
  | .stopMarket => "STOP_MARKET"
  | .takeProfitMarket => "TAKE_PROFIT_MARKET"
  | .unknown => "UNKNOWN"

def TimeInForce.value : TimeInForce → String
  | .gtc => "GTC"
  | .ioc => "IOC"
  | .fok => "FOK"

def oneWayPositionSide : String := "BOTH"

def isStopOrder (orderType : OrderType) : Bool :=
  match orderType with
  | .stopMarket => true
  | .takeProfitMarket => true
  | _ => false

section Mapper

variable (str : δ → String)

def requireStepAligned (quantity stepSize : δ) (label : String) : Except SubmissionError Unit := do
  if (← computed (atMost stepSize zero)) then return ()
  else if (← computed (do isZero (← remainder quantity stepSize))) then return ()
  else
    throw (.invalidOrderForSubmission (s!"{label} {str quantity} is not a multiple of step size {str stepSize} — " ++
      "round it with OrderQuantityRoundingPolicy before submitting."))

def limitParams (order : SubmittedOrder δ) (metadata : SymbolFilters δ) (params : FuturesOrderParams) :
    Except SubmissionError FuturesOrderParams := do
  match order.price, order.timeInForce with
  | none, _ => throw (.invalidOrderForSubmission "LIMIT order is missing price.")
  | some _, none => throw (.invalidOrderForSubmission "LIMIT order is missing time_in_force.")
  | some price, some timeInForce =>
      requireStepAligned str price metadata.tickSize "price"
      return { params with price := some (str price), timeInForce := some timeInForce.value }

def stopParams (order : SubmittedOrder δ) (metadata : SymbolFilters δ) (params : FuturesOrderParams) :
    Except SubmissionError FuturesOrderParams := do
  match order.stopPrice with
  | none => throw (.invalidOrderForSubmission s!"{order.orderType.name} order is missing stop_price.")
  | some stopPrice =>
      requireStepAligned str stopPrice metadata.tickSize "stop_price"
      return { params with stopPrice := some (str stopPrice) }

def mapOrderToFuturesParams (order : SubmittedOrder δ) (metadata : SymbolFilters δ) :
    Except SubmissionError FuturesOrderParams := do
  requireStepAligned str order.quantity metadata.stepSize "quantity"
  let params : FuturesOrderParams := {
    symbol := order.symbol
    side := order.side.value
    type := order.orderType.name
    quantity := str order.quantity
    newClientOrderId := order.clientOrderId
    positionSide := oneWayPositionSide
    reduceOnly := order.reduceOnly }
  let params ← (if isLimit order.orderType then limitParams str order metadata params else pure params)
  if isStopOrder order.orderType then stopParams str order metadata params else return params

theorem limit_params_ok (order : SubmittedOrder δ) (metadata : SymbolFilters δ) (params sent : FuturesOrderParams)
    (mapped : limitParams str order metadata params = .ok sent) :
    ∃ price timeInForce, order.price = some price ∧ order.timeInForce = some timeInForce ∧
      requireStepAligned str price metadata.tickSize "price" = .ok () ∧
      sent = { params with price := some (str price), timeInForce := some timeInForce.value } := by
  unfold limitParams at mapped
  split at mapped
  · cases mapped
  · cases mapped
  · rename_i price timeInForce priced timed
    obtain ⟨⟨⟩, aligned, mapped⟩ := bind_ok _ _ _ mapped
    cases mapped
    exact ⟨price, timeInForce, priced, timed, aligned, rfl⟩

theorem stop_params_ok (order : SubmittedOrder δ) (metadata : SymbolFilters δ) (params sent : FuturesOrderParams)
    (mapped : stopParams str order metadata params = .ok sent) :
    ∃ stopPrice, order.stopPrice = some stopPrice ∧
      requireStepAligned str stopPrice metadata.tickSize "stop_price" = .ok () ∧
      sent = { params with stopPrice := some (str stopPrice) } := by
  unfold stopParams at mapped
  split at mapped
  · cases mapped
  · rename_i stopPrice priced
    obtain ⟨⟨⟩, aligned, mapped⟩ := bind_ok _ _ _ mapped
    cases mapped
    exact ⟨stopPrice, priced, aligned, rfl⟩

theorem mapped_numbers (order : SubmittedOrder δ) (metadata : SymbolFilters δ) (params : FuturesOrderParams)
    (mapped : mapOrderToFuturesParams str order metadata = .ok params) :
    requireStepAligned str order.quantity metadata.stepSize "quantity" = .ok () ∧
      params.quantity = str order.quantity ∧
      (if isLimit order.orderType then
        ∃ price, order.price = some price ∧ requireStepAligned str price metadata.tickSize "price" = .ok () ∧
          params.price = some (str price)
      else params.price = none) ∧
      (if isStopOrder order.orderType then
        ∃ stopPrice, order.stopPrice = some stopPrice ∧
          requireStepAligned str stopPrice metadata.tickSize "stop_price" = .ok () ∧
          params.stopPrice = some (str stopPrice)
      else params.stopPrice = none) := by
  obtain ⟨⟨⟩, aligned, mapped⟩ := bind_ok _ _ _ mapped
  refine ⟨aligned, ?_⟩
  cases kind : order.orderType with
  | limit =>
      obtain ⟨limited, limit, mapped⟩ := bind_ok _ _ _ mapped
      rw [kind] at limit mapped
      obtain ⟨price, timeInForce, priced, _, priceAligned, rfl⟩ := limit_params_ok str order metadata _ _ limit
      cases mapped
      exact ⟨rfl, ⟨price, priced, priceAligned, rfl⟩, rfl⟩
  | market =>
      rw [kind] at mapped
      cases mapped
      exact ⟨rfl, rfl, rfl⟩
  | unknown =>
      rw [kind] at mapped
      cases mapped
      exact ⟨rfl, rfl, rfl⟩
  | stopMarket =>
      rw [kind] at mapped
      obtain ⟨stopPrice, priced, stopAligned, rfl⟩ := stop_params_ok str order metadata _ _ mapped
      exact ⟨rfl, rfl, stopPrice, priced, stopAligned, rfl⟩
  | takeProfitMarket =>
      rw [kind] at mapped
      obtain ⟨stopPrice, priced, stopAligned, rfl⟩ := stop_params_ok str order metadata _ _ mapped
      exact ⟨rfl, rfl, stopPrice, priced, stopAligned, rfl⟩

end Mapper

-- Over the rationals the code is what the other modules take it to be.
def PreviewOrderQuery.request (query : PreviewOrderQuery) : PreviewRequest ℚ where
  symbol := query.symbol
  side := query.side
  orderType := query.orderType
  quantity := query.quantity
  referencePrice := query.referencePrice
  reduceOnly := query.reduceOnly

def FuturesSymbolMetadata.filters (metadata : FuturesSymbolMetadata) : SymbolFilters ℚ where
  stepSize := metadata.stepSize
  tickSize := metadata.tickSize
  minNotional := metadata.minNotional

def Order.submitted (order : Order) (clientOrderId : String) : SubmittedOrder ℚ where
  clientOrderId := clientOrderId
  symbol := order.symbol
  side := order.side
  orderType := order.orderType
  quantity := order.quantity
  price := order.price
  timeInForce := order.timeInForce
  reduceOnly := order.reduceOnly

theorem exact_at_most (a : ℚ) : (atMost a zero : Except Trap Bool) = .ok (decide (a ≤ 0)) := rfl

namespace OrderQuantityRoundingPolicy

theorem exact_to_multiple (direction : Direction) (amount size : ℚ) :
    toMultiple direction amount size = .ok (if size ≤ 0 then amount else direction.round (amount / size) * size) := by
  unfold toMultiple
  rw [exact_at_most]
  by_cases unbounded : size ≤ 0
  · rw [if_pos unbounded, decide_eq_true unbounded]
    rfl
  · have divided : (divide amount size : Except Trap ℚ) = .ok (amount / size) := if_neg fun zero => unbounded zero.le
    rw [if_neg unbounded, decide_eq_false unbounded, divided]
    rfl

theorem exact_quantity (quantity stepSize : ℚ) :
    roundQuantityDown quantity stepSize = .ok (Sagittarius.roundQuantityDown quantity stepSize) :=
  exact_to_multiple .floor quantity stepSize

theorem exact_price (price tickSize : ℚ) (side : OrderSide) :
    roundPriceToTick price tickSize side = .ok (Sagittarius.roundPriceToTick price tickSize side) := by
  cases side with
  | buy => exact exact_to_multiple .floor price tickSize
  | sell => exact exact_to_multiple .ceiling price tickSize

theorem exact_notional (quantity price minNotional : ℚ) :
    isNotionalSufficient quantity price minNotional = .ok (Sagittarius.isNotionalSufficient quantity price minNotional) := by
  change (if decide (minNotional ≤ quantity * price) = true then (.ok .sufficient : Except Trap NotionalCheck)
    else .ok .insufficient) = _
  unfold Sagittarius.isNotionalSufficient
  by_cases enough : minNotional ≤ quantity * price
  · rw [if_pos (decide_eq_true enough), if_pos enough]
  · rw [if_neg (by simpa using enough), if_neg enough]

end OrderQuantityRoundingPolicy

theorem exact_execute (query : PreviewOrderQuery) (metadata : FuturesSymbolMetadata) (clientOrderId : String) :
    query.request.execute (some metadata.filters) clientOrderId =
      let preview := OrderPreview.build query metadata
      .ok {
        order := preview.order.submitted clientOrderId
        rawQuantity := preview.rawQuantity
        estimatedNotional := preview.estimatedNotional
        minNotional := preview.minNotional
        stepSize := preview.stepSize
        notionalCheck := preview.notionalCheck } := by
  unfold PreviewRequest.execute
  simp only [PreviewOrderQuery.request, FuturesSymbolMetadata.filters, OrderQuantityRoundingPolicy.exact_quantity,
    OrderQuantityRoundingPolicy.exact_price, computed, Except.mapError, bind, Except.bind,
    OrderQuantityRoundingPolicy.exact_notional]
  rfl

theorem exact_closing_position (clientOrderId : String) (position : LivePosition) :
    closingPosition clientOrderId position.symbol position.side position.positionAmt =
      .ok ((closingOrder clientOrderId position).submitted clientOrderId) := rfl

end Sagittarius
