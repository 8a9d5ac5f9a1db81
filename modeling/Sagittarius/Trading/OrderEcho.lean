import Sagittarius.Trading.FuturesPayloads
import Sagittarius.Trading.PlainNumerals

set_option autoImplicit false

namespace Sagittarius

open Decimals (Number)

def SubmittedOrder.numbers {δ : Type} (order : SubmittedOrder δ) : List δ :=
  order.quantity :: order.price.toList ++ order.stopPrice.toList

section Echo

variable (decimal : String → Except PyError ℚ)

def ReadsBack (order : SubmittedOrder Number) : Prop :=
  ∀ number ∈ order.numbers, ∃ value, number.value = some value ∧ decimal number.str = .ok value

-- A number comes back as the exchange writes it, one that was not sent as
-- zero or not at all.
def SameNumber (sent echoed : Option String) : Prop :=
  match sent with
  | some text => ∃ other, echoed = some other ∧ decimal other = decimal text
  | none => ∀ other ∈ echoed, decimal other = .ok 0

-- What the exchange reports of an order it was sent. A time in force that was
-- not sent may come back filled in.
structure Echoes (params : FuturesOrderParams) (payload : OrderPayload) : Prop where
  type : payload.type = some params.type
  clientOrderId : payload.clientOrderId = some params.newClientOrderId
  symbol : payload.symbol = some params.symbol
  side : payload.side = some params.side
  origQty : SameNumber decimal (some params.quantity) payload.origQty
  price : SameNumber decimal params.price payload.price
  stopPrice : SameNumber decimal params.stopPrice payload.stopPrice
  timeInForce : ∀ sent ∈ params.timeInForce, payload.timeInForce = some sent
  reduceOnly : payload.reduceOnly = params.reduceOnly
  status : payload.status.isSome

def toldPrice (number : Option Number) : Option ℚ := (number.bind Number.value).filter (· ≠ 0)

theorem mapped_names (order : SubmittedOrder Number) (metadata : SymbolFilters Number) (params : FuturesOrderParams)
    (mapped : mapOrderToFuturesParams Number.str order metadata = .ok params) :
    params.symbol = order.symbol ∧ params.side = order.side.value ∧ params.type = order.orderType.name ∧
      params.newClientOrderId = order.clientOrderId ∧ params.reduceOnly = order.reduceOnly ∧
      (order.orderType = .limit → params.timeInForce = order.timeInForce.map TimeInForce.value) := by
  obtain ⟨⟨⟩, _, mapped⟩ := bind_ok _ _ _ mapped
  cases kind : order.orderType with
  | limit =>
      obtain ⟨limited, limit, mapped⟩ := bind_ok _ _ _ mapped
      rw [kind] at limit mapped
      obtain ⟨price, timeInForce, _, timed, _, rfl⟩ := limit_params_ok Number.str order metadata _ _ limit
      cases mapped
      exact ⟨rfl, rfl, rfl, rfl, rfl, fun _ => by rw [timed]; rfl⟩
  | market =>
      rw [kind] at mapped
      cases mapped
      exact ⟨rfl, rfl, rfl, rfl, rfl, nofun⟩
  | unknown =>
      rw [kind] at mapped
      cases mapped
      exact ⟨rfl, rfl, rfl, rfl, rfl, nofun⟩
  | stopMarket =>
      rw [kind] at mapped
      obtain ⟨_, _, _, rfl⟩ := stop_params_ok Number.str order metadata _ _ mapped
      exact ⟨rfl, rfl, rfl, rfl, rfl, nofun⟩
  | takeProfitMarket =>
      rw [kind] at mapped
      obtain ⟨_, _, _, rfl⟩ := stop_params_ok Number.str order metadata _ _ mapped
      exact ⟨rfl, rfl, rfl, rfl, rfl, nofun⟩

theorem type_named (orderType : OrderType) : orderTypeOrUnknown orderType.name = orderType := by
  cases orderType <;> rfl

theorem side_named (side : OrderSide) : orderSideNamed side.value = .ok side := by
  cases side <;> rfl

theorem time_in_force_named (timeInForce : TimeInForce) : timeInForceOrNone (some timeInForce.value) = some timeInForce := by
  cases timeInForce <;> rfl

theorem unsent_reads_none (echoed : Option String) (same : SameNumber decimal none echoed) :
    decimalOrNone decimal echoed = .ok none := by
  cases echoed with
  | none => rfl
  | some text =>
      rw [decimalOrNone, same text rfl]
      rfl

theorem sent_reads_back (number : Number) (echoed : Option String) (value : ℚ) (isValue : number.value = some value)
    (back : decimal number.str = .ok value) (same : SameNumber decimal (some number.str) echoed) :
    decimalOrNone decimal echoed = .ok (toldPrice (some number)) := by
  obtain ⟨text, rfl, reads⟩ := same
  rw [decimalOrNone, reads, back, toldPrice, Option.bind_some, isValue]
  by_cases zero : value = 0
  · rw [Option.filter_some_neg (by simpa using zero), Except.map, if_neg (not_not.mpr zero)]
  · rw [Option.filter_some_pos (by simpa using zero), Except.map, if_pos zero]

-- An order of the application is the order it reads back from the exchange,
-- down to a price of zero, which is taken for none.
theorem submitted_order_comes_back (order : SubmittedOrder Number) (metadata : SymbolFilters Number)
    (params : FuturesOrderParams) (payload : OrderPayload) (readsBack : ReadsBack decimal order)
    (mapped : mapOrderToFuturesParams Number.str order metadata = .ok params) (echoes : Echoes decimal params payload) :
    ∃ reported, mapFuturesOrderPayloadToOrder decimal payload = .ok reported ∧
      reported.clientOrderId = order.clientOrderId ∧ reported.symbol = order.symbol ∧ reported.side = order.side ∧
      reported.orderType = order.orderType ∧ reported.reduceOnly = order.reduceOnly ∧
      order.quantity.value = some reported.quantity ∧
      reported.price = (if isLimit order.orderType then toldPrice order.price else none) ∧
      reported.stopPrice = (if isStopOrder order.orderType then toldPrice order.stopPrice else none) ∧
      (order.orderType = .limit → reported.timeInForce = order.timeInForce) := by
  obtain ⟨symbol, side, type, clientOrderId, reduceOnly, timed⟩ := mapped_names order metadata params mapped
  obtain ⟨_, quantitySent, priceSent, stopSent⟩ := mapped_numbers Number.str order metadata params mapped
  obtain ⟨quantity, isQuantity, quantityBack⟩ := readsBack order.quantity (by simp [SubmittedOrder.numbers])
  obtain ⟨text, hasText, reads⟩ := echoes.origQty
  obtain ⟨status, hasStatus⟩ := Option.isSome_iff_exists.mp echoes.status
  have origQty : decimalField decimal "origQty" payload.origQty = .ok quantity := by
    rw [decimalField, hasText]
    exact reads.trans ((congrArg decimal quantitySent).trans quantityBack)
  have price : decimalOrNone decimal payload.price = .ok (if isLimit order.orderType then toldPrice order.price else none) := by
    cases limited : isLimit order.orderType with
    | false =>
        rw [limited, if_neg Bool.false_ne_true] at priceSent
        exact unsent_reads_none decimal payload.price (priceSent ▸ echoes.price)
    | true =>
        rw [limited, if_pos rfl] at priceSent
        obtain ⟨held, priced, _, sent⟩ := priceSent
        obtain ⟨value, isValue, back⟩ := readsBack held (by simp [SubmittedOrder.numbers, priced])
        rw [if_pos rfl, priced]
        exact sent_reads_back decimal held payload.price value isValue back (sent ▸ echoes.price)
  have stopPrice : decimalOrNone decimal payload.stopPrice =
      .ok (if isStopOrder order.orderType then toldPrice order.stopPrice else none) := by
    cases stops : isStopOrder order.orderType with
    | false =>
        rw [stops, if_neg Bool.false_ne_true] at stopSent
        exact unsent_reads_none decimal payload.stopPrice (stopSent ▸ echoes.stopPrice)
    | true =>
        rw [stops, if_pos rfl] at stopSent
        obtain ⟨held, priced, _, sent⟩ := stopSent
        obtain ⟨value, isValue, back⟩ := readsBack held (by simp [SubmittedOrder.numbers, priced])
        rw [if_pos rfl, priced]
        exact sent_reads_back decimal held payload.stopPrice value isValue back (sent ▸ echoes.stopPrice)
  have timeInForce : order.orderType = .limit → timeInForceOrNone payload.timeInForce = order.timeInForce := by
    intro limited
    cases chosen : order.timeInForce with
    | none =>
        obtain ⟨⟨⟩, _, mapped⟩ := bind_ok _ _ _ mapped
        obtain ⟨_, limit, _⟩ := bind_ok _ _ _ mapped
        rw [limited] at limit
        obtain ⟨_, _, _, isTimed, _⟩ := limit_params_ok Number.str order metadata _ _ limit
        cases chosen.symm.trans isTimed
    | some held =>
        rw [echoes.timeInForce held.value (by rw [timed limited, chosen]; rfl)]
        exact time_in_force_named held
  let reported : ReportedOrder := {
    clientOrderId := order.clientOrderId
    symbol := order.symbol
    side := order.side
    orderType := order.orderType
    quantity
    status := orderStatusOrUnknown status
    price := if isLimit order.orderType then toldPrice order.price else none
    stopPrice := if isStopOrder order.orderType then toldPrice order.stopPrice else none
    timeInForce := timeInForceOrNone payload.timeInForce
    reduceOnly := order.reduceOnly
    orderTime := ((truthyTime payload.updateTime).or (truthyTime payload.time)).map (· * 1000) }
  refine ⟨reported, ?_, rfl, rfl, rfl, rfl, rfl, isQuantity, rfl, rfl, timeInForce⟩
  unfold mapFuturesOrderPayloadToOrder
  rw [echoes.type, echoes.clientOrderId, echoes.symbol, echoes.side, hasStatus, type, clientOrderId, symbol, side,
    origQty, price, stopPrice, echoes.reduceOnly, reduceOnly]
  simp only [required, bind, Except.bind, side_named, type_named]
  rfl

end Echo

def decimalOfPlain (text : String) : Except PyError ℚ := (Decimals.readPlain text).elim (.error (.invalidOperation text)) .ok

def echoedOrder : SubmittedOrder Number where
  clientOrderId := "SEW-a91f4c72e0b8"
  symbol := "BTCUSDT"
  side := .sell
  orderType := .limit
  quantity := .finite false 25 (-3)
  price := some (.finite false 6500000 (-2))
  timeInForce := some .gtc

def restingPayload : OrderPayload where
  type := some "LIMIT"
  clientOrderId := some "SEW-a91f4c72e0b8"
  symbol := some "BTCUSDT"
  side := some "SELL"
  origQty := some "0.0250"
  status := some "NEW"
  price := some "65000"
  stopPrice := some "0"
  timeInForce := some "GTC"
  updateTime := some 1700000000000

def restingParams : FuturesOrderParams where
  symbol := "BTCUSDT"
  side := "SELL"
  type := "LIMIT"
  quantity := "0.025"
  newClientOrderId := "SEW-a91f4c72e0b8"
  positionSide := "BOTH"
  reduceOnly := false
  price := some "65000.00"
  timeInForce := some "GTC"

theorem resting_echoed : Echoes decimalOfPlain restingParams restingPayload where
  type := rfl
  clientOrderId := rfl
  symbol := rfl
  side := rfl
  origQty := ⟨"0.0250", rfl, by decide +kernel⟩
  price := ⟨"65000", rfl, by decide +kernel⟩
  stopPrice := by
    rintro text ⟨⟩
    decide +kernel
  timeInForce := by
    rintro text ⟨⟩
    rfl
  reduceOnly := rfl
  status := rfl

theorem resting_reads_back : ReadsBack decimalOfPlain echoedOrder := by
  intro number sent
  simp only [SubmittedOrder.numbers, echoedOrder, Option.toList_some, Option.toList_none, List.append_nil, List.mem_cons,
    List.not_mem_nil, or_false] at sent
  rcases sent with rfl | rfl
  · exact ⟨25 * 10 ^ (-3 : ℤ), rfl, by decide +kernel⟩
  · exact ⟨6500000 * 10 ^ (-2 : ℤ), rfl, by decide +kernel⟩

theorem resting_order_comes_back :
    ∃ reported, mapFuturesOrderPayloadToOrder decimalOfPlain restingPayload = .ok reported ∧
      reported.side = .sell ∧ reported.timeInForce = some .gtc := by
  have mapped : mapOrderToFuturesParams Number.str echoedOrder bitcoinFilters = .ok restingParams := by decide +kernel
  obtain ⟨reported, decoded, _, _, side, _, _, _, _, _, timed⟩ := submitted_order_comes_back decimalOfPlain echoedOrder
    bitcoinFilters restingParams restingPayload resting_reads_back mapped resting_echoed
  exact ⟨reported, decoded, side, timed rfl⟩

end Sagittarius
