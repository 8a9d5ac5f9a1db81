import Sagittarius.Library.Lifecycle
import Sagittarius.Trading.UserDataEvents

set_option autoImplicit false

namespace Sagittarius

-- Two dicts, one by symbol and one by client order id.
structure LiveOrderBookCoordinator where
  positions : List LivePosition := []
  openOrders : List ReportedOrder := []
  positionSymbols : (positions.map LivePosition.symbol).Nodup := by simp
  openOrderIds : (openOrders.map ReportedOrder.clientOrderId).Nodup := by simp

namespace LiveOrderBookCoordinator

def replaceAll (positions : List LivePosition) (openOrders : List ReportedOrder) : LiveOrderBookCoordinator where
  positions := positions.foldl (KeyedRows.upsert LivePosition.symbol) []
  openOrders := openOrders.foldl (KeyedRows.upsert ReportedOrder.clientOrderId) []
  positionSymbols := KeyedRows.upserts_keys _ [] positions List.nodup_nil
  openOrderIds := KeyedRows.upserts_keys _ [] openOrders List.nodup_nil

def onOrderCancelled (book : LiveOrderBookCoordinator) (clientOrderId : String) : LiveOrderBookCoordinator :=
  { book with
    openOrders := KeyedRows.remove ReportedOrder.clientOrderId book.openOrders clientOrderId
    openOrderIds := KeyedRows.remove_keys _ book.openOrders clientOrderId book.openOrderIds }

def onOrderFilled (book : LiveOrderBookCoordinator) (order : ReportedOrder) : LiveOrderBookCoordinator :=
  if order.status.isTerminal then
    { book with
      openOrders := KeyedRows.remove ReportedOrder.clientOrderId book.openOrders order.clientOrderId
      openOrderIds := KeyedRows.remove_keys _ book.openOrders order.clientOrderId book.openOrderIds }
  else
    { book with
      openOrders := KeyedRows.upsert ReportedOrder.clientOrderId book.openOrders order
      openOrderIds := KeyedRows.upsert_keys _ book.openOrders order book.openOrderIds }

def onPositionChanged (book : LiveOrderBookCoordinator) (position : LivePosition) : LiveOrderBookCoordinator :=
  { book with
    positions := KeyedRows.upsert LivePosition.symbol book.positions position
    positionSymbols := KeyedRows.upsert_keys _ book.positions position book.positionSymbols }

def onPositionClosed (book : LiveOrderBookCoordinator) (symbol : String) : LiveOrderBookCoordinator :=
  { book with
    positions := KeyedRows.remove LivePosition.symbol book.positions symbol
    positionSymbols := KeyedRows.remove_keys _ book.positions symbol book.positionSymbols }

def openIds (book : LiveOrderBookCoordinator) : Set String :=
  {clientOrderId | clientOrderId ∈ book.openOrders.map ReportedOrder.clientOrderId}

end LiveOrderBookCoordinator

-- What reaches the screen after the snapshot: a message of the stream, a
-- cancel that the exchange has confirmed, a change of a position.
inductive BookUpdate
  | orderTradeUpdate (payload : Option OrderTradeUpdate)
  | accountUpdateRaised
  | orderCancelled (clientOrderId : String)
  | positionChanged (position : LivePosition)
  | positionClosed (symbol : String)
deriving DecidableEq

-- A handler's exception ends `_run_stream`.
structure StreamedOrderBook where
  running : Bool := true
  book : LiveOrderBookCoordinator

section Stream

variable (decimal : String → Except PyError ℚ)

def StreamedOrderBook.receive (streamed : StreamedOrderBook) : BookUpdate → StreamedOrderBook
  | .orderTradeUpdate payload =>
      if streamed.running then
        match handleOrderTradeUpdate decimal payload with
        | .ok (some event) => { streamed with book := streamed.book.onOrderFilled event.order }
        | .ok none => streamed
        | .error _ => { streamed with running := false }
      else streamed
  | .accountUpdateRaised => { streamed with running := false }
  | .orderCancelled clientOrderId => { streamed with book := streamed.book.onOrderCancelled clientOrderId }
  | .positionChanged position => { streamed with book := streamed.book.onPositionChanged position }
  | .positionClosed symbol => { streamed with book := streamed.book.onPositionClosed symbol }

def carriesFill (o : OrderTradeUpdate) : Bool := isFillExecution o && (fillDetails decimal o).toOption.isSome

def BookUpdate.raises : BookUpdate → Bool
  | .orderTradeUpdate payload => !(handleOrderTradeUpdate decimal payload).isOk
  | .accountUpdateRaised => true
  | .orderCancelled _ => false
  | .positionChanged _ => false
  | .positionClosed _ => false

def streamAfter (running : Bool) (update : BookUpdate) : Bool := running && !update.raises decimal

end Stream

-- What an order's status says of its life, by the transitions it still has.
def ReportedOrder.report (order : ReportedOrder) : Lifecycle.Report String where
  item := order.clientOrderId
  ended := order.status.isTerminal

-- What a message reports is the order it parses to, published or not.
def BookUpdate.notice (decimal : String → Except PyError ℚ) (running : Bool) : BookUpdate → Lifecycle.Notice String
  | .orderTradeUpdate payload =>
      match parseOrderTradeUpdate decimal payload with
      | .error _ => .silent
      | .ok order =>
          if running && payload.any (carriesFill decimal) then .shown order.report else .missed order.report
  | .accountUpdateRaised => .silent
  | .orderCancelled clientOrderId => .shown { item := clientOrderId, ended := true }
  | .positionChanged _ => .silent
  | .positionClosed _ => .silent

def noticesOf (decimal : String → Except PyError ℚ) (updates : List BookUpdate) : List (Lifecycle.Notice String) :=
  Lifecycle.notices (streamAfter decimal) (BookUpdate.notice decimal) true updates

def reportsOf (decimal : String → Except PyError ℚ) (snapshot : List ReportedOrder) (updates : List BookUpdate) :
    List (Lifecycle.Report String) :=
  Lifecycle.reportsAfter (snapshot.map ReportedOrder.report) (noticesOf decimal updates)

theorem published_fill_order (decimal : String → Except PyError ℚ) (payload : Option OrderTradeUpdate) :
    (handleOrderTradeUpdate decimal payload).toOption.join.map OrderFilledEvent.order =
      if payload.any (carriesFill decimal) then (parseOrderTradeUpdate decimal payload).toOption else none := by
  unfold handleOrderTradeUpdate
  cases parseOrderTradeUpdate decimal payload with
  | error error => cases error <;> exact (ite_self none).symm
  | ok order =>
      cases payload with
      | none => rfl
      | some o =>
          rw [Option.filter_some]
          cases fill : isFillExecution o with
          | false => simp [carriesFill, fill, Except.toOption]
          | true => cases details : fillDetails decimal o <;> simp [carriesFill, fill, details, Except.map, Except.toOption]

namespace LiveOrderBookCoordinator

theorem replace_all_ids (positions : List LivePosition) (snapshot : List ReportedOrder) :
    (replaceAll positions snapshot).openIds =
      {clientOrderId | Lifecycle.Reported (snapshot.map ReportedOrder.report) clientOrderId} := by
  ext clientOrderId
  have listed := KeyedRows.upserts_keys_iff ReportedOrder.clientOrderId [] snapshot clientOrderId
  simpa [openIds, replaceAll, Lifecycle.Reported, ReportedOrder.report] using listed

theorem cancelled_ids (book : LiveOrderBookCoordinator) (clientOrderId : String) :
    (book.onOrderCancelled clientOrderId).openIds = book.openIds \ {clientOrderId} := by
  ext other
  exact KeyedRows.remove_keys_iff ReportedOrder.clientOrderId book.openOrders clientOrderId other

theorem filled_ids (book : LiveOrderBookCoordinator) (order : ReportedOrder) :
    (book.onOrderFilled order).openIds = Lifecycle.display book.openIds (.shown order.report) := by
  ext other
  cases terminal : order.status.isTerminal with
  | true =>
      have removed := KeyedRows.remove_keys_iff ReportedOrder.clientOrderId book.openOrders order.clientOrderId other
      simpa [onOrderFilled, openIds, Lifecycle.display, ReportedOrder.report, terminal] using removed
  | false =>
      have inserted := KeyedRows.upsert_keys_iff ReportedOrder.clientOrderId book.openOrders order other
      simpa [onOrderFilled, openIds, Lifecycle.display, ReportedOrder.report, terminal] using inserted

end LiveOrderBookCoordinator

namespace StreamedOrderBook

variable (decimal : String → Except PyError ℚ)

theorem receive_running (streamed : StreamedOrderBook) (update : BookUpdate) :
    (streamed.receive decimal update).running = streamAfter decimal streamed.running update := by
  cases update with
  | orderTradeUpdate payload =>
      cases running : streamed.running with
      | false => simp [receive, streamAfter, running]
      | true =>
          simp only [receive, running, if_true, streamAfter, BookUpdate.raises]
          cases handleOrderTradeUpdate decimal payload with
          | error raised => rfl
          | ok event =>
              cases event with
              | none => exact running
              | some event => rfl
  | accountUpdateRaised => exact (Bool.and_false _).symm
  | orderCancelled clientOrderId => exact (Bool.and_true _).symm
  | positionChanged position => exact (Bool.and_true _).symm
  | positionClosed symbol => exact (Bool.and_true _).symm

theorem received_message (streamed : StreamedOrderBook) (running : streamed.running = true)
    (payload : Option OrderTradeUpdate) :
    (streamed.receive decimal (.orderTradeUpdate payload)).book =
      ((handleOrderTradeUpdate decimal payload).toOption.join.map OrderFilledEvent.order).elim streamed.book
        streamed.book.onOrderFilled := by
  simp only [receive, running, if_true]
  cases handleOrderTradeUpdate decimal payload with
  | error raised => rfl
  | ok event => cases event <;> rfl

theorem receive_ids (streamed : StreamedOrderBook) (update : BookUpdate) :
    (streamed.receive decimal update).book.openIds =
      Lifecycle.display streamed.book.openIds (update.notice decimal streamed.running) := by
  cases update with
  | orderTradeUpdate payload =>
      simp only [BookUpdate.notice]
      cases running : streamed.running with
      | false =>
          rw [receive, running]
          cases parseOrderTradeUpdate decimal payload <;> rfl
      | true =>
          rw [received_message decimal streamed running, published_fill_order]
          cases parseOrderTradeUpdate decimal payload with
          | error raised =>
              rw [Except.toOption, ite_self]
              rfl
          | ok order =>
              rw [Bool.true_and]
              split_ifs
              · exact streamed.book.filled_ids order
              · rfl
  | accountUpdateRaised => rfl
  | orderCancelled clientOrderId =>
      rw [receive, LiveOrderBookCoordinator.cancelled_ids]
      simp [BookUpdate.notice, Lifecycle.display]
  | positionChanged position => rfl
  | positionClosed symbol => rfl

theorem received_ids (updates : List BookUpdate) (streamed : StreamedOrderBook) :
    (updates.foldl (receive decimal) streamed).book.openIds =
      (Lifecycle.notices (streamAfter decimal) (BookUpdate.notice decimal) streamed.running updates).foldl
        Lifecycle.display streamed.book.openIds := by
  induction updates generalizing streamed with
  | nil => rfl
  | cons update rest ih =>
      rw [List.foldl_cons, ih, receive_ids, receive_running]
      rfl

end StreamedOrderBook

def limitOrderUpdate (clientOrderId execution status : String) : BookUpdate :=
  .orderTradeUpdate (some {
    c := some clientOrderId, s := some "BTCUSDT", S := some "BUY", o := some "LIMIT", q := some "2", X := some status
    x := some execution, L := some "64000", l := some "1" })

def restingOrder (clientOrderId : String) : ReportedOrder where
  clientOrderId := clientOrderId
  symbol := "BTCUSDT"
  side := .buy
  orderType := .limit
  quantity := 2
  price := some 64000
  timeInForce := some .gtc
  reduceOnly := false

end Sagittarius
