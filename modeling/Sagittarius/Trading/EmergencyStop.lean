import Mathlib.Data.List.Sort
import Mathlib.Data.Prod.Lex
import Mathlib.Data.String.Basic
import Sagittarius.Library.Attempts
import Sagittarius.Trading.FuturesPayloads
import Sagittarius.Trading.TradingSessionState

set_option autoImplicit false

namespace Sagittarius

structure EmergencyStopStepResult where
  succeeded : Bool
  detail : String
deriving DecidableEq

structure EmergencyStopResult where
  tradingDisabled : EmergencyStopStepResult
  ordersCancelled : EmergencyStopStepResult
  positionsClosed : EmergencyStopStepResult
  finalPositions : List LivePosition := []
  finalOpenOrders : List ReportedOrder := []
  finalStateConfirmed : Bool := false
deriving DecidableEq

def EmergencyStopResult.fullySucceeded (result : EmergencyStopResult) : Bool :=
  result.tradingDisabled.succeeded && result.ordersCancelled.succeeded && result.positionsClosed.succeeded

-- What the calls of one emergency stop answer, each in its turn: a value, or
-- the text of the exception. Nothing ties an answer to another, as the account
-- may change between two calls.
structure EmergencyAnswers where
  stopStream : Except String Bool
  openOrders : Except String (List OrderPayload)
  -- the number of orders that `cancel_all_orders` has read
  cancelAllOrders : String → Except String ℕ
  positions : Except String (List PositionPayload)
  placeOrder : ℕ → ReportedOrder → Except String Unit
  finalPositions : Except String (List PositionPayload)
  finalOpenOrders : Except String (List OrderPayload)
  generateClientOrderId : ℕ → String
  now : ℤ

section Client

variable (decimal : String → Except PyError ℚ)

def getOpenOrders : Except String (List OrderPayload) → Except String (List ReportedOrder)
  | .error exc => .error exc
  | .ok payloads => (payloads.mapM (mapFuturesOrderPayloadToOrder decimal)).mapError PyError.text

-- One round of the comprehension: an entry that is flat is left out unread.
def openPosition (now : ℤ) (payload : PositionPayload) : Except PyError (Option LivePosition) := do
  if (← decimal (payload.positionAmt.getD "0")) ≠ 0 then
    return some (← mapFuturesPositionPayloadToLivePosition decimal now payload)
  else return none

def getPositions (now : ℤ) : Except String (List PositionPayload) → Except String (List LivePosition)
  | .error exc => .error exc
  | .ok payloads =>
      match payloads.mapM (openPosition decimal now) with
      | .error error => .error error.text
      | .ok found => .ok found.reduceOption

end Client

def sortedSymbols (orders : List ReportedOrder) : List String :=
  (orders.map fun order => order.symbol).dedup.insertionSort (· ≤ ·)

def closingOrder (clientOrderId : String) (position : LivePosition) : ReportedOrder where
  clientOrderId := clientOrderId
  symbol := position.symbol
  side := if position.side = .long then .sell else .buy
  orderType := .market
  quantity := |position.positionAmt|
  price := none
  timeInForce := none
  reduceOnly := true

def cancelLoop (cancelAllOrders : String → Except String ℕ) (total : ℕ) :
    ℕ → List String → EmergencyStopStepResult × List String
  | cancelled, [] => ({ succeeded := true, detail := s!"Cancelled {cancelled} open orders." }, [])
  | cancelled, symbol :: rest =>
      match cancelAllOrders symbol with
      | .ok count =>
          let after := cancelLoop cancelAllOrders total (cancelled + count) rest
          (after.1, symbol :: after.2)
      | .error exc =>
          let remaining : ℤ := total - cancelled
          ({ succeeded := false
             detail := s!"Cancelled {cancelled}/{total} open orders — error on {symbol}: {exc}. " ++
               s!"{remaining} orders still not cancelled." }, [symbol])

def closeLoop (placeOrder : ℕ → ReportedOrder → Except String Unit) (generateClientOrderId : ℕ → String) (total : ℕ) :
    ℕ → List LivePosition → EmergencyStopStepResult × List ReportedOrder
  | closed, [] => ({ succeeded := true, detail := s!"Closed {closed} positions." }, [])
  | closed, position :: rest =>
      let order := closingOrder (generateClientOrderId closed) position
      match placeOrder closed order with
      | .ok _ =>
          let after := closeLoop placeOrder generateClientOrderId total (closed + 1) rest
          (after.1, order :: after.2)
      | .error exc =>
          ({ succeeded := false
             detail := s!"Closed {closed}/{total} positions — error on {position.symbol}: {exc}. " ++
               s!"{total - closed} positions still open." }, [order])

structure EmergencyRun where
  session : TradingSessionState
  cancels : List String
  closes : List ReportedOrder
  result : EmergencyStopResult

namespace EmergencyAnswers

variable (decimal : String → Except PyError ℚ) (answers : EmergencyAnswers)

-- The session is disabled before the stream is stopped.
def disableTrading : EmergencyStopStepResult :=
  match answers.stopStream with
  | .ok _ => { succeeded := true, detail := "Trading disabled." }
  | .error exc => { succeeded := false, detail := s!"Error disabling trading: {exc}" }

def cancelStep : EmergencyStopStepResult × List String :=
  match getOpenOrders decimal answers.openOrders with
  | .error exc => ({ succeeded := false, detail := s!"Error reading open orders: {exc}" }, [])
  | .ok [] => ({ succeeded := true, detail := "No open orders." }, [])
  | .ok orders => cancelLoop answers.cancelAllOrders orders.length 0 (sortedSymbols orders)

def closeStep : EmergencyStopStepResult × List ReportedOrder :=
  match getPositions decimal answers.now answers.positions with
  | .error exc => ({ succeeded := false, detail := s!"Error reading positions: {exc}" }, [])
  | .ok [] => ({ succeeded := true, detail := "No open positions." }, [])
  | .ok positions => closeLoop answers.placeOrder answers.generateClientOrderId positions.length 0 positions

def readFinalState : List LivePosition × List ReportedOrder × Bool :=
  match getPositions decimal answers.now answers.finalPositions, getOpenOrders decimal answers.finalOpenOrders with
  | .ok positions, .ok orders => (positions, orders, true)
  | _, _ => ([], [], false)

def emergencyStop (session : TradingSessionState) : EmergencyRun :=
  let cancelled := answers.cancelStep decimal
  let closed := answers.closeStep decimal
  let final := answers.readFinalState decimal
  { session := session.disable
    cancels := cancelled.2
    closes := closed.2
    result := {
      tradingDisabled := answers.disableTrading
      ordersCancelled := cancelled.1
      positionsClosed := closed.1
      finalPositions := final.1
      finalOpenOrders := final.2.1
      finalStateConfirmed := final.2.2 } }

end EmergencyAnswers

theorem cancel_loop_succeeds (cancelAllOrders : String → Except String ℕ) (total cancelled : ℕ) (symbols : List String) :
    (cancelLoop cancelAllOrders total cancelled symbols).1.succeeded = true ↔
      ∀ symbol ∈ symbols, (cancelAllOrders symbol).isOk = true := by
  induction symbols generalizing cancelled with
  | nil => simp [cancelLoop]
  | cons symbol rest ih =>
      cases answer : cancelAllOrders symbol with
      | error exc => simp [cancelLoop, answer, Except.isOk, Except.toBool]
      | ok count =>
          simp only [cancelLoop, answer, List.forall_mem_cons]
          rw [ih (cancelled + count)]
          simp [Except.isOk, Except.toBool]

theorem cancel_loop_tries (cancelAllOrders : String → Except String ℕ) (total cancelled : ℕ) (symbols : List String) :
    (cancelLoop cancelAllOrders total cancelled symbols).2 =
      Attempts.untilFailure (fun symbol => (cancelAllOrders symbol).isOk) symbols := by
  induction symbols generalizing cancelled with
  | nil => rfl
  | cons symbol rest ih =>
      cases answer : cancelAllOrders symbol with
      | error exc => simp [cancelLoop, answer, Attempts.untilFailure, Except.isOk, Except.toBool]
      | ok count =>
          simp only [cancelLoop, answer, Attempts.untilFailure]
          rw [ih (cancelled + count)]
          simp [Except.isOk, Except.toBool]

section Closes

variable (placeOrder : ℕ → ReportedOrder → Except String Unit) (generateClientOrderId : ℕ → String)

def closingOf (item : LivePosition × ℕ) : ReportedOrder := closingOrder (generateClientOrderId item.2) item.1

def accepted (item : LivePosition × ℕ) : Bool := (placeOrder item.2 (closingOf generateClientOrderId item)).isOk

theorem close_loop_succeeds (total closed : ℕ) (positions : List LivePosition) :
    (closeLoop placeOrder generateClientOrderId total closed positions).1.succeeded = true ↔
      ∀ item ∈ positions.zipIdx closed, accepted placeOrder generateClientOrderId item = true := by
  induction positions generalizing closed with
  | nil => simp [closeLoop]
  | cons position rest ih =>
      rw [List.zipIdx_cons, List.forall_mem_cons]
      cases answer : placeOrder closed (closingOrder (generateClientOrderId closed) position) with
      | error exc => simp [closeLoop, answer, accepted, closingOf, Except.isOk, Except.toBool]
      | ok done =>
          simp only [closeLoop, answer]
          rw [ih (closed + 1)]
          simp [accepted, closingOf, answer, Except.isOk, Except.toBool]

theorem close_loop_tries (total closed : ℕ) (positions : List LivePosition) :
    (closeLoop placeOrder generateClientOrderId total closed positions).2 =
      (Attempts.untilFailure (accepted placeOrder generateClientOrderId) (positions.zipIdx closed)).map
        (closingOf generateClientOrderId) := by
  induction positions generalizing closed with
  | nil => rfl
  | cons position rest ih =>
      rw [List.zipIdx_cons, Attempts.untilFailure]
      cases answer : placeOrder closed (closingOrder (generateClientOrderId closed) position) with
      | error exc => simp [closeLoop, answer, accepted, closingOf, Except.isOk, Except.toBool]
      | ok done =>
          simp only [closeLoop, answer]
          rw [ih (closed + 1)]
          simp [accepted, closingOf, answer, Except.isOk, Except.toBool]

end Closes

section Verdict

variable (decimal : String → Except PyError ℚ) (answers : EmergencyAnswers)

namespace EmergencyAnswers

theorem cancel_step_succeeds : (answers.cancelStep decimal).1.succeeded = true ↔
    ∃ orders, getOpenOrders decimal answers.openOrders = .ok orders ∧
      ∀ symbol ∈ sortedSymbols orders, (answers.cancelAllOrders symbol).isOk = true := by
  unfold cancelStep
  cases getOpenOrders decimal answers.openOrders with
  | error exc => simp
  | ok orders =>
      cases orders with
      | nil => simp [sortedSymbols]
      | cons order rest => simp [cancel_loop_succeeds]

theorem cancel_step_tries (orders : List ReportedOrder)
    (parsed : getOpenOrders decimal answers.openOrders = .ok orders) :
    (answers.cancelStep decimal).2 =
      Attempts.untilFailure (fun symbol => (answers.cancelAllOrders symbol).isOk) (sortedSymbols orders) := by
  rw [cancelStep, parsed]
  cases orders with
  | nil => rfl
  | cons order rest => exact cancel_loop_tries _ _ _ _

theorem close_step_succeeds : (answers.closeStep decimal).1.succeeded = true ↔
    ∃ positions, getPositions decimal answers.now answers.positions = .ok positions ∧
      ∀ item ∈ positions.zipIdx, accepted answers.placeOrder answers.generateClientOrderId item = true := by
  unfold closeStep
  cases getPositions decimal answers.now answers.positions with
  | error exc => simp
  | ok positions =>
      cases positions with
      | nil => simp
      | cons position rest =>
          rw [close_loop_succeeds]
          simp only [Except.ok.injEq, exists_eq_left']

theorem close_step_tries (positions : List LivePosition)
    (parsed : getPositions decimal answers.now answers.positions = .ok positions) :
    (answers.closeStep decimal).2 =
      (Attempts.untilFailure (accepted answers.placeOrder answers.generateClientOrderId) positions.zipIdx).map
        (closingOf answers.generateClientOrderId) := by
  rw [closeStep, parsed]
  cases positions with
  | nil => rfl
  | cons position rest => exact close_loop_tries _ _ _ _ _

structure StepsSucceed : Prop where
  disabled : answers.stopStream.isOk = true
  cancelled : ∃ orders, getOpenOrders decimal answers.openOrders = .ok orders ∧
    ∀ symbol ∈ sortedSymbols orders, (answers.cancelAllOrders symbol).isOk = true
  closed : ∃ positions, getPositions decimal answers.now answers.positions = .ok positions ∧
    ∀ item ∈ positions.zipIdx, accepted answers.placeOrder answers.generateClientOrderId item = true

structure EndsFlat : Prop where
  positions : getPositions decimal answers.now answers.finalPositions = .ok []
  openOrders : getOpenOrders decimal answers.finalOpenOrders = .ok []

theorem fully_succeeded_iff (session : TradingSessionState) :
    (answers.emergencyStop decimal session).result.fullySucceeded = true ↔ answers.StepsSucceed decimal := by
  have disabled : answers.disableTrading.succeeded = true ↔ answers.stopStream.isOk = true := by
    unfold disableTrading
    cases answers.stopStream <;> simp [Except.isOk, Except.toBool]
  simp only [emergencyStop, EmergencyStopResult.fullySucceeded, Bool.and_eq_true, disabled, cancel_step_succeeds,
    close_step_succeeds]
  constructor
  · rintro ⟨⟨disabled, cancelled⟩, closed⟩
    exact ⟨disabled, cancelled, closed⟩
  · intro succeed
    exact ⟨⟨succeed.disabled, succeed.cancelled⟩, succeed.closed⟩

theorem final_state_flat_iff (session : TradingSessionState) (result : EmergencyStopResult)
    (same : result = (answers.emergencyStop decimal session).result) :
    (result.finalStateConfirmed = true ∧ result.finalPositions = [] ∧ result.finalOpenOrders = []) ↔
      answers.EndsFlat decimal := by
  rw [same]
  simp only [emergencyStop, readFinalState]
  cases positions : getPositions decimal answers.now answers.finalPositions with
  | error exc => exact ⟨fun confirmed => by simp at confirmed, fun flat => by simp [flat.positions] at positions⟩
  | ok positions =>
      cases orders : getOpenOrders decimal answers.finalOpenOrders with
      | error exc => exact ⟨fun confirmed => by simp at confirmed, fun flat => by simp [flat.openOrders] at orders⟩
      | ok orders =>
          constructor
          · rintro ⟨_, rfl, rfl⟩
            exact ⟨by assumption, by assumption⟩
          · intro flat
            exact ⟨rfl, Except.ok.inj (positions.symm.trans flat.positions), Except.ok.inj (orders.symm.trans flat.openOrders)⟩

end EmergencyAnswers

end Verdict

def openEntry (symbol positionAmt : String) : PositionPayload where
  symbol := some symbol
  positionAmt := some positionAmt
  entryPrice := some "64000"
  markPrice := some "64500"
  unRealizedProfit := some "1"
  notional := some "128"
  initialMargin := some "16"

def orderEntry (symbol : String) : OrderPayload where
  type := some "LIMIT"
  clientOrderId := some "SEW-1"
  symbol := some symbol
  side := some "BUY"
  origQty := some "2"
  status := some "NEW"

def quietAnswers (orders : List OrderPayload) (positions : List PositionPayload) : EmergencyAnswers where
  stopStream := .ok true
  openOrders := .ok orders
  cancelAllOrders _ := .ok 1
  positions := .ok positions
  placeOrder _ _ := .ok ()
  finalPositions := .ok []
  finalOpenOrders := .ok []
  generateClientOrderId n := "SEW-" ++ toString n
  now := 0

section Exhaustion

variable (decimal : String → Except PyError ℚ) (answers : EmergencyAnswers)

def requiredClose (payload : PositionPayload) : Option Order :=
  match (decimal (payload.positionAmt.getD "0")).toOption, payload.symbol with
  | some amount, some symbol =>
      if amount = 0 then none
      else some {
        symbol
        side := if 0 < amount then .sell else .buy
        orderType := .market
        quantity := |amount|
        price := none
        timeInForce := none
        reduceOnly := true }
  | _, _ => none

theorem closing_side (clientOrderId : String) (position : LivePosition) :
    (closingOrder clientOrderId position).side = if 0 < position.positionAmt then .sell else .buy := by
  by_cases long : 0 < position.positionAmt
  · simp [closingOrder, LivePosition.side, long]
  · simp [closingOrder, LivePosition.side, long]

theorem open_position_closes (clientOrderId : String) (now : ℤ) (payload : PositionPayload) (found : Option LivePosition)
    (read : openPosition decimal now payload = .ok found) :
    (found.map fun position => (closingOrder clientOrderId position).toOrder) = requiredClose decimal payload := by
  obtain ⟨amount, parsed, read⟩ := bind_ok _ _ _ read
  by_cases flat : amount = 0
  · rw [if_neg (not_not.mpr flat)] at read
    cases read
    simp only [requiredClose, parsed, flat]
    cases payload.symbol <;> rfl
  · rw [if_pos flat] at read
    obtain ⟨position, mapped, read⟩ := bind_ok _ _ _ read
    cases read
    obtain ⟨symbol, raw, held, same⟩ := mapped_position decimal now payload position mapped
    rw [held, Option.getD_some, same] at parsed
    cases parsed
    simp only [requiredClose, held, Option.getD_some, same, symbol, Except.toOption, if_neg flat, Option.map_some,
      ← closing_side clientOrderId position]
    rfl

theorem positions_close (clientOrderId : String) (now : ℤ) (payloads : List PositionPayload)
    (positions : List LivePosition) (parsed : getPositions decimal now (.ok payloads) = .ok positions) :
    (positions.map fun position => (closingOrder clientOrderId position).toOrder) =
      payloads.filterMap (requiredClose decimal) := by
  rw [getPositions] at parsed
  cases read : payloads.mapM (openPosition decimal now) with
  | error error =>
      rw [read] at parsed
      cases parsed
  | ok found =>
      rw [read] at parsed
      cases parsed
      have each := Attempts.comprehension_each _ payloads found read
      clear read
      induction each with
      | nil => rfl
      | cons head tail ih =>
          rename_i payload entry payloads found
          rw [List.filterMap_cons, ← open_position_closes decimal clientOrderId now payload entry head, ← ih]
          cases entry <;> rfl

theorem orders_symbols (payloads : List OrderPayload) (orders : List ReportedOrder)
    (parsed : getOpenOrders decimal (.ok payloads) = .ok orders) :
    payloads.map (·.symbol) = orders.map fun order => some order.symbol := by
  rw [getOpenOrders] at parsed
  cases read : payloads.mapM (mapFuturesOrderPayloadToOrder decimal) with
  | error error =>
      rw [read] at parsed
      cases parsed
  | ok found =>
      rw [read] at parsed
      cases parsed
      have each := Attempts.comprehension_each _ payloads orders read
      clear read
      induction each with
      | nil => rfl
      | cons head tail ih => rw [List.map_cons, List.map_cons, mapped_order_symbol decimal _ _ head, ih]

theorem mem_sorted_symbols (orders : List ReportedOrder) (symbol : String) :
    symbol ∈ sortedSymbols orders ↔ ∃ order ∈ orders, order.symbol = symbol := by
  simp [sortedSymbols]

theorem sorted_symbols_nodup (orders : List ReportedOrder) : (sortedSymbols orders).Nodup :=
  (List.perm_insertionSort _ _).nodup_iff.mpr (List.nodup_dedup _)

namespace EmergencyAnswers

-- A cancel for every symbol with an open order, and a closing order for every
-- open position, of those that the exchange lists.
structure Exhaustive (run : EmergencyRun) : Prop where
  cancels : ∀ payloads, answers.openOrders = .ok payloads →
    ∀ payload ∈ payloads, ∀ symbol ∈ payload.symbol, symbol ∈ run.cancels
  closes : ∀ payloads, answers.positions = .ok payloads →
    run.closes.map ReportedOrder.toOrder = payloads.filterMap (requiredClose decimal)

-- Each list needs no call, or is read whole and only its last call fails.
structure FailsLast : Prop where
  cancels : ∀ payloads, answers.openOrders = .ok payloads → (∀ payload ∈ payloads, payload.symbol = none) ∨
    ∃ orders, getOpenOrders decimal (.ok payloads) = .ok orders ∧
      ∀ symbol ∈ (sortedSymbols orders).dropLast, (answers.cancelAllOrders symbol).isOk = true
  closes : ∀ payloads, answers.positions = .ok payloads → payloads.filterMap (requiredClose decimal) = [] ∨
    ∃ positions, getPositions decimal answers.now (.ok payloads) = .ok positions ∧
      ∀ item ∈ positions.zipIdx.dropLast, accepted answers.placeOrder answers.generateClientOrderId item = true

theorem cancels_exhaustive_iff (payloads : List OrderPayload) (returned : answers.openOrders = .ok payloads) :
    (∀ payload ∈ payloads, ∀ symbol ∈ payload.symbol, symbol ∈ (answers.cancelStep decimal).2) ↔
      (∀ payload ∈ payloads, payload.symbol = none) ∨
        ∃ orders, getOpenOrders decimal (.ok payloads) = .ok orders ∧
          ∀ symbol ∈ (sortedSymbols orders).dropLast, (answers.cancelAllOrders symbol).isOk = true := by
  cases parsed : getOpenOrders decimal (.ok payloads) with
  | error exc =>
      rw [cancelStep, returned, parsed]
      simp [Option.eq_none_iff_forall_not_mem]
  | ok orders =>
      have same := orders_symbols decimal payloads orders parsed
      have listed : ∀ symbol, symbol ∈ sortedSymbols orders ↔ ∃ payload ∈ payloads, symbol ∈ payload.symbol := by
        intro symbol
        have member : some symbol ∈ payloads.map (·.symbol) ↔ some symbol ∈ orders.map fun order => some order.symbol := by
          rw [same]
        simpa [mem_sorted_symbols] using member.symm
      rw [cancel_step_tries decimal answers orders (returned ▸ parsed)]
      have reaches := Attempts.until_failure_reaches_iff (fun symbol => (answers.cancelAllOrders symbol).isOk)
        (sortedSymbols orders) (sorted_symbols_nodup orders)
      constructor
      · intro exhaustive
        refine .inr ⟨orders, rfl, reaches.mp fun symbol sorted => ?_⟩
        obtain ⟨payload, isPayload, holds⟩ := (listed symbol).mp sorted
        exact exhaustive payload isPayload symbol holds
      · rintro (nothing | ⟨others, isOrders, failsLast⟩) payload isPayload symbol holds
        · rw [nothing payload isPayload] at holds
          cases holds
        · cases isOrders
          exact reaches.mpr failsLast symbol ((listed symbol).mpr ⟨payload, isPayload, holds⟩)

theorem closes_exhaustive_iff (payloads : List PositionPayload) (returned : answers.positions = .ok payloads) :
    (answers.closeStep decimal).2.map ReportedOrder.toOrder = payloads.filterMap (requiredClose decimal) ↔
      payloads.filterMap (requiredClose decimal) = [] ∨
        ∃ positions, getPositions decimal answers.now (.ok payloads) = .ok positions ∧
          ∀ item ∈ positions.zipIdx.dropLast, accepted answers.placeOrder answers.generateClientOrderId item = true := by
  cases parsed : getPositions decimal answers.now (.ok payloads) with
  | error exc =>
      rw [closeStep, returned, parsed]
      constructor
      · intro none
        exact .inl none.symm
      · rintro (none | ⟨positions, isPositions, _⟩)
        · exact none.symm
        · cases isPositions
  | ok positions =>
      have required : (positions.zipIdx.map fun item => (closingOf answers.generateClientOrderId item).toOrder) =
          payloads.filterMap (requiredClose decimal) := by
        rw [← positions_close decimal "" answers.now payloads positions parsed, ← List.zipIdx_map_fst 0 positions,
          List.map_map, List.zipIdx_map_fst]
        rfl
      have tried : (answers.closeStep decimal).2.map ReportedOrder.toOrder = payloads.filterMap (requiredClose decimal) ↔
          ∀ item ∈ positions.zipIdx.dropLast, accepted answers.placeOrder answers.generateClientOrderId item = true := by
        rw [close_step_tries decimal answers positions (returned ▸ parsed), List.map_map, ← required]
        exact Attempts.until_failure_map_iff _ _ _
      rw [tried]
      constructor
      · intro failsLast
        exact .inr ⟨positions, rfl, failsLast⟩
      · rintro (none | ⟨others, isPositions, failsLast⟩)
        · rw [← required] at none
          rw [List.map_eq_nil_iff.mp none]
          simp
        · cases isPositions
          exact failsLast

end EmergencyAnswers

theorem emergency_stop_exhaustive_iff (session : TradingSessionState) :
    answers.Exhaustive decimal (answers.emergencyStop decimal session) ↔ answers.FailsLast decimal := by
  constructor
  · intro exhaustive
    exact ⟨fun payloads returned => (answers.cancels_exhaustive_iff decimal payloads returned).mp
        (exhaustive.cancels payloads returned),
      fun payloads returned => (answers.closes_exhaustive_iff decimal payloads returned).mp
        (exhaustive.closes payloads returned)⟩
  · intro failsLast
    exact ⟨fun payloads returned => (answers.cancels_exhaustive_iff decimal payloads returned).mpr
        (failsLast.cancels payloads returned),
      fun payloads returned => (answers.closes_exhaustive_iff decimal payloads returned).mpr
        (failsLast.closes payloads returned)⟩

end Exhaustion

-- A call that fails before the last one, or an entry that the mapper cannot
-- read, leaves the others without theirs.
theorem emergency_stop_gives_up :
    let orders := [orderEntry "BTCUSDT", orderEntry "ETHUSDT"]
    let positions := [openEntry "BTCUSDT" "2", openEntry "ETHUSDT" "3"]
    let refusing := { quietAnswers orders positions with
      cancelAllOrders := fun symbol => if symbol = "BTCUSDT" then .error "Unknown order" else .ok 1
      placeOrder := fun closed _ => if closed = 0 then .error "Margin is insufficient" else .ok () }
    let garbled := quietAnswers orders [openEntry "BTCUSDT" "2", { openEntry "ETHUSDT" "3" with initialMargin := some "0" }]
    ((refusing.emergencyStop readDecimal {}).cancels = ["BTCUSDT"] ∧
      (refusing.emergencyStop readDecimal {}).closes.map (·.symbol) = ["BTCUSDT"] ∧
      (garbled.emergencyStop readDecimal {}).closes = []) ∧
      ¬ refusing.Exhaustive readDecimal (refusing.emergencyStop readDecimal {}) ∧
      ¬ garbled.Exhaustive readDecimal (garbled.emergencyStop readDecimal {}) := by
  intro orders positions refusing garbled
  refine ⟨by decide +kernel, fun exhaustive => ?_, fun exhaustive => ?_⟩
  · exact absurd (exhaustive.closes positions rfl) (by decide +kernel)
  · exact absurd (exhaustive.closes _ rfl) (by decide +kernel)

end Sagittarius
