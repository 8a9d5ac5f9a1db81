import Sagittarius.Library.Machine
import Sagittarius.Trading.TradingSessionState
import Sagittarius.Trading.UserDataEvents
import Sagittarius.Trading.UserDataStream

set_option autoImplicit false

namespace Sagittarius

inductive UserDataEvent
  | orderFilled (event : OrderFilledEvent)
  | equitySampled (sample : EquitySample)
  | positionChanged (position : LivePosition)
  | positionClosed (symbol : String)
deriving DecidableEq

-- What a coroutine of the stream shares with everybody. A trading client is
-- the number of the coroutine that built it.
structure UserDataShared where
  stream : FuturesUserDataStream := {}
  tradingClient : Option ℕ := none
  session : TradingSessionState := {}
  equityCurve : List EquitySample := []
  emitted : List UserDataEvent := []

inductive UserDataEffect
  | setTradingClient (builder : ℕ)
  | updatePnls (pnls : List (String × ℚ))
  | recordEquity (sample : EquitySample)
  | reconcilePosition (symbol : String) (hasPosition : Bool)
  | emit (event : UserDataEvent)

-- `EquityCurveRecorder.record` keeps the last 5000 samples.
def recordEquity (samples : List EquitySample) (sample : EquitySample) : List EquitySample :=
  ((samples ++ [sample]).reverse.take 5000).reverse

namespace UserDataShared

def perform (shared : UserDataShared) : UserDataEffect → UserDataShared
  | .setTradingClient builder => { shared with tradingClient := some builder }
  | .updatePnls pnls =>
      { shared with
        stream := { shared.stream with
          unrealizedPnlBySymbol := foldPnls shared.stream.unrealizedPnlBySymbol pnls } }
  | .recordEquity sample => { shared with equityCurve := recordEquity shared.equityCurve sample }
  | .reconcilePosition symbol hasPosition =>
      { shared with session := shared.session.reconcilePosition symbol hasPosition }
  | .emit event => { shared with emitted := shared.emitted ++ [event] }

end UserDataShared

inductive HandlingPlace
  | orderTradeUpdate (o : Option OrderTradeUpdate)
  | positionPnls (payload : AccountUpdate)
  | equity (payload : AccountUpdate)
  | emitEquity (sample : EquitySample) (payload : AccountUpdate)
  | positions (symbols : List String)
  | reconcile (symbol : String) (held : List LivePosition) (rest : List String)
  | emitPosition (symbol : String) (held : List LivePosition) (rest : List String)
deriving DecidableEq

-- Where a coroutine of `_run_stream` stands. Once `ended` it closes its client.
inductive UserDataPhase
  | resolving
  | assigning
  | creating
  | outerToken
  | outerGeneration
  | connecting
  | innerToken
  | innerGeneration
  | receiving
  | rechecking (message : Option UserDataMessage)
  | handling (place : HandlingPlace)
  | failed
  | sleeping
  | ended
deriving DecidableEq

-- How what a coroutine calls or awaits ends. An `osError` is an OSError or a
-- ReadLoopClosed.
inductive UserDataAnswer
  | credentials (configured : Bool)
  | returned
  | received (message : Option UserDataMessage)
  | positions (held : List LivePosition)
  | osError
  | cancelledError
  | raised
deriving DecidableEq

structure UserDataCoroutine where
  task : StreamTask
  phase : UserDataPhase
deriving DecidableEq

-- None is the AttributeError of a task that was spawned without a token. A
-- cancelled handle signals the token of its task.
def FuturesUserDataStream.tokenCancelled (stream : FuturesUserDataStream) (n : ℕ) (task : StreamTask) : Option Bool :=
  task.token.map fun token => token ∈ stream.cancelledTokens ∨ n ∈ stream.cancelledTasks

namespace UserDataPhase

def excepted (onOsError : UserDataPhase) : UserDataAnswer → Option UserDataPhase
  | .osError => some onOsError
  | .cancelledError => some .ended
  | .raised => some .ended
  | _ => none

def awaited (next onOsError : UserDataPhase) (answer : UserDataAnswer) : Option UserDataPhase :=
  if answer = .returned then some next else excepted onOsError answer

def handleMessage : UserDataMessage → UserDataPhase
  | .orderTradeUpdate o => .handling (.orderTradeUpdate o)
  | .accountUpdate payload => .handling (.positionPnls payload)
  | .error _ _ => .innerToken
  | .other _ => .innerToken

def changedSymbols (payload : AccountUpdate) : UserDataPhase :=
  match accountUpdateChangedSymbols payload with
  | .ok symbols => .handling (.positions symbols)
  | .error _ => .ended

end UserDataPhase

section Handling

variable (decimal : String → Except PyError ℚ)

-- One step of `_handle_message`, which touches what is shared at most once.
def HandlingPlace.advance (shared : UserDataShared) (answer : UserDataAnswer) :
    HandlingPlace → Option (UserDataPhase × Option UserDataEffect)
  | .orderTradeUpdate o =>
      match handleOrderTradeUpdate decimal o with
      | .ok event => some (.innerToken, event.map fun filled => .emit (.orderFilled filled))
      | .error _ => some (.ended, none)
  | .positionPnls payload =>
      if shared.tradingClient.isNone then some (.innerToken, none)
      else
        match accountUpdatePositionPnls decimal payload with
        | .ok pnls => some (.handling (.equity payload), some (.updatePnls pnls))
        | .error _ => some (.ended, none)
  | .equity payload =>
      match sampleEquity decimal shared.stream.unrealizedPnlBySymbol payload with
      | .ok (some sample) => some (.handling (.emitEquity sample payload), some (.recordEquity sample))
      | .ok none => some (.changedSymbols payload, none)
      | .error _ => some (.ended, none)
  | .emitEquity sample payload => some (.changedSymbols payload, some (.emit (.equitySampled sample)))
  | .positions [] => some (.innerToken, none)
  | .positions (symbol :: rest) =>
      match answer with
      | .positions held => some (.handling (.reconcile symbol held rest), none)
      | answer => (UserDataPhase.excepted .failed answer).map fun phase => (phase, none)
  | .reconcile symbol held rest =>
      some (.handling (.emitPosition symbol held rest), some (.reconcilePosition symbol (!held.isEmpty)))
  | .emitPosition symbol held rest =>
      some (.handling (.positions rest), some (.emit (held.head?.elim (.positionClosed symbol) .positionChanged)))

def UserDataCoroutine.advance (shared : UserDataShared) (n : ℕ) (coroutine : UserDataCoroutine)
    (answer : UserDataAnswer) : Option (UserDataPhase × Option UserDataEffect) :=
  let cancelled := shared.stream.tokenCancelled n coroutine.task
  let current := coroutine.task.generation = shared.stream.generation
  let quietly (phase : Option UserDataPhase) := phase.map fun next => (next, (none : Option UserDataEffect))
  match coroutine.phase with
  | .resolving =>
      match answer with
      | .credentials configured => some (if configured then .assigning else .ended, none)
      | answer => quietly (UserDataPhase.excepted .ended answer)
  | .assigning => some (.creating, some (.setTradingClient n))
  | .creating => quietly (UserDataPhase.awaited .outerToken .ended answer)
  | .outerToken => some (if cancelled = some false then .outerGeneration else .ended, none)
  | .outerGeneration => some (if current then .connecting else .ended, none)
  | .connecting => quietly (UserDataPhase.awaited .innerToken .failed answer)
  | .innerToken =>
      match cancelled with
      | some false => some (.innerGeneration, none)
      | some true => some (.outerToken, none)
      | none => some (.ended, none)
  | .innerGeneration => some (if current then .receiving else .outerToken, none)
  | .receiving =>
      match answer with
      | .received message => some (.rechecking message, none)
      | answer => quietly (UserDataPhase.excepted .failed answer)
  | .rechecking message =>
      some (if current then message.elim .innerToken UserDataPhase.handleMessage else .innerToken, none)
  | .handling place => place.advance decimal shared answer
  | .failed =>
      match cancelled with
      | some false => some (.sleeping, none)
      | some true => some (.outerToken, none)
      | none => some (.ended, none)
  | .sleeping => quietly (UserDataPhase.awaited .outerToken .ended answer)
  | .ended => none

end Handling

end Sagittarius
