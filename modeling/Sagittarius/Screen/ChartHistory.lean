import Mathlib.Logic.Function.Basic
import Sagittarius.Library.Machine
import Sagittarius.Market.HistoricalKlines

set_option autoImplicit false

namespace Sagittarius

variable {α : Type}

inductive UIMode
  | idle
  | locked
  | live
  | error
deriving DecidableEq

namespace UIMode

def declared : UIMode → UIMode → Bool
  | idle, locked => true
  | locked, live => true
  | locked, error => true
  | locked, idle => true
  | error, idle => true
  | live, idle => true
  | live, error => true
  | _, _ => false

-- A transition that is not declared raises, and the mode stays. ERROR goes on
-- to IDLE as soon as it is entered.
def transitionTo (mode target : UIMode) : UIMode :=
  if mode.declared target then
    match target with
    | error => idle
    | _ => target
  else mode

end UIMode

abbrev OhlcCandle (α : Type) := ℤ × α × α × α × α

def mapKlines (klines : List (MarketData α)) : List (OhlcCandle α) :=
  klines.map fun item => (item.closeTime, item.openPrice, item.highPrice, item.lowPrice, item.closePrice)

structure ChartCard (α : Type) where
  symbol : String
  rawHistory : List (OhlcCandle α) := []

namespace ChartCard

def renderHistoricalData (card : ChartCard α) (candles : List (OhlcCandle α)) : ChartCard α :=
  { card with rawHistory := candles }

def prependHistoricalData (card : ChartCard α) (candles : List (OhlcCandle α)) : ChartCard α :=
  if candles.isEmpty || card.rawHistory.isEmpty then card else { card with rawHistory := candles ++ card.rawHistory }

@[simp] theorem render_symbol (card : ChartCard α) (candles : List (OhlcCandle α)) :
    (card.renderHistoricalData candles).symbol = card.symbol := rfl

@[simp] theorem prepend_symbol (card : ChartCard α) (candles : List (OhlcCandle α)) :
    (card.prependHistoricalData candles).symbol = card.symbol := by
  unfold prependHistoricalData
  split_ifs <;> rfl

end ChartCard

-- The clock is monotonic, in microseconds.
structure HistoryPaginationController where
  cooldown : ℤ := 1500000
  inFlight : List String := []
  lastFinishedAt : String → Option ℤ := fun _ => none

namespace HistoryPaginationController

variable (pagination : HistoryPaginationController)

def onNearLeftEdge (symbol : String) (now : ℤ) : Option HistoryPaginationController :=
  if symbol ∈ pagination.inFlight then none
  else if (pagination.lastFinishedAt symbol).any fun finished => now - finished < pagination.cooldown then none
  else some { pagination with inFlight := symbol :: pagination.inFlight }

def onLoadMoreFinished (symbol : String) (now : ℤ) : HistoryPaginationController :=
  { pagination with
    inFlight := pagination.inFlight.filter (· ≠ symbol)
    lastFinishedAt := Function.update pagination.lastFinishedAt symbol (some now) }

end HistoryPaginationController

-- What the screen and its configuration hold when an action reads them. The
-- symbol is stripped and upper case, a date that does not parse is `none`.
structure DashboardInputs where
  symbol : String
  startDate : Option ℤ
  endDate : Option ℤ
  slowestWarmupBars : ℤ := 0
  minFetchCandles : ℤ := 75
  loadMoreBatchCandles : ℤ := 75

-- `^[A-Z0-9]{5,20}$`
def symbolPattern (symbol : String) : Bool :=
  5 ≤ symbol.length && symbol.length ≤ 20 &&
    symbol.toList.all fun character => ('A' ≤ character && character ≤ 'Z') || ('0' ≤ character && character ≤ '9')

def computeFetchLimit (inputs : DashboardInputs) : ℤ := max 75 (max inputs.slowestWarmupBars inputs.minFetchCandles)

structure HistoryLoad where
  symbol : String
  interval : String
  limit : ℤ
  token : ℕ
  startTime : ℤ
  endTime : ℤ
deriving DecidableEq

structure OlderHistoryLoad where
  symbol : String
  interval : String
  beforeTimestamp : ℤ
  limit : ℤ
  token : ℕ
deriving DecidableEq

inductive StreamActionKey
  | loadHistory
  | startStream
deriving DecidableEq

-- How far the worker in the exclusive slot has come. `finished` lasts until
-- the done callback of its future gives the slot back.
inductive WorkerPhase
  | syncing
  | loading
  | starting
  | finished
deriving DecidableEq

structure StreamAction where
  key : StreamActionKey
  phase : WorkerPhase
  load : HistoryLoad
deriving DecidableEq

def StreamAction.loadPending (action : StreamAction) : Bool := action.phase = .syncing || action.phase = .loading

inductive UiSignal (α : Type)
  | historyReloaded (symbol : String) (candles : List (OhlcCandle α))
  | historyPrepended (symbol : String) (candles : List (OhlcCandle α))
  | historyPrependFinished (symbol : String)
  | streamSuccess
  | streamFailed

-- A token is cancelled when a newer one has taken its place. Every action
-- shows the one symbol of the form, so `active_charts` holds at most one card.
-- A symbol that `raw_klines_by_symbol` does not hold reads as no candles.
structure Dashboard (α : Type) where
  inputs : DashboardInputs
  activeInterval : String
  mode : UIMode := .idle
  slot : Option StreamAction := none
  token : ℕ := 0
  rawKlinesBySymbol : String → List (MarketData α) := fun _ => []
  activeChart : Option (ChartCard α) := none
  pagination : HistoryPaginationController := {}
  olderLoads : List OlderHistoryLoad := []
  signals : List (UiSignal α) := []

namespace Dashboard

variable (dashboard : Dashboard α)

def loadPending : Bool := dashboard.slot.any StreamAction.loadPending

def chartedSymbol : Option String := dashboard.activeChart.map ChartCard.symbol

def readAndValidateInputs : Option (String × ℤ × ℤ) :=
  if symbolPattern dashboard.inputs.symbol && (TimeFrame.ofValue dashboard.activeInterval).isSome then
    match dashboard.inputs.startDate, dashboard.inputs.endDate with
    | some startTime, some endTime => if startTime < endTime then some (dashboard.inputs.symbol, startTime, endTime) else none
    | _, _ => none
  else none

def ensureChartCards (symbol : String) : Dashboard α :=
  if dashboard.chartedSymbol = some symbol then dashboard else { dashboard with activeChart := some { symbol } }

-- What `_on_load_history` and `_on_start_stream` share: the slot is taken, the
-- inputs are read, and the worker is submitted.
def submitAction (key : StreamActionKey) (phase : WorkerPhase) (mode : UIMode) : Dashboard α :=
  match dashboard.slot, dashboard.readAndValidateInputs with
  | none, some (symbol, startTime, endTime) =>
      { dashboard.ensureChartCards symbol with
        mode
        slot := some { key, phase, load := {
          symbol
          interval := dashboard.activeInterval
          limit := computeFetchLimit dashboard.inputs
          token := dashboard.token
          startTime
          endTime } } }
  | _, _ => dashboard

def onLoadHistory : Dashboard α := dashboard.submitAction .loadHistory .loading dashboard.mode

def onStartStream : Dashboard α :=
  if dashboard.mode = .idle then dashboard.submitAction .startStream .syncing (dashboard.mode.transitionTo .locked)
  else dashboard

-- A `StopLiveStreamCommand` that raises goes to ERROR, which is IDLE as well.
def onStopStream (raised : Bool) : Dashboard α :=
  if dashboard.mode = .idle then dashboard
  else { dashboard with
    token := dashboard.token + 1
    mode := dashboard.mode.transitionTo (if raised then .error else .idle) }

def onTimeframeChanged (timeframe : String) (stopRaised : Bool) : Dashboard α :=
  if timeframe = dashboard.activeInterval then dashboard
  else
    let dashboard := { dashboard with activeInterval := timeframe }
    if dashboard.mode = .live then (dashboard.onStopStream stopRaised).onStartStream
    else if dashboard.slot.any fun action => action.key = .loadHistory then dashboard
    else dashboard.onLoadHistory

-- `_on_near_left_edge` with `fetch_older_history`. The card's oldest candle
-- says where the page ends.
def onNearLeftEdge (symbol : String) (now : ℤ) : Dashboard α :=
  match dashboard.activeChart with
  | some card =>
      if card.symbol = symbol then
        match card.rawHistory with
        | oldest :: _ =>
            match dashboard.pagination.onNearLeftEdge symbol now with
            | some pagination =>
                { dashboard with
                  pagination
                  olderLoads := dashboard.olderLoads ++ [{
                    symbol
                    interval := dashboard.activeInterval
                    beforeTimestamp := oldest.1
                    limit := dashboard.inputs.loadMoreBatchCandles
                    token := dashboard.token }] }
            | none => dashboard
        | [] => dashboard
      else dashboard
  | none => dashboard

def isCancelled (token : ℕ) : Bool := token < dashboard.token

end Dashboard

def HistoryLoad.orderedKlines (load : HistoryLoad) (interval : TimeFrame) (table : KlineTable α) : List (MarketData α) :=
  (table.getKlines {
    symbol := load.symbol
    interval
    limit := load.limit
    startTime := some load.startTime
    endTime := some load.endTime
    orderByDesc := true }).reverse

def OlderHistoryLoad.orderedKlines (load : OlderHistoryLoad) (interval : TimeFrame) (table : KlineTable α) :
    List (MarketData α) :=
  (table.getKlines {
    symbol := load.symbol
    interval
    limit := load.limit
    endTime := some load.beforeTimestamp
    orderByDesc := true }).reverse.filter fun kline => kline.closeTime < load.beforeTimestamp

namespace Dashboard

variable (dashboard : Dashboard α)

-- `_run_load_history`: what it leaves and whether it raises, where `none` is a
-- query that raises.
def runLoadHistory (load : HistoryLoad) (answer : Option (KlineTable α)) : Dashboard α × Bool :=
  if dashboard.isCancelled load.token then (dashboard, false)
  else
    match TimeFrame.ofValue load.interval, answer with
    | some interval, some table =>
        let ordered := load.orderedKlines interval table
        if ordered.isEmpty then (dashboard, false)
        else
          ({ dashboard with
            signals := dashboard.signals ++ [.historyReloaded load.symbol (mapKlines ordered)]
            rawKlinesBySymbol := Function.update dashboard.rawKlinesBySymbol load.symbol ordered }, false)
    | _, _ => (dashboard, true)

-- `_run_load_more_history`. The last look at the token and the write after it
-- are one step.
def runLoadMoreHistory (load : OlderHistoryLoad) (answer : Option (KlineTable α)) : Dashboard α :=
  let finished := { dashboard with signals := dashboard.signals ++ [.historyPrependFinished load.symbol] }
  if dashboard.isCancelled load.token then finished
  else
    match TimeFrame.ofValue load.interval, answer with
    | some interval, some table =>
        let ordered := load.orderedKlines interval table
        if ordered.isEmpty then finished
        else
          { dashboard with
            signals := dashboard.signals ++
              [.historyPrepended load.symbol (mapKlines ordered), .historyPrependFinished load.symbol]
            rawKlinesBySymbol := Function.update dashboard.rawKlinesBySymbol load.symbol
              (ordered ++ dashboard.rawKlinesBySymbol load.symbol) }
    | _, _ => finished

def setPhase (action : StreamAction) (phase : WorkerPhase) : Dashboard α :=
  { dashboard with slot := some { action with phase } }

def emit (signal : UiSignal α) : Dashboard α := { dashboard with signals := dashboard.signals ++ [signal] }

def finishSync (action : StreamAction) (raised : Bool) : Dashboard α :=
  if raised then (dashboard.emit .streamFailed).setPhase action .finished
  else if dashboard.isCancelled action.load.token then dashboard.setPhase action .finished
  else dashboard.setPhase action .loading

def finishLoad (action : StreamAction) (answer : Option (KlineTable α)) : Dashboard α :=
  let (loaded, raised) := dashboard.runLoadHistory action.load answer
  match action.key with
  | .loadHistory => loaded.setPhase action .finished
  | .startStream =>
      if raised then (loaded.emit .streamFailed).setPhase action .finished
      else if loaded.isCancelled action.load.token then loaded.setPhase action .finished
      else loaded.setPhase action .starting

def updateCard (symbol : String) (change : ChartCard α → ChartCard α) : Dashboard α :=
  { dashboard with
    activeChart := dashboard.activeChart.map fun card => if card.symbol = symbol then change card else card }

def onSignal (now : ℤ) : UiSignal α → Dashboard α
  | .historyReloaded symbol candles => dashboard.updateCard symbol fun card => card.renderHistoricalData candles
  | .historyPrepended symbol candles => dashboard.updateCard symbol fun card => card.prependHistoricalData candles
  | .historyPrependFinished symbol =>
      { dashboard with pagination := dashboard.pagination.onLoadMoreFinished symbol now }
  | .streamSuccess => { dashboard with mode := dashboard.mode.transitionTo .live }
  | .streamFailed => { dashboard with mode := dashboard.mode.transitionTo .error }

end Dashboard

-- What the user, the workers and the event loop do. A worker reads the table
-- at any time before it completes, and an answer of `none` has raised.
inductive DashboardEvent (α : Type)
  | inputsEdited (inputs : DashboardInputs)
  | loadHistoryClicked
  | startStreamClicked
  | stopStreamClicked (raised : Bool)
  | timeframeChanged (timeframe : String) (stopRaised : Bool)
  | nearLeftEdge (symbol : String) (now : ℤ)
  | marketDataSynced (raised : Bool)
  | historyLoaded (answer : Option (KlineTable α))
  | streamStarted (succeeded : Bool)
  | actionDone
  | olderHistoryLoaded (index : ℕ) (answer : Option (KlineTable α))
  | signalDelivered (now : ℤ)

def Dashboard.step (dashboard : Dashboard α) : DashboardEvent α → Option (Dashboard α)
  | .inputsEdited inputs => some { dashboard with inputs }
  | .loadHistoryClicked => some dashboard.onLoadHistory
  | .startStreamClicked => some dashboard.onStartStream
  | .stopStreamClicked raised => some (dashboard.onStopStream raised)
  | .timeframeChanged timeframe stopRaised => some (dashboard.onTimeframeChanged timeframe stopRaised)
  | .nearLeftEdge symbol now => some (dashboard.onNearLeftEdge symbol now)
  | .marketDataSynced raised =>
      match dashboard.slot with
      | some action => if action.phase = .syncing then some (dashboard.finishSync action raised) else none
      | none => none
  | .historyLoaded answer =>
      match dashboard.slot with
      | some action => if action.phase = .loading then some (dashboard.finishLoad action answer) else none
      | none => none
  | .streamStarted succeeded =>
      match dashboard.slot with
      | some action =>
          if action.phase = .starting then
            some ((dashboard.emit (if succeeded then .streamSuccess else .streamFailed)).setPhase action .finished)
          else none
      | none => none
  | .actionDone =>
      match dashboard.slot with
      | some action => if action.phase = .finished then some { dashboard with slot := none } else none
      | none => none
  | .olderHistoryLoaded index answer =>
      match dashboard.olderLoads[index]? with
      | some load =>
          some { dashboard.runLoadMoreHistory load answer with olderLoads := dashboard.olderLoads.eraseIdx index }
      | none => none
  | .signalDelivered now =>
      match dashboard.signals with
      | signal :: rest => some ({ dashboard with signals := rest }.onSignal now signal)
      | [] => none

def Dashboard.opened (activeInterval : String) (inputs : DashboardInputs) : Dashboard α := { inputs, activeInterval }

end Sagittarius
