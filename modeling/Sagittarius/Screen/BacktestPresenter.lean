import Sagittarius.Backtest.RunConfigBuilder
import Sagittarius.Library.Machine
import Sagittarius.Screen.TradingPresenter

set_option autoImplicit false

namespace Sagittarius

inductive BacktestUiState
  | idle
  | configDirty
  | running
  | cancelling
  | syncing
  | emptyData
  | completed
  | error
deriving DecidableEq

inductive BacktestUiEvent
  | configChanged
  | configRestored
  | runRequested
  | cancelRequested
  | syncRequested
  | backtestSucceeded
  | backtestEmpty
  | backtestCancelled
  | backtestCancelledToConfigDirty
  | backtestCancelledToCompleted
  | backtestFailed
  | syncSucceeded
  | syncFailed
  | errorDismissed

inductive BacktestActionKind
  | backtest
  | sync
deriving DecidableEq

def backtestStateTransitions : BacktestUiState → BacktestUiEvent → Option BacktestUiState
  | .idle, .configChanged => some .idle
  | .idle, .runRequested => some .running
  | .idle, .syncRequested => some .syncing
  | .completed, .configChanged => some .configDirty
  | .completed, .runRequested => some .running
  | .completed, .syncRequested => some .syncing
  | .configDirty, .configChanged => some .configDirty
  | .configDirty, .configRestored => some .completed
  | .configDirty, .runRequested => some .running
  | .configDirty, .syncRequested => some .syncing
  | .running, .cancelRequested => some .cancelling
  | .running, .backtestSucceeded => some .completed
  | .running, .backtestEmpty => some .emptyData
  | .running, .backtestFailed => some .error
  | .cancelling, .backtestCancelled => some .idle
  | .cancelling, .backtestCancelledToConfigDirty => some .configDirty
  | .cancelling, .backtestCancelledToCompleted => some .completed
  | .cancelling, .backtestFailed => some .idle
  | .syncing, .syncSucceeded => some .running
  | .syncing, .syncFailed => some .error
  | .syncing, .cancelRequested => some .cancelling
  | .emptyData, .syncRequested => some .syncing
  | .emptyData, .configChanged => some .idle
  | .emptyData, .runRequested => some .running
  | .error, .errorDismissed => some .idle
  | .error, .configChanged => some .idle
  | .error, .runRequested => some .running
  | .error, .syncRequested => some .syncing
  | _, _ => none

def BacktestUiState.busy : BacktestUiState → Bool
  | running => true
  | cancelling => true
  | syncing => true
  | _ => false

structure BacktestScreenSetup (φ ω γ ρ : Type) where
  buildRunConfig : φ → ℤ → Except BuildError (RunConfigOutcome ω)
  snapshotCurrentConfig : φ → ℤ → BacktestRunConfig ω
  sameConfig : BacktestRunConfig ω → BacktestRunConfig ω → Bool
  computeDiffSummary : BacktestRunConfig ω → BacktestRunConfig ω → String
  toSummaryLabel : BacktestRunConfig ω → String
  isFullyCovered : γ → Bool
  formatCoverageMessage : γ → String
  noDataMessage : φ → BacktestRunConfig ω → String
  resultMessage : BacktestRunConfig ω → ρ → String

structure OwnedAction (ω : Type) where
  config : BacktestRunConfig ω
  previousState : BacktestUiState

-- Where a worker is. A run probes the coverage, dispatches its command and then
-- reports the result. A sync dispatches its command and then probes.
inductive WorkerStage (ρ : Type)
  | probing
  | dispatching
  | reporting (result : ρ)

structure BacktestWorker (ω γ ρ : Type) where
  actionId : ℕ
  kind : BacktestActionKind
  config : BacktestRunConfig ω
  allowAutoSync : Bool := false
  coverage : Option γ := none
  stage : WorkerStage ρ

-- The signals that a worker emits, less those of progress and of the chart.
inductive BacktestSignal (ω γ ρ : Type)
  | coverageMissing (actionId : ℕ) (config : BacktestRunConfig ω) (coverage : γ) (allowAutoSync : Bool)
  | coverageReady (actionId : ℕ) (coverage : γ)
  | backtestSucceeded (actionId : ℕ) (result : ρ)
  | backtestEmpty (actionId : ℕ) (message : String) (config : BacktestRunConfig ω)
  | backtestFailed (actionId : ℕ) (message : String)
  | backtestCancelled (actionId : ℕ)
  | syncSucceeded (actionId : ℕ)
  | syncFailed (actionId : ℕ) (message : String)
  | syncCancelled (actionId : ℕ)

-- What the call that a worker is in does. A run's command stops early only on a
-- cancelled token, and a sync's returns then as it does otherwise.
inductive WorkerMove (γ ρ : Type)
  | raises (message : String)
  | probes (coverage : γ)
  | stops
  | noData
  | returns (result : ρ)
  | synced
  | reports

-- What is left of the worker after a move, and what it emits. An exception is
-- caught but while a run reports its result and while a sync probes.
def BacktestWorker.step {φ ω γ ρ : Type} (setup : BacktestScreenSetup φ ω γ ρ) (form : φ) (isCancelled : Bool)
    (worker : BacktestWorker ω γ ρ) :
    WorkerMove γ ρ → Option (Option (BacktestWorker ω γ ρ) × List (BacktestSignal ω γ ρ)) :=
  match worker.kind, worker.stage with
  | .backtest, .probing => fun
      | .raises message => some (none, [.backtestFailed worker.actionId message])
      | .probes coverage =>
          if setup.isFullyCovered coverage then
            some (some { worker with stage := .dispatching }, [.coverageReady worker.actionId coverage])
          else some (none, [.coverageMissing worker.actionId worker.config coverage worker.allowAutoSync])
      | _ => none
  | .backtest, .dispatching => fun
      | .raises message => some (none, [.backtestFailed worker.actionId message])
      | .stops => if isCancelled then some (none, [.backtestCancelled worker.actionId]) else none
      | .noData =>
          some (none, [.backtestEmpty worker.actionId (setup.noDataMessage form worker.config) worker.config])
      | .returns result =>
          if isCancelled then some (none, [.backtestCancelled worker.actionId])
          else some (some { worker with stage := .reporting result }, [])
      | _ => none
  | .backtest, .reporting result => fun
      | .raises _ => some (none, [])
      | .reports => some (none, [.backtestSucceeded worker.actionId result])
      | _ => none
  | .sync, .dispatching => fun
      | .raises message => some (none, [.syncFailed worker.actionId message])
      | .synced =>
          if isCancelled then some (none, [.syncCancelled worker.actionId])
          else some (some { worker with stage := .probing }, [])
      | _ => none
  | .sync, .probing => fun
      | .raises _ => some (none, [])
      | .probes coverage =>
          if setup.isFullyCovered coverage then some (none, [.syncSucceeded worker.actionId])
          else
            some (none, [.syncFailed worker.actionId
              ("Sync is not sufficient to run the backtest: " ++ setup.formatCoverageMessage coverage)])
      | _ => none
  | .sync, .reporting _ => fun _ => none

def BacktestWorker.unguarded {ω γ ρ : Type} (worker : BacktestWorker ω γ ρ) : Bool :=
  match worker.kind, worker.stage with
  | .backtest, .reporting _ => true
  | .sync, .probing => true
  | _, _ => false

-- The screen with its workers. A token is named after the action it is made
-- for, and signals are delivered in the order they are emitted in.
structure BacktestPresenter (φ ω γ ρ : Type) where
  form : φ
  state : BacktestUiState := .idle
  tracker : ActionOwnershipTracker BacktestActionKind := {}
  owned : Option (OwnedAction ω) := none
  cancellingActionId : Option ℕ := none
  backtestCancellationToken : Option ℕ := none
  syncCancellationToken : Option ℕ := none
  cancelledTokens : List ℕ := []
  lastRunConfig : Option (BacktestRunConfig ω) := none
  lastNoDataConfig : Option (BacktestRunConfig ω) := none
  lastNoDataCoverage : Option γ := none
  result : Option ρ := none
  message : String := ""
  isError : Bool := false
  needsDataSync : Bool := false
  dataCoverage : Option (Bool × String) := none
  lastRunSummary : String := ""
  configDiffSummary : String := ""
  workers : List (BacktestWorker ω γ ρ) := []
  signals : List (BacktestSignal ω γ ρ) := []

namespace BacktestPresenter

variable {φ ω γ ρ : Type} (setup : BacktestScreenSetup φ ω γ ρ) (self : BacktestPresenter φ ω γ ρ)

def canDispatch (event : BacktestUiEvent) : Bool := (backtestStateTransitions self.state event).isSome

def dispatch (event : BacktestUiEvent) : BacktestPresenter φ ω γ ρ :=
  { self with state := (backtestStateTransitions self.state event).getD self.state }

def onConfigInputChanged (now : ℤ) : BacktestPresenter φ ω γ ρ :=
  if self.state.busy then self
  else
    match self.lastRunConfig with
    | none => self.dispatch .configChanged
    | some last =>
        let current := setup.snapshotCurrentConfig self.form now
        if setup.sameConfig current last then { self.dispatch .configRestored with configDiffSummary := "" }
        else { self.dispatch .configChanged with configDiffSummary := setup.computeDiffSummary last current }

def beginAction (kind : BacktestActionKind) (config : BacktestRunConfig ω) (previousState : BacktestUiState) :
    ℕ × BacktestPresenter φ ω γ ρ :=
  let (context, tracker) := self.tracker.beginAction kind
  (context.actionId, { self with tracker, owned := some { config, previousState } })

def finishAction (actionId : ℕ) (outcome : ActionOutcome) : BacktestPresenter φ ω γ ρ :=
  { self with tracker := (self.tracker.finishAction actionId outcome).2 }

def startBacktestRun (config : BacktestRunConfig ω) (previousState : Option BacktestUiState) (allowAutoSync : Bool)
    (now : ℤ) : Except BuildError (BacktestPresenter φ ω γ ρ) :=
  (config.started now).map fun config =>
    let (actionId, begun) := self.beginAction .backtest config (previousState.getD self.state)
    { begun with
      cancellingActionId := none
      backtestCancellationToken := some actionId
      message := "Running backtest..."
      isError := false
      workers := begun.workers ++ [{ actionId, kind := .backtest, config, allowAutoSync, stage := .probing }] }

def onRunBacktest (now started : ℤ) : Except BuildError (BacktestPresenter φ ω γ ρ) :=
  if self.canDispatch .runRequested then
    match setup.buildRunConfig self.form now with
    | .error _ => .ok self
    | .ok outcome =>
        match outcome.config with
        | none => .ok { self with message := outcome.errorMessage, isError := true }
        | some config => (self.dispatch .runRequested).startBacktestRun config (some self.state) true started
  else .ok self

def startSyncForConfig (config : BacktestRunConfig ω) (coverage : Option γ) : BacktestPresenter φ ω γ ρ :=
  if self.canDispatch .syncRequested then
    let (actionId, begun) := (self.dispatch .syncRequested).beginAction .sync config self.state
    { begun with
      message := "Syncing data..."
      isError := false
      syncCancellationToken := some actionId
      workers := begun.workers ++ [{ actionId, kind := .sync, config, coverage, stage := .dispatching }] }
  else self

def onRequestSync : BacktestPresenter φ ω γ ρ :=
  match self.lastNoDataConfig with
  | none => self
  | some config => self.startSyncForConfig config self.lastNoDataCoverage

def token : BacktestActionKind → Option ℕ
  | .backtest => self.backtestCancellationToken
  | .sync => self.syncCancellationToken

def onCancelBacktest : BacktestPresenter φ ω γ ρ :=
  match self.tracker.activeAction with
  | none => self
  | some action =>
      if self.tracker.isCurrentPending action.actionId action.kind && self.canDispatch .cancelRequested then
        { self.dispatch .cancelRequested with
          cancellingActionId := some action.actionId
          tracker := self.tracker.invalidateActive
          cancelledTokens := (self.token action.kind).toList ++ self.cancelledTokens
          message := if action.kind = .sync then "Cancelling sync..." else "Cancelling backtest..."
          isError := false }
      else self

def isCancellingAction (actionId : ℕ) : Bool :=
  self.tracker.activeAction.any (fun action => action.actionId = actionId) &&
    self.tracker.activeOutcome = some .invalidated && self.cancellingActionId = some actionId && self.state = .cancelling

def cancelRestoreEvent : BacktestUiState → BacktestUiEvent
  | .configDirty => .backtestCancelledToConfigDirty
  | .completed => .backtestCancelledToCompleted
  | _ => .backtestCancelled

def endCancelled (actionId : ℕ) (kind : BacktestActionKind) : BacktestPresenter φ ω γ ρ :=
  let ended := { self.finishAction actionId .cancelled with cancellingActionId := none, isError := false }
  match kind with
  | .sync => { ended with syncCancellationToken := none, message := "Data sync cancelled." }
  | .backtest => { ended with
      backtestCancellationToken := none, message := "Backtest cancelled. Previous results are kept." }

def completeCancelledAction (actionId : ℕ) : BacktestPresenter φ ω γ ρ :=
  if self.isCancellingAction actionId then
    match self.tracker.activeAction, self.owned with
    | some action, some owned =>
        (self.endCancelled actionId action.kind).dispatch (cancelRestoreEvent owned.previousState)
    | _, _ => self
  else self

def clearMissing : BacktestPresenter φ ω γ ρ :=
  { self with needsDataSync := false, lastNoDataConfig := none, lastNoDataCoverage := none }

def onBacktestSucceeded (result : ρ) (now : ℤ) : BacktestPresenter φ ω γ ρ :=
  let current := setup.snapshotCurrentConfig self.form now
  { (self.dispatch .backtestSucceeded).clearMissing with
    result := some result
    message := setup.resultMessage current result
    isError := false
    lastRunConfig := some current
    lastRunSummary := setup.toSummaryLabel current
    configDiffSummary := "" }

def onBacktestEmpty (message : String) (config : BacktestRunConfig ω) : BacktestPresenter φ ω γ ρ :=
  { self.dispatch .backtestEmpty with
    lastNoDataConfig := some config
    lastNoDataCoverage := none
    needsDataSync := true
    result := none
    message
    isError := false }

def onBacktestFailed (message : String) : BacktestPresenter φ ω γ ρ :=
  { self.dispatch .backtestFailed with result := none, message := "Error: " ++ message, isError := true }

def onSyncFailed (message : String) : BacktestPresenter φ ω γ ρ :=
  { self.dispatch .syncFailed with message := "Sync failed: " ++ message, isError := true }

def noteMissing (config : BacktestRunConfig ω) (coverage : γ) : BacktestPresenter φ ω γ ρ :=
  { self with
    lastNoDataConfig := some config
    lastNoDataCoverage := some coverage
    dataCoverage := some (false, setup.formatCoverageMessage coverage)
    needsDataSync := true }

def onSyncSucceeded (now : ℤ) : Except BuildError (BacktestPresenter φ ω γ ρ) :=
  let resumed := (self.dispatch .syncSucceeded).clearMissing
  match self.lastNoDataConfig with
  | none => .ok resumed
  | some config => resumed.startBacktestRun config none false now

def onCoverageMissing (config : BacktestRunConfig ω) (coverage : γ) (allowAutoSync : Bool) : BacktestPresenter φ ω γ ρ :=
  let missing := self.noteMissing setup config coverage
  if allowAutoSync then (missing.dispatch .backtestEmpty).startSyncForConfig config (some coverage)
  else missing.onBacktestFailed (setup.formatCoverageMessage coverage)

def dropSyncToken : BacktestPresenter φ ω γ ρ := { self with syncCancellationToken := none }

def endAction (actionId : ℕ) (kind : BacktestActionKind)
    (finish : Except BuildError (BacktestPresenter φ ω γ ρ)) : Except BuildError (BacktestPresenter φ ω γ ρ) :=
  if self.isCancellingAction actionId then .ok (self.completeCancelledAction actionId)
  else if self.tracker.isCurrentPending actionId kind then finish
  else .ok self

def deliver (now : ℤ) : BacktestSignal ω γ ρ → Except BuildError (BacktestPresenter φ ω γ ρ)
  | .coverageMissing actionId config coverage allowAutoSync =>
      if self.tracker.isCurrentPending actionId .backtest then
        .ok ((self.finishAction actionId .empty).onCoverageMissing setup config coverage allowAutoSync)
      else .ok self
  | .coverageReady actionId _ =>
      if self.tracker.isCurrentPending actionId .backtest then
        .ok { self with dataCoverage := some (true, ""), needsDataSync := false }
      else .ok self
  | .backtestSucceeded actionId result =>
      self.endAction actionId .backtest (.ok ((self.onBacktestSucceeded setup result now).finishAction actionId .succeeded))
  | .backtestEmpty actionId message config =>
      self.endAction actionId .backtest (.ok ((self.onBacktestEmpty message config).finishAction actionId .empty))
  | .backtestFailed actionId message =>
      self.endAction actionId .backtest (.ok ((self.onBacktestFailed message).finishAction actionId .failed))
  | .backtestCancelled actionId => .ok (self.completeCancelledAction actionId)
  | .syncSucceeded actionId =>
      self.endAction actionId .sync
        ((self.finishAction actionId .succeeded).dropSyncToken.onSyncSucceeded now)
  | .syncFailed actionId message =>
      self.endAction actionId .sync
        (.ok ((self.dropSyncToken.onSyncFailed message).finishAction actionId .failed))
  | .syncCancelled actionId => .ok (self.completeCancelledAction actionId)

end BacktestPresenter

-- What the user, a worker or the event loop does next. The clock keeps to the
-- range of datetimes.
inductive BacktestScreenLabel (φ γ ρ : Type)
  | edit (form : φ) (now : ℤ)
  | runRequested (now started : ℤ)
  | syncRequested
  | cancelRequested
  | works (actionId : ℕ) (move : WorkerMove γ ρ)
  | delivered (now : ℤ)

namespace BacktestPresenter

variable {φ ω γ ρ : Type} (setup : BacktestScreenSetup φ ω γ ρ)

def workerOf (self : BacktestPresenter φ ω γ ρ) (actionId : ℕ) : Option (BacktestWorker ω γ ρ) :=
  self.workers.find? fun worker => worker.actionId = actionId

def workedOn (self : BacktestPresenter φ ω γ ρ) (actionId : ℕ) (left : Option (BacktestWorker ω γ ρ))
    (emitted : List (BacktestSignal ω γ ρ)) : BacktestPresenter φ ω γ ρ :=
  { self with
    workers := (self.workers.filter fun other => other.actionId ≠ actionId) ++ left.toList
    signals := self.signals ++ emitted }

def step (self : BacktestPresenter φ ω γ ρ) : BacktestScreenLabel φ γ ρ → Option (BacktestPresenter φ ω γ ρ)
  | .edit form now => some ({ self with form }.onConfigInputChanged setup now)
  | .runRequested now started => (self.onRunBacktest setup now started).toOption
  | .syncRequested => some self.onRequestSync
  | .cancelRequested => some self.onCancelBacktest
  | .works actionId move =>
      (self.workerOf actionId).bind fun worker =>
        (worker.step setup self.form (decide (actionId ∈ self.cancelledTokens)) move).map fun outcome =>
          self.workedOn actionId outcome.1 outcome.2
  | .delivered now =>
      match self.signals with
      | [] => none
      | signal :: rest => ({ self with signals := rest }.deliver setup now signal).toOption

end BacktestPresenter

end Sagittarius
