import Mathlib.Data.Finset.Card
import Sagittarius.Screen.LiveOrderBook
import Sagittarius.Trading.EmergencyStop
import Sagittarius.Trading.TradingSystem

set_option autoImplicit false

namespace Sagittarius

inductive ActionOutcome
  | pending
  | succeeded
  | empty
  | failed
  | cancelled
  | invalidated
deriving DecidableEq

structure ActionContext (κ : Type) where
  actionId : ℕ
  kind : κ
deriving DecidableEq

structure ActionOwnershipTracker (κ : Type) where
  nextActionId : ℕ := 0
  activeAction : Option (ActionContext κ) := none
  activeOutcome : Option ActionOutcome := none
deriving DecidableEq

namespace ActionOwnershipTracker

variable {κ : Type} [DecidableEq κ] (tracker : ActionOwnershipTracker κ)

def isCurrent (actionId : ℕ) (kind : κ) : Bool :=
  tracker.activeAction.any fun action => action.actionId = actionId ∧ action.kind = kind

def isCurrentPending (actionId : ℕ) (kind : κ) : Bool :=
  tracker.isCurrent actionId kind && tracker.activeOutcome = some .pending

def finishAction (actionId : ℕ) (outcome : ActionOutcome) : Bool × ActionOwnershipTracker κ :=
  if tracker.activeAction.any fun action => action.actionId = actionId then
    (true, { tracker with activeOutcome := some outcome })
  else (false, tracker)

def invalidateActive : ActionOwnershipTracker κ :=
  match tracker.activeAction with
  | some action =>
      if tracker.activeOutcome = some .pending then (tracker.finishAction action.actionId .invalidated).2 else tracker
  | none => tracker

-- A pending action is invalidated before the new one takes its place.
def beginAction (kind : κ) : ActionContext κ × ActionOwnershipTracker κ :=
  let tracker := tracker.invalidateActive
  let context := { actionId := tracker.nextActionId + 1, kind }
  (context, {
    nextActionId := tracker.nextActionId + 1
    activeAction := some context
    activeOutcome := some .pending })

end ActionOwnershipTracker

structure EnableTradingResult where
  enabled : Bool
  blockReason : Option EnableTradingBlockReason
  reconciledPositions : List LivePosition
  reconciledOpenOrders : List ReportedOrder
deriving DecidableEq

def toggleAction : String := "toggle_trading"

def emergencyStopAction : String := "emergency_stop"

def blockReasonMessages : EnableTradingBlockReason → String
  | .tradingVenueDisabled => "Trading venue is disabled in configuration — only Futures Testnet is supported."
  | .connectionNotReady =>
      "Connection to the exchange is not ready — check your API key/network connection."
  | .unexpectedPositions =>
      "The account has unexpected open positions — please handle them manually " ++
        "on the exchange before enabling trading."
  | .supersededByConcurrentStateChange =>
      "Another operation (usually EMERGENCY STOP) changed the state while " ++
        "reconciliation was in progress — trading was not enabled. Check the " ++
        "state and try again if you still want to enable it."

structure TradingViewModel where
  enabled : Bool := false
  toggleBusy : Bool := false
  statusMessage : String := ""
  statusIsError : Bool := false
  ordersSentThisSession : ℕ := 0
  openSymbolsCount : ℕ := 0
  log : List String := []
deriving DecidableEq

namespace TradingViewModel

def setTradingState (viewModel : TradingViewModel) (enabled busy : Bool) : TradingViewModel :=
  { viewModel with enabled, toggleBusy := busy }

def setStatus (viewModel : TradingViewModel) (message : String) (isError : Bool) : TradingViewModel :=
  { viewModel with statusMessage := message, statusIsError := isError }

def setSessionStats (viewModel : TradingViewModel) (session : TradingSessionState) : TradingViewModel :=
  { viewModel with
    ordersSentThisSession := session.ordersSentThisSession
    openSymbolsCount := session.knownOpenSymbols.card }

def appendLog (viewModel : TradingViewModel) (message : String) : TradingViewModel :=
  { viewModel with log := viewModel.log ++ [message] }

@[simp] theorem trading_state_enabled (viewModel : TradingViewModel) (enabled busy : Bool) :
    (viewModel.setTradingState enabled busy).enabled = enabled := rfl

@[simp] theorem status_enabled (viewModel : TradingViewModel) (message : String) (isError : Bool) :
    (viewModel.setStatus message isError).enabled = viewModel.enabled := rfl

@[simp] theorem session_stats_enabled (viewModel : TradingViewModel) (session : TradingSessionState) :
    (viewModel.setSessionStats session).enabled = viewModel.enabled := rfl

@[simp] theorem append_log_enabled (viewModel : TradingViewModel) (message : String) :
    (viewModel.appendLog message).enabled = viewModel.enabled := rfl

end TradingViewModel

structure TradingPresenter where
  viewModel : TradingViewModel
  toggleTracker : ActionOwnershipTracker String := {}
  emergencyStopTracker : ActionOwnershipTracker String := {}
  orderBook : LiveOrderBookCoordinator := {}
  chartLiveRequested : Bool := false

inductive SubmittedAction
  | enable (actionId : ℕ)
  | disable (actionId : ℕ)
  | emergencyStop (actionId : ℕ)
deriving DecidableEq

namespace TradingPresenter

def opened (session : TradingSessionState) (autostart : Bool) : TradingPresenter where
  viewModel := (TradingViewModel.setTradingState {} session.enabled false).setSessionStats session
  chartLiveRequested := autostart

variable (presenter : TradingPresenter) (session : TradingSessionState)

def stopPending : Bool := presenter.emergencyStopTracker.activeOutcome = some .pending

-- `submitted` is what `submit` of the thread pool answers. What it raises here
-- ends in the log of `safe_ui_action`.
def onToggleRequested (submitted : Except String Unit) : TradingPresenter × Option SubmittedAction :=
  if presenter.stopPending then
    ({ presenter with
        viewModel := presenter.viewModel.setStatus
          ("Emergency stop in progress — please wait for it to finish " ++
            "before enabling/disabling trading.") true }, none)
  else
    let (action, tracker) := presenter.toggleTracker.beginAction toggleAction
    let submitting := if session.enabled then SubmittedAction.disable action.actionId else .enable action.actionId
    ({ presenter with
        toggleTracker := tracker
        viewModel := presenter.viewModel.setTradingState session.enabled true },
      submitted.toOption.map fun _ => submitting)

def onEmergencyStopRequested (submitted : Except String Unit) : TradingPresenter × Option SubmittedAction :=
  if presenter.stopPending then
    ({ presenter with
        viewModel := presenter.viewModel.setStatus
          "Emergency stop in progress — the request has already been sent, please wait." false }, none)
  else
    let (action, tracker) := presenter.emergencyStopTracker.beginAction emergencyStopAction
    let viewModel :=
      (presenter.viewModel.setTradingState session.enabled true).setStatus "Emergency stop in progress..." false
    match submitted with
    | .ok _ => ({ presenter with emergencyStopTracker := tracker, viewModel }, some (.emergencyStop action.actionId))
    | .error exc =>
        ({ presenter with
            emergencyStopTracker := tracker
            viewModel :=
              (viewModel.setTradingState session.enabled false).setStatus s!"Error during emergency stop: {exc}" true },
          none)

def onEnableTradingCompleted (actionId : ℕ) (outcome : Except String EnableTradingResult) : TradingPresenter :=
  if presenter.toggleTracker.isCurrentPending actionId toggleAction then
    match outcome with
    | .error error =>
        { presenter with
          toggleTracker := (presenter.toggleTracker.finishAction actionId .failed).2
          viewModel := (presenter.viewModel.setTradingState session.enabled false).setStatus
            s!"Error enabling trading: {error}" true }
    | .ok result =>
        let shown := presenter.viewModel.setTradingState result.enabled false
        let status :=
          if result.enabled then shown.setStatus "Trading enabled." false
          else shown.setStatus ((result.blockReason.map blockReasonMessages).getD "") true
        { presenter with
          toggleTracker := (presenter.toggleTracker.finishAction actionId .succeeded).2
          viewModel := status.setSessionStats session
          chartLiveRequested := presenter.chartLiveRequested || result.enabled
          orderBook := .replaceAll (if result.enabled then [] else result.reconciledPositions)
            result.reconciledOpenOrders }
  else presenter

def onDisableTradingCompleted (actionId : ℕ) (outcome : Except String Unit) : TradingPresenter :=
  if presenter.toggleTracker.isCurrentPending actionId toggleAction then
    match outcome with
    | .error error =>
        { presenter with
          toggleTracker := (presenter.toggleTracker.finishAction actionId .failed).2
          viewModel := (presenter.viewModel.setTradingState session.enabled false).setStatus
            s!"Error disabling trading: {error}" true }
    | .ok _ =>
        { presenter with
          toggleTracker := (presenter.toggleTracker.finishAction actionId .succeeded).2
          viewModel := (presenter.viewModel.setTradingState false false).setStatus "Trading disabled." false }
  else presenter

def stepLine (index : ℕ) (label : String) (step : EmergencyStopStepResult) : String :=
  let mark := if step.succeeded then "✔" else "✘"
  s!"  {index}. {label} ... {mark} {step.detail}"

def logEmergencyStopResult (viewModel : TradingViewModel) (result : EmergencyStopResult) : TradingViewModel :=
  (((viewModel.appendLog "EMERGENCY STOP").appendLog (stepLine 1 "Disable trading" result.tradingDisabled)).appendLog
    (stepLine 2 "Cancel pending orders" result.ordersCancelled)).appendLog
    (stepLine 3 "Close positions" result.positionsClosed)

def applyEmergencyStopFinalState (result : EmergencyStopResult) : TradingPresenter :=
  if result.finalStateConfirmed then
    { presenter with orderBook := .replaceAll result.finalPositions result.finalOpenOrders }
  else
    { presenter with
      viewModel := presenter.viewModel.appendLog
        ("[WARNING] Could not confirm account state after the emergency " ++
          "stop — the positions/open orders table below may no longer be " ++
          "accurate. Run `exchange-status` to check directly.") }

def onEmergencyStopCompleted (actionId : ℕ) (outcome : Except String EmergencyStopResult) : TradingPresenter :=
  if presenter.emergencyStopTracker.isCurrentPending actionId emergencyStopAction then
    match outcome with
    | .error error =>
        { presenter with
          emergencyStopTracker := (presenter.emergencyStopTracker.finishAction actionId .failed).2
          viewModel := ((presenter.viewModel.setTradingState session.enabled false).setStatus
            s!"Error during emergency stop: {error}" true).appendLog s!"[ERROR] Emergency stop failed: {error}" }
    | .ok result =>
        let finished := if result.fullySucceeded then ActionOutcome.succeeded else .failed
        let reported := applyEmergencyStopFinalState {
          presenter with
          emergencyStopTracker := (presenter.emergencyStopTracker.finishAction actionId finished).2
          viewModel := logEmergencyStopResult (presenter.viewModel.setTradingState session.enabled false) result } result
        { reported with
          viewModel :=
            if result.fullySucceeded then reported.viewModel.setStatus "Emergency stop completed." false
            else reported.viewModel.setStatus "EMERGENCY STOP — PARTIALLY FAILED. See the log." true }
  else presenter

end TradingPresenter

inductive TradingCompletion
  | enableTrading (outcome : Except String EnableTradingResult)
  | disableTrading (outcome : Except String Unit)
  | emergencyStop (outcome : Except String EmergencyStopResult)

namespace TradingCompletion

def isOwned (presenter : TradingPresenter) (actionId : ℕ) : TradingCompletion → Bool
  | .enableTrading _ => presenter.toggleTracker.isCurrentPending actionId toggleAction
  | .disableTrading _ => presenter.toggleTracker.isCurrentPending actionId toggleAction
  | .emergencyStop _ => presenter.emergencyStopTracker.isCurrentPending actionId emergencyStopAction

def displayed (session : TradingSessionState) : TradingCompletion → Bool
  | .enableTrading (.ok result) => result.enabled
  | .disableTrading (.ok _) => false
  | _ => session.enabled

end TradingCompletion

namespace TradingPresenter

def onCompleted (presenter : TradingPresenter) (session : TradingSessionState) (actionId : ℕ) :
    TradingCompletion → TradingPresenter
  | .enableTrading outcome => presenter.onEnableTradingCompleted session actionId outcome
  | .disableTrading outcome => presenter.onDisableTradingCompleted session actionId outcome
  | .emergencyStop outcome => presenter.onEmergencyStopCompleted session actionId outcome

variable (presenter : TradingPresenter) (session : TradingSessionState)

theorem toggle_requested_enabled (submitted : Except String Unit) :
    (presenter.onToggleRequested session submitted).1.viewModel.enabled =
      if presenter.stopPending then presenter.viewModel.enabled else session.enabled := by
  unfold onToggleRequested
  split_ifs <;> rfl

theorem stop_requested_enabled (submitted : Except String Unit) :
    (presenter.onEmergencyStopRequested session submitted).1.viewModel.enabled =
      if presenter.stopPending then presenter.viewModel.enabled else session.enabled := by
  unfold onEmergencyStopRequested
  split_ifs
  · rfl
  · cases submitted <;> rfl

theorem final_state_enabled (result : EmergencyStopResult) :
    (presenter.applyEmergencyStopFinalState result).viewModel.enabled = presenter.viewModel.enabled := by
  unfold applyEmergencyStopFinalState
  split_ifs <;> rfl

theorem emergency_stop_completed_enabled (actionId : ℕ) (outcome : Except String EmergencyStopResult) :
    (presenter.onEmergencyStopCompleted session actionId outcome).viewModel.enabled =
      if presenter.emergencyStopTracker.isCurrentPending actionId emergencyStopAction then session.enabled
      else presenter.viewModel.enabled := by
  unfold onEmergencyStopCompleted
  split_ifs
  · cases outcome with
    | error error => rfl
    | ok result =>
        dsimp only
        split_ifs <;> simp [final_state_enabled, logEmergencyStopResult]
  · rfl

theorem enable_trading_completed_enabled (actionId : ℕ) (outcome : Except String EnableTradingResult) :
    (presenter.onEnableTradingCompleted session actionId outcome).viewModel.enabled =
      if presenter.toggleTracker.isCurrentPending actionId toggleAction then
        (TradingCompletion.enableTrading outcome).displayed session
      else presenter.viewModel.enabled := by
  unfold onEnableTradingCompleted
  split_ifs
  · cases outcome with
    | error error => rfl
    | ok result =>
        dsimp only
        split_ifs <;> simp [TradingCompletion.displayed]
  · rfl

theorem disable_trading_completed_enabled (actionId : ℕ) (outcome : Except String Unit) :
    (presenter.onDisableTradingCompleted session actionId outcome).viewModel.enabled =
      if presenter.toggleTracker.isCurrentPending actionId toggleAction then
        (TradingCompletion.disableTrading outcome).displayed session
      else presenter.viewModel.enabled := by
  unfold onDisableTradingCompleted
  split_ifs
  · cases outcome <;> rfl
  · rfl

theorem completed_enabled (actionId : ℕ) (completion : TradingCompletion) :
    (presenter.onCompleted session actionId completion).viewModel.enabled =
      if completion.isOwned presenter actionId then completion.displayed session else presenter.viewModel.enabled := by
  cases completion with
  | enableTrading outcome => exact enable_trading_completed_enabled presenter session actionId outcome
  | disableTrading outcome => exact disable_trading_completed_enabled presenter session actionId outcome
  | emergencyStop outcome => exact emergency_stop_completed_enabled presenter session actionId outcome

end TradingPresenter

end Sagittarius
