import Sagittarius.Library.Mirror
import Sagittarius.Screen.TradingPresenter

set_option autoImplicit false

namespace Sagittarius

open Interleaving

inductive TradingWorker
  | vacant
  | enabling (actionId : ℕ) (enabling : Enabling)
  | disabling (actionId : ℕ) (stopping : Stopping)
  | emergencyStopping (actionId : ℕ) (stopping : Stopping)
  | completed (actionId : ℕ) (completion : TradingCompletion)

-- `raised` is the `except` of a worker, wherever in the command it comes from.
inductive WorkerStep
  | enabling (step : EnablingStep)
  | stopping (step : StoppingStep)
  | enableReturned (positions : List LivePosition) (openOrders : List ReportedOrder)
  | disableReturned
  | emergencyStopReturned (result : EmergencyStopResult)
  | raised (exc : String)

def SubmittedAction.worker : SubmittedAction → TradingWorker
  | .enable actionId => .enabling actionId .idle
  | .disable actionId => .disabling actionId .idle
  | .emergencyStop actionId => .emergencyStopping actionId .idle

def Enabling.result (positions : List LivePosition) (openOrders : List ReportedOrder) :
    Enabling → Option EnableTradingResult
  | .enabled => some {
      enabled := true, blockReason := none, reconciledPositions := positions, reconciledOpenOrders := openOrders }
  | .refused reason => some {
      enabled := false, blockReason := some reason, reconciledPositions := positions
      reconciledOpenOrders := openOrders }
  | _ => none

def TradingWorker.advance (setup : TradingSetup) (session : TradingSessionState) :
    TradingWorker → WorkerStep → Option (TradingSessionState × TradingWorker)
  | .enabling actionId call, .enabling step =>
      (Enabling.next setup session call step).map fun after =>
        (TradingSystem.performOp session (call.sessionOp step), .enabling actionId after)
  | .enabling actionId call, .enableReturned positions openOrders =>
      (call.result positions openOrders).map fun result =>
        (session, .completed actionId (.enableTrading (.ok result)))
  | .enabling actionId _, .raised exc => some (session, .completed actionId (.enableTrading (.error exc)))
  | .disabling actionId call, .stopping step =>
      (Stopping.next call step).map fun after =>
        (TradingSystem.performOp session (Stopping.sessionOp step), .disabling actionId after)
  | .disabling actionId .stopped, .disableReturned => some (session, .completed actionId (.disableTrading (.ok ())))
  | .disabling actionId _, .raised exc => some (session, .completed actionId (.disableTrading (.error exc)))
  | .emergencyStopping actionId call, .stopping step =>
      (Stopping.next call step).map fun after =>
        (TradingSystem.performOp session (Stopping.sessionOp step), .emergencyStopping actionId after)
  | .emergencyStopping actionId .stopped, .emergencyStopReturned result =>
      some (session, .completed actionId (.emergencyStop (.ok result)))
  | .emergencyStopping actionId _, .raised exc => some (session, .completed actionId (.emergencyStop (.error exc)))
  | _, _ => none

structure TradingScreen where
  session : TradingSessionState
  presenter : TradingPresenter
  workers : ℕ → TradingWorker := fun _ => .vacant

-- A click takes any vacant thread, and a callback comes in any order. An order
-- or the stream may change the session beside the commands.
inductive ScreenLabel
  | toggleRequested (party : ℕ) (submitted : Except String Unit)
  | emergencyStopRequested (party : ℕ) (submitted : Except String Unit)
  | work (party : ℕ) (step : WorkerStep)
  | delivered (party : ℕ)
  | recordOrderSent (symbol : String) (now : ℤ)
  | reconcilePosition (symbol : String) (hasPosition : Bool)

namespace TradingScreen

def opened (session : TradingSessionState) (autostart : Bool) : TradingScreen where
  session := session
  presenter := .opened session autostart

def clicked (screen : TradingScreen) (party : ℕ) (handled : TradingPresenter × Option SubmittedAction) :
    Option TradingScreen :=
  match screen.workers party with
  | .vacant => some { screen with
      presenter := handled.1
      workers := Function.update screen.workers party (handled.2.elim .vacant SubmittedAction.worker) }
  | _ => none

def step (setup : TradingSetup) (screen : TradingScreen) : ScreenLabel → Option TradingScreen
  | .toggleRequested party submitted =>
      screen.clicked party (screen.presenter.onToggleRequested screen.session submitted)
  | .emergencyStopRequested party submitted =>
      screen.clicked party (screen.presenter.onEmergencyStopRequested screen.session submitted)
  | .work party step =>
      ((screen.workers party).advance setup screen.session step).map fun after =>
        { screen with session := after.1, workers := Function.update screen.workers party after.2 }
  | .delivered party =>
      match screen.workers party with
      | .completed actionId completion => some { screen with
          presenter := screen.presenter.onCompleted screen.session actionId completion
          workers := Function.update screen.workers party .vacant }
      | _ => none
  | .recordOrderSent symbol now => some { screen with session := screen.session.recordOrderSent symbol now }
  | .reconcilePosition symbol hasPosition =>
      some { screen with session := screen.session.reconcilePosition symbol hasPosition }

end TradingScreen

-- The switch is an original and the flag on the screen its image. A command
-- that wrote the switch owes the flag its callback, unless it raised.
def TradingCompletion.owes : TradingCompletion → Option Bool
  | .enableTrading (.ok result) => if result.enabled then some true else none
  | .disableTrading (.ok _) => some false
  | .emergencyStop (.ok _) => some false
  | _ => none

def Enabling.debt : Enabling → Option Bool
  | .applied => some true
  | .enabled => some true
  | _ => none

def Stopping.debt : Stopping → Option Bool
  | .disabled => some false
  | .stopped => some false
  | _ => none

def TradingWorker.owes : TradingWorker → Option Bool
  | .vacant => none
  | .enabling _ call => call.debt
  | .disabling _ call => call.debt
  | .emergencyStopping _ call => call.debt
  | .completed _ completion => completion.owes

def Enabling.writes (session : TradingSessionState) : Enabling → EnablingStep → Option Bool
  | .reconciled generation, .apply => if session.expects (some generation) then some true else none
  | _, _ => none

def Stopping.writes : StoppingStep → Option Bool
  | .disable => some false
  | _ => none

def TradingWorker.change (session : TradingSessionState) (party : ℕ) :
    TradingWorker → WorkerStep → Mirror.Change ℕ Bool
  | .enabling _ call, .enabling step => (call.writes session step).elim .stay (.write party)
  | _, .stopping step => (Stopping.writes step).elim .stay (.write party)
  | _, .raised _ => .drop party
  | _, _ => .stay

namespace TradingScreen

def mirror (screen : TradingScreen) : Mirror ℕ Bool where
  original := screen.session.enabled
  image := screen.presenter.viewModel.enabled
  underWay := TradingWorker.owes ∘ screen.workers

def change (screen : TradingScreen) : ScreenLabel → Mirror.Change ℕ Bool
  | .toggleRequested party _ => if screen.presenter.stopPending then .stay else .land party screen.session.enabled
  | .emergencyStopRequested party _ =>
      if screen.presenter.stopPending then .stay else .land party screen.session.enabled
  | .work party step => (screen.workers party).change screen.session party step
  | .delivered party =>
      match screen.workers party with
      | .completed actionId completion =>
          if completion.isOwned screen.presenter actionId then .land party (completion.displayed screen.session)
          else .drop party
      | _ => .stay
  | .recordOrderSent _ _ => .stay
  | .reconcilePosition _ _ => .stay

def ShowsSwitch (screen : TradingScreen) (label : ScreenLabel) : Prop :=
  (screen.change label).Writes ∨ screen.mirror.Shows (screen.change label)

-- A callback that displays its result, is stale or reports an exception finds
-- the display right, or another command's callback is to set it right.
def KeepsDisplay (screen : TradingScreen) (label : ScreenLabel) : Prop := screen.mirror.Lawful (screen.change label)

end TradingScreen

theorem enabling_debt (setup : TradingSetup) (session : TradingSessionState) (party : ℕ) (image : Bool)
    (before after : Enabling) (step : EnablingStep) (moved : Enabling.next setup session before step = some after) :
    Mirror.Moves party session.enabled image before.debt
      (TradingSystem.performOp session (before.sessionOp step)).enabled image after.debt
      ((before.writes session step).elim .stay (.write party)) := by
  unfold Enabling.next at moved
  split at moved
  · cases moved
    exact .stay rfl rfl rfl
  · cases moved
    exact .stay rfl rfl (by split_ifs <;> rfl)
  · cases moved
    exact .stay rfl rfl (by split_ifs <;> rfl)
  · cases moved
    exact .stay rfl rfl (by split_ifs <;> rfl)
  · cases moved
    exact .stay rfl rfl rfl
  · rename_i generation
    cases moved
    simp only [Enabling.writes, Enabling.sessionOp, TradingSystem.performOp, Option.elim_some]
    cases expected : session.expects (some generation) with
    | false =>
        rw [TradingSessionState.enable_superseded session _ _ expected]
        exact .stay rfl rfl rfl
    | true =>
        rw [TradingSessionState.enable_applied session _ _ expected]
        exact .write true rfl rfl rfl
  · cases moved
    exact .stay rfl rfl rfl
  · cases moved

theorem stopping_debt (session : TradingSessionState) (party : ℕ) (image : Bool) (before after : Stopping)
    (step : StoppingStep) (moved : Stopping.next before step = some after) :
    Mirror.Moves party session.enabled image before.debt
      (TradingSystem.performOp session (Stopping.sessionOp step)).enabled image after.debt
      ((Stopping.writes step).elim .stay (.write party)) := by
  unfold Stopping.next at moved
  split at moved
  · cases moved
    exact .stay rfl rfl rfl
  · cases moved
    exact .write false rfl rfl rfl
  · cases moved
    exact .stay rfl rfl rfl
  · cases moved

theorem returned_debt (positions : List LivePosition) (openOrders : List ReportedOrder) (call : Enabling)
    (result : EnableTradingResult) (returned : call.result positions openOrders = some result) :
    (TradingCompletion.enableTrading (.ok result)).owes = call.debt := by
  unfold Enabling.result at returned
  split at returned
  · cases returned
    rfl
  · cases returned
    rfl
  · cases returned

theorem worker_debt (setup : TradingSetup) (session : TradingSessionState) (party : ℕ) (image : Bool)
    (worker : TradingWorker) (step : WorkerStep) (after : TradingSessionState × TradingWorker)
    (moved : worker.advance setup session step = some after) :
    Mirror.Moves party session.enabled image worker.owes after.1.enabled image after.2.owes
      (worker.change session party step) := by
  unfold TradingWorker.advance at moved
  split at moved
  · obtain ⟨reached, next, rfl⟩ := Option.map_eq_some_iff.mp moved
    exact enabling_debt setup session party image _ _ _ next
  · obtain ⟨result, returned, rfl⟩ := Option.map_eq_some_iff.mp moved
    exact .stay rfl rfl (returned_debt _ _ _ result returned)
  · cases moved
    exact .drop rfl rfl rfl
  · obtain ⟨reached, next, rfl⟩ := Option.map_eq_some_iff.mp moved
    exact stopping_debt session party image _ _ _ next
  · cases moved
    exact .stay rfl rfl rfl
  · cases moved
    exact .drop rfl rfl rfl
  · obtain ⟨reached, next, rfl⟩ := Option.map_eq_some_iff.mp moved
    exact stopping_debt session party image _ _ _ next
  · cases moved
    exact .stay rfl rfl rfl
  · cases moved
    exact .drop rfl rfl rfl
  · cases moved

namespace TradingScreen

theorem worker_mirror (screen next : TradingScreen) (party : ℕ) (worker : TradingWorker)
    (change : Mirror.Change ℕ Bool) (workers : next.workers = Function.update screen.workers party worker)
    (moves : Mirror.Moves party screen.session.enabled screen.presenter.viewModel.enabled (screen.workers party).owes
      next.session.enabled next.presenter.viewModel.enabled worker.owes change) :
    next.mirror = screen.mirror.apply change := by
  refine Mirror.moves_apply screen.mirror next.mirror party worker.owes change moves ?_
  rw [mirror, workers]
  exact Function.comp_update TradingWorker.owes screen.workers party worker

theorem submitted_owes (action : Option SubmittedAction) :
    (action.elim TradingWorker.vacant SubmittedAction.worker).owes = none := by
  cases action with
  | none => rfl
  | some action => cases action <;> rfl

theorem clicked_mirror (screen next : TradingScreen) (party : ℕ) (handled : TradingPresenter × Option SubmittedAction)
    (enabled : handled.1.viewModel.enabled =
      if screen.presenter.stopPending then screen.presenter.viewModel.enabled else screen.session.enabled)
    (moved : screen.clicked party handled = some next) :
    next.mirror = screen.mirror.apply
      (if screen.presenter.stopPending then .stay else .land party screen.session.enabled) := by
  unfold clicked at moved
  split at moved
  · rename_i vacant
    cases moved
    refine worker_mirror screen _ party _ _ rfl ?_
    rw [vacant, submitted_owes]
    split_ifs with pending
    · exact .stay rfl (enabled.trans (if_pos pending)) rfl
    · exact .land _ rfl (enabled.trans (if_neg pending)) rfl
  · cases moved

theorem step_mirror (setup : TradingSetup) (screen next : TradingScreen) (label : ScreenLabel)
    (moved : screen.step setup label = some next) : next.mirror = screen.mirror.apply (screen.change label) := by
  cases label with
  | toggleRequested party submitted =>
      exact screen.clicked_mirror next party _ (screen.presenter.toggle_requested_enabled screen.session submitted) moved
  | emergencyStopRequested party submitted =>
      exact screen.clicked_mirror next party _ (screen.presenter.stop_requested_enabled screen.session submitted) moved
  | work party step =>
      obtain ⟨after, advanced, rfl⟩ := Option.map_eq_some_iff.mp moved
      exact worker_mirror screen _ party after.2 _ rfl (worker_debt setup screen.session party _ _ step after advanced)
  | delivered party =>
      simp only [TradingScreen.step] at moved
      split at moved
      · rename_i actionId completion waiting
        cases moved
        have enabled := screen.presenter.completed_enabled screen.session actionId completion
        refine worker_mirror screen _ party .vacant _ rfl ?_
        simp only [change, waiting]
        split_ifs with owned
        · exact .land _ rfl (enabled.trans (if_pos owned)) rfl
        · exact .drop rfl (enabled.trans (if_neg owned)) rfl
      · cases moved
  | recordOrderSent symbol now =>
      cases moved
      rfl
  | reconcilePosition symbol hasPosition =>
      cases moved
      rfl

end TradingScreen

-- Once every command has returned and every callback has run, the flag on the
-- screen is the switch exactly when every step since the last that changed or
-- showed the switch kept the display.
theorem displayed_switch_iff (setup : TradingSetup) (session : TradingSessionState) (autostart : Bool)
    (labels : List ScreenLabel) (final : TradingScreen)
    (completed : run (TradingScreen.step setup) (.opened session autostart) labels = some final)
    (settled : ∀ party, final.workers party = .vacant) :
    final.presenter.viewModel.enabled = final.session.enabled ↔
      MetSince (TradingScreen.step setup) TradingScreen.ShowsSwitch TradingScreen.KeepsDisplay True
        (.opened session autostart) labels := by
  have settling := run_met_since_iff (TradingScreen.step setup) TradingScreen.ShowsSwitch TradingScreen.KeepsDisplay
    (fun _ => True) (fun screen => screen.mirror.Settling) (fun _ _ _ _ _ => trivial)
    (fun screen label next _ moved => by
      rw [screen.step_mirror setup next label moved]
      exact Mirror.settling_shown_iff screen.mirror _)
    labels (.opened session autostart) final trivial completed
  have initially : (TradingScreen.opened session autostart).mirror.Settling = True := eq_true (.inl rfl)
  have quiet : ∀ party, final.mirror.underWay party = none := fun party => congrArg TradingWorker.owes (settled party)
  rw [initially, Mirror.settling_quiet_iff final.mirror quiet] at settling
  exact settling

def ScreenLabel.party : ScreenLabel → Option ℕ
  | .toggleRequested party _ => some party
  | .emergencyStopRequested party _ => some party
  | .work party _ => some party
  | .delivered party => some party
  | .recordOrderSent _ _ => none
  | .reconcilePosition _ _ => none

def TradingWorker.isVacant : TradingWorker → Bool
  | .vacant => true
  | _ => false

theorem TradingWorker.vacant_of (worker : TradingWorker) (isVacant : worker.isVacant = true) : worker = .vacant := by
  cases worker with
  | vacant => rfl
  | _ => cases isVacant

theorem untouched_worker (setup : TradingSetup) (party : ℕ) (labels : List ScreenLabel) (screen final : TradingScreen)
    (vacant : screen.workers party = .vacant) (untouched : ∀ label ∈ labels, label.party ≠ some party)
    (completed : run (TradingScreen.step setup) screen labels = some final) : final.workers party = .vacant := by
  refine run_invariant_on (TradingScreen.step setup) (fun label => label.party ≠ some party)
    (fun screen => screen.workers party = .vacant) ?_ labels screen final vacant untouched completed
  intro screen label next vacant other moved
  have kept : ∀ mover worker, party ≠ mover → Function.update screen.workers mover worker party = .vacant :=
    fun mover worker different => (Function.update_of_ne different _ _).trans vacant
  have clicks : ∀ mover handled, party ≠ mover → screen.clicked mover handled = some next →
      next.workers party = .vacant := by
    intro mover handled different clicked
    unfold TradingScreen.clicked at clicked
    split at clicked
    · cases clicked
      exact kept mover _ different
    · cases clicked
  cases label with
  | toggleRequested mover submitted => exact clicks mover _ (fun same => other (congrArg some same.symm)) moved
  | emergencyStopRequested mover submitted => exact clicks mover _ (fun same => other (congrArg some same.symm)) moved
  | work mover step =>
      obtain ⟨after, _, rfl⟩ := Option.map_eq_some_iff.mp moved
      exact kept mover _ fun same => other (congrArg some same.symm)
  | delivered mover =>
      simp only [TradingScreen.step] at moved
      split at moved
      · cases moved
        exact kept mover _ fun same => other (congrArg some same.symm)
      · cases moved
  | recordOrderSent symbol now =>
      cases moved
      exact vacant
  | reconcilePosition symbol hasPosition =>
      cases moved
      exact vacant

structure ScreenSighting where
  settled : Bool
  displayed : Bool
  enabled : Bool
deriving DecidableEq

def TradingScreen.sighting (screen : TradingScreen) : ScreenSighting where
  settled := (screen.workers 0).isVacant && (screen.workers 1).isVacant
  displayed := screen.presenter.viewModel.enabled
  enabled := screen.session.enabled

theorem settled_of_sighting (setup : TradingSetup) (session : TradingSessionState) (autostart : Bool)
    (labels : List ScreenLabel) (final : TradingScreen) (parties : ∀ label ∈ labels, label.party ∈ [none, some 0, some 1])
    (completed : run (TradingScreen.step setup) (.opened session autostart) labels = some final)
    (settled : final.sighting.settled = true) (party : ℕ) : final.workers party = .vacant := by
  obtain ⟨first, second⟩ := Bool.and_eq_true_iff.mp settled
  by_cases touched : party = 0 ∨ party = 1
  · rcases touched with rfl | rfl
    · exact TradingWorker.vacant_of _ first
    · exact TradingWorker.vacant_of _ second
  · refine untouched_worker setup party labels _ final rfl (fun label member same => ?_) completed
    have named := parties label member
    simp [same, touched] at named

def reconcileSteps : List ScreenLabel :=
  .toggleRequested 0 (.ok ()) ::
    [EnablingStep.call, .readGeneration, .checkConnection { reachable := true, failed := false }, .readAccount []].map
      fun step => .work 0 (.enabling step)

def emergencyStopSteps : List ScreenLabel :=
  [.emergencyStopRequested 1 (.ok ()), .work 1 (.stopping .call), .work 1 (.stopping .disable),
    .work 1 (.stopping .stopStream),
    .work 1 (.emergencyStopReturned {
      tradingDisabled := { succeeded := true, detail := "Trading disabled." }
      ordersCancelled := { succeeded := true, detail := "No open orders." }
      positionsClosed := { succeeded := true, detail := "No open positions." }
      finalStateConfirmed := true }),
    .delivered 1]

theorem displayed_switch_after_refused_enable :
    ∃ final, run (TradingScreen.step { limits := .configured }) (.opened {} false)
        (reconcileSteps ++ emergencyStopSteps ++
          [.work 0 (.enabling .apply), .work 0 (.enableReturned [] []), .delivered 0]) = some final ∧
      (final.presenter.viewModel.enabled = final.session.enabled ↔
        MetSince (TradingScreen.step { limits := .configured }) TradingScreen.ShowsSwitch TradingScreen.KeepsDisplay True
          (.opened {} false) (reconcileSteps ++ emergencyStopSteps ++
            [.work 0 (.enabling .apply), .work 0 (.enableReturned [] []), .delivered 0])) := by
  have runs : (run (TradingScreen.step { limits := .configured }) (.opened {} false)
      (reconcileSteps ++ emergencyStopSteps ++
        [.work 0 (.enabling .apply), .work 0 (.enableReturned [] []), .delivered 0])).map
      TradingScreen.sighting = some ⟨true, false, false⟩ := by decide +kernel
  obtain ⟨final, completed, seen⟩ := Option.map_eq_some_iff.mp runs
  have settled := settled_of_sighting _ _ _ _ final (by decide) completed (congrArg ScreenSighting.settled seen)
  exact ⟨final, completed, displayed_switch_iff _ _ _ _ final completed settled⟩

-- The emergency stop comes between the enable's apply and its return, whose
-- callback then displays trading as enabled.
theorem displayed_switch_overwritten :
    ¬ ∀ (setup : TradingSetup) (session : TradingSessionState) (autostart : Bool) (labels : List ScreenLabel)
      (final : TradingScreen), run (TradingScreen.step setup) (.opened session autostart) labels = some final →
        (∀ party, final.workers party = .vacant) → final.presenter.viewModel.enabled = final.session.enabled := by
  intro claimed
  have runs : (run (TradingScreen.step { limits := .configured }) (.opened {} false)
      (reconcileSteps ++ [.work 0 (.enabling .apply)] ++ emergencyStopSteps ++
        [.work 0 (.enabling .startStream), .work 0 (.enableReturned [] []), .delivered 0])).map
      TradingScreen.sighting = some ⟨true, true, false⟩ := by decide +kernel
  obtain ⟨final, completed, seen⟩ := Option.map_eq_some_iff.mp runs
  have settled := settled_of_sighting _ _ _ _ final (by decide) completed (congrArg ScreenSighting.settled seen)
  have same := claimed _ _ _ _ final completed settled
  have displayed : final.presenter.viewModel.enabled = true := congrArg ScreenSighting.displayed seen
  have enabled : final.session.enabled = false := congrArg ScreenSighting.enabled seen
  rw [displayed, enabled] at same
  cases same

end Sagittarius
