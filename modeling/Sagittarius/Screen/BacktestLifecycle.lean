import Sagittarius.Screen.BacktestPresenter

set_option autoImplicit false

namespace Sagittarius

open Interleaving

theorem invalidate_keeps_number {κ : Type} [DecidableEq κ] (tracker : ActionOwnershipTracker κ) :
    tracker.invalidateActive.nextActionId = tracker.nextActionId := by
  rw [ActionOwnershipTracker.invalidateActive]
  cases tracker.activeAction with
  | none => rfl
  | some action =>
      dsimp only
      by_cases pending : tracker.activeOutcome = some .pending
      · rw [if_pos pending, ActionOwnershipTracker.finishAction]
        split_ifs <;> rfl
      · rw [if_neg pending]

theorem begin_action_numbers {κ : Type} [DecidableEq κ] (tracker : ActionOwnershipTracker κ) (kind : κ) :
    tracker.beginAction kind =
      ({ actionId := tracker.nextActionId + 1, kind },
        { nextActionId := tracker.nextActionId + 1
          activeAction := some { actionId := tracker.nextActionId + 1, kind }
          activeOutcome := some .pending }) := by
  rw [ActionOwnershipTracker.beginAction, invalidate_keeps_number]

def BacktestActionKind.workingState : BacktestActionKind → BacktestUiState
  | backtest => .running
  | sync => .syncing

namespace BacktestSignal

variable {ω γ ρ : Type}

def actionId : BacktestSignal ω γ ρ → ℕ
  | coverageMissing actionId _ _ _ => actionId
  | coverageReady actionId _ => actionId
  | backtestSucceeded actionId _ => actionId
  | backtestEmpty actionId _ _ => actionId
  | backtestFailed actionId _ => actionId
  | backtestCancelled actionId => actionId
  | syncSucceeded actionId => actionId
  | syncFailed actionId _ => actionId
  | syncCancelled actionId => actionId

def ends : BacktestSignal ω γ ρ → Option BacktestActionKind
  | coverageReady _ _ => none
  | syncSucceeded _ => some .sync
  | syncFailed _ _ => some .sync
  | syncCancelled _ => some .sync
  | _ => some .backtest

def tellsCancelled : BacktestSignal ω γ ρ → Bool
  | backtestCancelled _ => true
  | syncCancelled _ => true
  | _ => false

def tellsMissing : BacktestSignal ω γ ρ → Bool
  | coverageMissing _ _ _ _ => true
  | _ => false

def config? : BacktestSignal ω γ ρ → Option (BacktestRunConfig ω)
  | coverageMissing _ config _ _ => some config
  | backtestEmpty _ _ config => some config
  | _ => none

def further : BacktestSignal ω γ ρ → ℕ
  | coverageMissing _ _ _ allowAutoSync => if allowAutoSync then 2 else 0
  | syncSucceeded _ => 1
  | _ => 0

end BacktestSignal

def BacktestWorker.further {ω γ ρ : Type} (worker : BacktestWorker ω γ ρ) : ℕ :=
  match worker.kind with
  | .backtest => if worker.allowAutoSync then 2 else 0
  | .sync => 1

structure BacktestSignal.EndsWorker {ω γ ρ : Type} (last : BacktestSignal ω γ ρ) (worker : BacktestWorker ω γ ρ)
    (isCancelled : Bool) : Prop where
  isAction : last.actionId = worker.actionId
  ends : last.ends = some worker.kind
  cancelled : last.tellsCancelled = true → isCancelled = true
  config : ∀ config, last.config? = some config → config = worker.config
  further : last.further ≤ worker.further

theorem BacktestSignal.ends_plainly {ω γ ρ : Type} (last : BacktestSignal ω γ ρ) (worker : BacktestWorker ω γ ρ)
    (isCancelled : Bool) (isAction : last.actionId = worker.actionId) (ends : last.ends = some worker.kind)
    (cancelled : last.tellsCancelled = true → isCancelled = true) (plain : last.config? = none)
    (further : last.further ≤ worker.further) : last.EndsWorker worker isCancelled := by
  refine ⟨isAction, ends, cancelled, fun config same => ?_, further⟩
  rw [plain] at same
  cases same

def WorkerMove.raised {γ ρ : Type} : WorkerMove γ ρ → Bool
  | .raises _ => true
  | _ => false

def BacktestWorker.Sound {ω γ ρ : Type} (worker : BacktestWorker ω γ ρ) : Prop :=
  worker.kind = .sync → ∀ result, worker.stage ≠ .reporting result

namespace BacktestPresenter

variable {φ ω γ ρ : Type} (setup : BacktestScreenSetup φ ω γ ρ) (screen next : BacktestPresenter φ ω γ ρ)

-- A step after which nobody answers for the action: an exception that nothing
-- catches, and missing data that is reported to a screen that is cancelling.
def loses : BacktestScreenLabel φ γ ρ → Bool
  | .works actionId move => move.raised && (screen.workerOf actionId).any BacktestWorker.unguarded
  | .delivered _ => screen.state = .cancelling && screen.signals.head?.any BacktestSignal.tellsMissing
  | _ => false

-- The screen is busy, and nothing is under way that could end it.
def Stalls : Prop := screen.state.busy = true ∧ screen.workers = [] ∧ ∀ signal ∈ screen.signals, signal.ends = none

structure Numbered : Prop where
  tokens : ∀ token ∈ screen.cancelledTokens, token ≤ screen.tracker.nextActionId
  actions : ∀ action, screen.tracker.activeAction = some action → action.actionId ≤ screen.tracker.nextActionId
  owned : screen.tracker.activeAction.isSome → screen.owned.isSome

structure PendingFor (actionId : ℕ) (kind : BacktestActionKind) : Prop where
  state : screen.state = kind.workingState
  action : screen.tracker.activeAction = some { actionId, kind }
  outcome : screen.tracker.activeOutcome = some .pending
  token : screen.token kind = some actionId
  uncancelled : actionId ∉ screen.cancelledTokens
  missing : kind = .sync → screen.lastNoDataConfig.isSome

structure CancellingFor (actionId : ℕ) (kind : BacktestActionKind) : Prop where
  state : screen.state = .cancelling
  action : screen.tracker.activeAction = some { actionId, kind }
  outcome : screen.tracker.activeOutcome = some .invalidated
  cancelling : screen.cancellingActionId = some actionId
  cancelled : actionId ∈ screen.cancelledTokens

def OwnedBy (actionId : ℕ) (kind : BacktestActionKind) : Prop :=
  screen.PendingFor actionId kind ∨ screen.CancellingFor actionId kind

structure Free : Prop where
  state : screen.state.busy = false
  outcome : screen.tracker.activeOutcome ≠ some .pending

structure Idle : Prop where
  free : screen.Free
  workers : screen.workers = []
  signals : screen.signals = []

inductive WorkLeft (actionId : ℕ) (kind : BacktestActionKind) : Prop
  | worker (worker : BacktestWorker ω γ ρ) (only : screen.workers = [worker]) (isAction : worker.actionId = actionId)
      (isKind : worker.kind = kind) (sound : worker.Sound)
      (readies : ∀ signal ∈ screen.signals, signal.ends = none ∧ signal.actionId = actionId)
  | signal (readies : List (BacktestSignal ω γ ρ)) (last : BacktestSignal ω γ ρ) (idle : screen.workers = [])
      (signals : screen.signals = readies ++ [last])
      (ready : ∀ signal ∈ readies, signal.ends = none ∧ signal.actionId = actionId)
      (isAction : last.actionId = actionId) (ends : last.ends = some kind)
      (cancelled : last.tellsCancelled = true → actionId ∈ screen.cancelledTokens)

def Working : Prop := ∃ actionId kind, screen.OwnedBy actionId kind ∧ screen.WorkLeft actionId kind

def Lost : Prop :=
  ∃ actionId kind, screen.OwnedBy actionId kind ∧ screen.workers = [] ∧
    ∀ signal ∈ screen.signals, signal.ends = none ∧ signal.actionId = actionId

structure Consistent : Prop where
  numbered : screen.Numbered
  situation : screen.Idle ∨ screen.Working ∨ screen.Lost

theorem owned_busy (actionId : ℕ) (kind : BacktestActionKind) (owned : screen.OwnedBy actionId kind) :
    screen.state.busy = true := by
  cases owned with
  | inl pending =>
      rw [pending.state]
      cases kind <;> rfl
  | inr cancelling =>
      rw [cancelling.state]
      rfl

theorem lost_stalls (lost : screen.Lost) : screen.Stalls := by
  obtain ⟨actionId, kind, owned, workers, signals⟩ := lost
  exact ⟨screen.owned_busy actionId kind owned, workers, fun signal listed => (signals signal listed).1⟩

theorem working_goes_on (working : screen.Working) : ¬ screen.Stalls := by
  obtain ⟨actionId, kind, _, left⟩ := working
  intro stalls
  cases left with
  | worker worker only => exact List.cons_ne_nil _ _ (only.symm.trans stalls.2.1)
  | signal readies last _ signals _ _ ends =>
      have ready := stalls.2.2 last (by rw [signals]; exact List.mem_append_right _ List.mem_cons_self)
      rw [ends] at ready
      cases ready

theorem idle_goes_on (idle : screen.Idle) : ¬ screen.Stalls := by
  intro stalls
  have free := idle.free.state
  rw [stalls.1] at free
  cases free

theorem pending_is_current (actionId : ℕ) (kind : BacktestActionKind) (pending : screen.PendingFor actionId kind) :
    screen.tracker.isCurrentPending actionId kind = true := by
  simp [ActionOwnershipTracker.isCurrentPending, ActionOwnershipTracker.isCurrent, pending.action, pending.outcome]

theorem pending_not_cancelling (actionId other : ℕ) (kind : BacktestActionKind) (pending : screen.PendingFor actionId kind) :
    screen.isCancellingAction other = false := by
  simp [isCancellingAction, pending.outcome]

theorem cancelling_not_current (actionId other : ℕ) (kind wanted : BacktestActionKind)
    (cancelling : screen.CancellingFor actionId kind) : screen.tracker.isCurrentPending other wanted = false := by
  simp [ActionOwnershipTracker.isCurrentPending, cancelling.outcome]

theorem cancelling_is_cancelling (actionId : ℕ) (kind : BacktestActionKind) (cancelling : screen.CancellingFor actionId kind) :
    screen.isCancellingAction actionId = true := by
  simp [isCancellingAction, cancelling.action, cancelling.outcome, cancelling.cancelling, cancelling.state]

theorem finish_outcome (actionId : ℕ) (kind : BacktestActionKind) (outcome : ActionOutcome)
    (active : screen.tracker.activeAction = some { actionId, kind }) :
    (screen.finishAction actionId outcome).tracker = { screen.tracker with activeOutcome := some outcome } := by
  have isActive : (screen.tracker.activeAction.any fun action => action.actionId = actionId) = true := by
    rw [active]
    exact decide_eq_true rfl
  rw [finishAction, ActionOwnershipTracker.finishAction, if_pos isActive]

theorem config_input_cases (now : ℤ) :
    (screen.state.busy = true ∧ screen.onConfigInputChanged setup now = screen) ∨
      ∃ state text, state.busy = false ∧
        screen.onConfigInputChanged setup now = { screen with state, configDiffSummary := text } := by
  rw [onConfigInputChanged]
  by_cases busy : screen.state.busy = true
  · exact .inl ⟨busy, if_pos busy⟩
  · rw [if_neg busy]
    have changed : ((backtestStateTransitions screen.state .configChanged).getD screen.state).busy = false := by
      cases isState : screen.state <;> first | rfl | exact absurd (congrArg BacktestUiState.busy isState) busy
    have restored : ((backtestStateTransitions screen.state .configRestored).getD screen.state).busy = false := by
      cases isState : screen.state <;> first | rfl | exact absurd (congrArg BacktestUiState.busy isState) busy
    refine .inr ?_
    split
    · exact ⟨_, screen.configDiffSummary, changed, rfl⟩
    · next last _ =>
        by_cases same : setup.sameConfig (setup.snapshotCurrentConfig screen.form now) last = true
        · exact ⟨_, "", restored, if_pos same⟩
        · exact ⟨_, _, changed, if_neg same⟩

theorem start_run_owns (config : BacktestRunConfig ω) (previousState : Option BacktestUiState) (allowAutoSync : Bool) (now : ℤ)
    (isRunning : screen.state = .running) (numbered : screen.Numbered)
    (started : screen.startBacktestRun config previousState allowAutoSync now = .ok next) :
    next.Numbered ∧ next.PendingFor (screen.tracker.nextActionId + 1) .backtest ∧ next.signals = screen.signals ∧
      ∃ pinned, config.started now = .ok pinned ∧
        next.workers = screen.workers ++ [{
          actionId := screen.tracker.nextActionId + 1, kind := .backtest
          config := pinned, allowAutoSync, stage := .probing }] := by
  rw [startBacktestRun] at started
  cases pinned : config.started now with
  | error error =>
      rw [pinned] at started
      cases started
  | ok config =>
      rw [pinned] at started
      cases started
      simp only [beginAction, begin_action_numbers]
      refine ⟨⟨fun token cancelled => (numbered.tokens token cancelled).trans (Nat.le_succ _), ?_, fun _ => rfl⟩, ?_, trivial,
        config, rfl, rfl⟩
      · intro action isActive
        cases isActive
        exact le_refl _
      · exact {
          state := isRunning, action := rfl, outcome := rfl, token := rfl, missing := nofun
          uncancelled := fun cancelled => absurd (numbered.tokens _ cancelled) (Nat.not_succ_le_self _) }

theorem start_sync_owns (config : BacktestRunConfig ω) (coverage : Option γ) (allowed : screen.canDispatch .syncRequested = true)
    (missing : screen.lastNoDataConfig.isSome) (numbered : screen.Numbered) :
    (screen.startSyncForConfig config coverage).Numbered ∧
      (screen.startSyncForConfig config coverage).PendingFor (screen.tracker.nextActionId + 1) .sync ∧
      (screen.startSyncForConfig config coverage).signals = screen.signals ∧
      (screen.startSyncForConfig config coverage).workers = screen.workers ++ [{
        actionId := screen.tracker.nextActionId + 1, kind := .sync, config, coverage, stage := .dispatching }] := by
  have isSyncing : (screen.dispatch .syncRequested).state = .syncing := by
    revert allowed
    rw [canDispatch, dispatch]
    cases screen.state <;> first | (intro; rfl) | nofun
  rw [startSyncForConfig, if_pos allowed]
  simp only [beginAction, begin_action_numbers]
  refine ⟨⟨fun token cancelled => (numbered.tokens token cancelled).trans (Nat.le_succ _), ?_, fun _ => rfl⟩, ?_, rfl, rfl⟩
  · intro action isActive
    cases isActive
    exact le_refl _
  · exact {
      state := isSyncing, action := rfl, outcome := rfl, token := rfl, missing := fun _ => missing
      uncancelled := fun cancelled => absurd (numbered.tokens _ cancelled) (Nat.not_succ_le_self _) }

theorem dispatched_state (event : BacktestUiEvent) (state : BacktestUiState) (isState : screen.state = state) :
    (screen.dispatch event).state = (backtestStateTransitions state event).getD state := by
  rw [dispatch, isState]

theorem restored_settles (previous : BacktestUiState) :
    ((backtestStateTransitions .cancelling (cancelRestoreEvent previous)).getD .cancelling).busy = false := by
  cases previous <;> rfl

theorem numbered_kept (tracker : next.tracker = screen.tracker) (owned : next.owned = screen.owned)
    (tokens : next.cancelledTokens = screen.cancelledTokens) (numbered : screen.Numbered) : next.Numbered := by
  refine ⟨?_, ?_, ?_⟩
  · rw [tokens, tracker]
    exact numbered.tokens
  · rw [tracker]
    exact numbered.actions
  · rw [tracker, owned]
    exact numbered.owned

theorem finish_numbers (actionId : ℕ) (kind : BacktestActionKind) (outcome : ActionOutcome) (numbered : screen.Numbered)
    (active : screen.tracker.activeAction = some { actionId, kind }) : (screen.finishAction actionId outcome).Numbered := by
  have finished := screen.finish_outcome actionId kind outcome active
  refine ⟨?_, ?_, ?_⟩
  · rw [finished]
    exact numbered.tokens
  · rw [finished]
    exact numbered.actions
  · rw [finished]
    exact numbered.owned

theorem finish_frees (actionId : ℕ) (kind : BacktestActionKind) (outcome : ActionOutcome)
    (active : screen.tracker.activeAction = some { actionId, kind }) (settled : screen.state.busy = false)
    (ended : outcome ≠ .pending) (numbered : screen.Numbered) :
    (screen.finishAction actionId outcome).Numbered ∧ (screen.finishAction actionId outcome).Free := by
  refine ⟨screen.finish_numbers actionId kind outcome numbered active, ⟨settled, ?_⟩⟩
  rw [screen.finish_outcome actionId kind outcome active]
  exact fun same => ended (Option.some.inj same)

theorem complete_cancelled_frees (actionId : ℕ) (kind : BacktestActionKind) (cancelling : screen.CancellingFor actionId kind)
    (numbered : screen.Numbered) :
    (screen.completeCancelledAction actionId).Numbered ∧ (screen.completeCancelledAction actionId).Free ∧
      (screen.completeCancelledAction actionId).workers = screen.workers ∧
      (screen.completeCancelledAction actionId).signals = screen.signals := by
  obtain ⟨owned, isOwned⟩ := Option.isSome_iff_exists.mp (numbered.owned (by rw [cancelling.action]; rfl))
  have completed : screen.completeCancelledAction actionId =
      (screen.endCancelled actionId kind).dispatch (cancelRestoreEvent owned.previousState) := by
    rw [completeCancelledAction, if_pos (screen.cancelling_is_cancelling actionId kind cancelling)]
    simp only [cancelling.action, isOwned]
  have finished := screen.finish_outcome actionId kind .cancelled cancelling.action
  have ended : (screen.endCancelled actionId kind).tracker = { screen.tracker with activeOutcome := some .cancelled } := by
    rw [← finished]
    cases kind <;> rfl
  have isState : (screen.endCancelled actionId kind).state = .cancelling := by
    rw [← cancelling.state]
    cases kind <;> rfl
  have settled := dispatched_state (screen.endCancelled actionId kind) (cancelRestoreEvent owned.previousState) _ isState
  rw [completed]
  refine ⟨⟨?_, ?_, ?_⟩, ⟨?_, ?_⟩, ?_, ?_⟩
  · change ∀ token ∈ (screen.endCancelled actionId kind).cancelledTokens,
      token ≤ (screen.endCancelled actionId kind).tracker.nextActionId
    rw [ended]
    cases kind <;> exact numbered.tokens
  · change ∀ action, (screen.endCancelled actionId kind).tracker.activeAction = some action →
      action.actionId ≤ (screen.endCancelled actionId kind).tracker.nextActionId
    rw [ended]
    exact numbered.actions
  · change (screen.endCancelled actionId kind).tracker.activeAction.isSome → (screen.endCancelled actionId kind).owned.isSome
    rw [ended]
    cases kind <;> exact numbered.owned
  · rw [settled]
    exact restored_settles owned.previousState
  · change (screen.endCancelled actionId kind).tracker.activeOutcome ≠ some .pending
    rw [ended]
    nofun
  · cases kind <;> rfl
  · cases kind <;> rfl

theorem end_action_pending (actionId : ℕ) (kind : BacktestActionKind) (finish : Except BuildError (BacktestPresenter φ ω γ ρ))
    (pending : screen.PendingFor actionId kind) : screen.endAction actionId kind finish = finish := by
  rw [endAction, screen.pending_not_cancelling actionId actionId kind pending, if_neg Bool.false_ne_true,
    if_pos (screen.pending_is_current actionId kind pending)]

theorem end_action_cancelling (actionId : ℕ) (kind wanted : BacktestActionKind)
    (finish : Except BuildError (BacktestPresenter φ ω γ ρ)) (cancelling : screen.CancellingFor actionId kind) :
    screen.endAction actionId wanted finish = .ok (screen.completeCancelledAction actionId) := by
  rw [endAction, if_pos (screen.cancelling_is_cancelling actionId kind cancelling)]

theorem finish_idles (ended : BacktestPresenter φ ω γ ρ) (actionId : ℕ) (kind : BacktestActionKind) (outcome : ActionOutcome)
    (event : BacktestUiEvent) (numbered : screen.Numbered) (pending : screen.PendingFor actionId kind)
    (workers : screen.workers = []) (signals : screen.signals = [])
    (written : ended.state = (screen.dispatch event).state ∧ ended.tracker = screen.tracker ∧ ended.owned = screen.owned ∧
      ended.cancelledTokens = screen.cancelledTokens ∧ ended.workers = screen.workers ∧ ended.signals = screen.signals)
    (settled : ((backtestStateTransitions kind.workingState event).getD kind.workingState).busy = false)
    (notPending : outcome ≠ .pending) :
    (ended.finishAction actionId outcome).Numbered ∧ (ended.finishAction actionId outcome).Idle := by
  obtain ⟨state, tracker, owned, tokens, noWorkers, noSignals⟩ := written
  have stillNumbered := screen.numbered_kept ended tracker owned tokens numbered
  have freed := ended.finish_frees actionId kind outcome (by rw [tracker]; exact pending.action)
    (by rw [state, dispatched_state screen event _ pending.state]; exact settled) notPending stillNumbered
  exact ⟨freed.1, freed.2, noWorkers.trans workers, noSignals.trans signals⟩

theorem started_works (actionId : ℕ) (kind : BacktestActionKind) (worker : BacktestWorker ω γ ρ)
    (pending : screen.PendingFor actionId kind) (only : screen.workers = [worker]) (isAction : worker.actionId = actionId)
    (isKind : worker.kind = kind) (sound : worker.Sound) (signals : screen.signals = []) : screen.Working := by
  refine ⟨actionId, kind, .inl pending, .worker worker only isAction isKind sound fun signal listed => ?_⟩
  rw [signals] at listed
  cases listed

theorem coverage_missing_goes_on (actionId : ℕ) (config : BacktestRunConfig ω) (coverage : γ) (allowAutoSync : Bool)
    (pending : screen.PendingFor actionId .backtest) (numbered : screen.Numbered) (workers : screen.workers = [])
    (signals : screen.signals = [])
    (missed : (screen.finishAction actionId .empty).onCoverageMissing setup config coverage allowAutoSync = next) :
    next.Numbered ∧ (next.Idle ∨ next.Working) := by
  have stillNumbered := screen.finish_numbers actionId .backtest .empty numbered pending.action
  have finished := screen.finish_outcome actionId .backtest .empty pending.action
  generalize isFinished : screen.finishAction actionId .empty = ended at missed stillNumbered finished
  have isState : ended.state = .running := by
    rw [← isFinished]
    exact pending.state
  have noWorkers : ended.workers = [] := by
    rw [← isFinished]
    exact workers
  have noSignals : ended.signals = [] := by
    rw [← isFinished]
    exact signals
  subst missed
  cases allowAutoSync with
  | true =>
      generalize isEmptied : (ended.noteMissing setup config coverage).dispatch .backtestEmpty = emptied
      have goesOn : ended.onCoverageMissing setup config coverage true = emptied.startSyncForConfig config (some coverage) := by
        rw [← isEmptied]
        rfl
      have isEmpty : emptied.state = .emptyData := by
        rw [← isEmptied]
        exact dispatched_state _ .backtestEmpty .running isState
      have allowed : emptied.canDispatch .syncRequested = true := by
        rw [canDispatch, isEmpty]
        rfl
      have numbers : emptied.Numbered := by
        rw [← isEmptied]
        exact ⟨stillNumbered.tokens, stillNumbered.actions, stillNumbered.owned⟩
      obtain ⟨nextNumbered, nextPending, nextSignals, nextWorkers⟩ :=
        emptied.start_sync_owns config (some coverage) allowed (by rw [← isEmptied]; rfl) numbers
      have alone : emptied.workers = [] := by
        rw [← isEmptied]
        exact noWorkers
      have silent : emptied.signals = [] := by
        rw [← isEmptied]
        exact noSignals
      rw [alone, List.nil_append] at nextWorkers
      rw [goesOn]
      exact ⟨nextNumbered, .inr (started_works _ _ _ _ nextPending nextWorkers rfl rfl (fun _ _ => nofun)
        (nextSignals.trans silent))⟩
  | false =>
      have failed := dispatched_state ended .backtestFailed .running isState
      refine ⟨⟨stillNumbered.tokens, stillNumbered.actions, stillNumbered.owned⟩, .inl ⟨⟨?_, ?_⟩, noWorkers, noSignals⟩⟩
      · change (ended.dispatch .backtestFailed).state.busy = false
        rw [failed]
        rfl
      · change ended.tracker.activeOutcome ≠ some .pending
        rw [finished]
        nofun

theorem sync_succeeded_goes_on (actionId : ℕ) (now : ℤ) (pending : screen.PendingFor actionId .sync)
    (numbered : screen.Numbered) (workers : screen.workers = []) (signals : screen.signals = [])
    (succeeded : (screen.finishAction actionId .succeeded).dropSyncToken.onSyncSucceeded now = .ok next) :
    next.Numbered ∧ next.Working := by
  have stillNumbered := screen.finish_numbers actionId .sync .succeeded numbered pending.action
  obtain ⟨config, isMissing⟩ := Option.isSome_iff_exists.mp (pending.missing rfl)
  generalize isResumed : ((screen.finishAction actionId .succeeded).dropSyncToken.dispatch .syncSucceeded).clearMissing = resumed
  have restarted : resumed.startBacktestRun config none false now = .ok next := by
    rw [← succeeded, onSyncSucceeded, isResumed]
    have noted : (screen.finishAction actionId .succeeded).dropSyncToken.lastNoDataConfig = some config := isMissing
    rw [noted]
  have isRunning : resumed.state = .running := by
    rw [← isResumed]
    exact dispatched_state _ .syncSucceeded .syncing pending.state
  have numbers : resumed.Numbered := by
    rw [← isResumed]
    exact ⟨stillNumbered.tokens, stillNumbered.actions, stillNumbered.owned⟩
  have alone : resumed.workers = [] := by
    rw [← isResumed]
    exact workers
  have silent : resumed.signals = [] := by
    rw [← isResumed]
    exact signals
  obtain ⟨nextNumbered, nextPending, nextSignals, _, _, nextWorkers⟩ :=
    start_run_owns resumed next config none false now isRunning numbers restarted
  rw [alone, List.nil_append] at nextWorkers
  exact ⟨nextNumbered, started_works _ _ _ _ nextPending nextWorkers rfl rfl nofun (nextSignals.trans silent)⟩

theorem deliver_pending (actionId : ℕ) (kind : BacktestActionKind) (last : BacktestSignal ω γ ρ) (now : ℤ)
    (pending : screen.PendingFor actionId kind) (numbered : screen.Numbered) (workers : screen.workers = [])
    (signals : screen.signals = []) (isAction : last.actionId = actionId) (ends : last.ends = some kind)
    (cancelled : last.tellsCancelled = true → actionId ∈ screen.cancelledTokens)
    (delivered : screen.deliver setup now last = .ok next) : next.Numbered ∧ (next.Idle ∨ next.Working) := by
  have isPending := screen.pending_is_current actionId kind pending
  cases last with
  | coverageReady => cases ends
  | backtestCancelled => exact absurd (cancelled rfl) pending.uncancelled
  | syncCancelled => exact absurd (cancelled rfl) pending.uncancelled
  | coverageMissing number config coverage allowAutoSync =>
      obtain rfl : number = actionId := isAction
      cases ends
      rw [deliver, if_pos isPending] at delivered
      exact screen.coverage_missing_goes_on setup next number config coverage allowAutoSync pending numbered workers signals
        (Except.ok.inj delivered)
  | backtestSucceeded number result =>
      obtain rfl : number = actionId := isAction
      cases ends
      rw [deliver, screen.end_action_pending number .backtest _ pending] at delivered
      cases delivered
      have idles := screen.finish_idles (screen.onBacktestSucceeded setup result now) number .backtest .succeeded
        .backtestSucceeded numbered pending workers signals ⟨rfl, rfl, rfl, rfl, rfl, rfl⟩ rfl nofun
      exact ⟨idles.1, .inl idles.2⟩
  | backtestEmpty number message config =>
      obtain rfl : number = actionId := isAction
      cases ends
      rw [deliver, screen.end_action_pending number .backtest _ pending] at delivered
      cases delivered
      have idles := screen.finish_idles (screen.onBacktestEmpty message config) number .backtest .empty
        .backtestEmpty numbered pending workers signals ⟨rfl, rfl, rfl, rfl, rfl, rfl⟩ rfl nofun
      exact ⟨idles.1, .inl idles.2⟩
  | backtestFailed number message =>
      obtain rfl : number = actionId := isAction
      cases ends
      rw [deliver, screen.end_action_pending number .backtest _ pending] at delivered
      cases delivered
      have idles := screen.finish_idles (screen.onBacktestFailed message) number .backtest .failed
        .backtestFailed numbered pending workers signals ⟨rfl, rfl, rfl, rfl, rfl, rfl⟩ rfl nofun
      exact ⟨idles.1, .inl idles.2⟩
  | syncFailed number message =>
      obtain rfl : number = actionId := isAction
      cases ends
      rw [deliver, screen.end_action_pending number .sync _ pending] at delivered
      cases delivered
      have idles := screen.finish_idles (screen.dropSyncToken.onSyncFailed message) number .sync .failed
        .syncFailed numbered pending workers signals ⟨rfl, rfl, rfl, rfl, rfl, rfl⟩ rfl nofun
      exact ⟨idles.1, .inl idles.2⟩
  | syncSucceeded number =>
      obtain rfl : number = actionId := isAction
      cases ends
      rw [deliver, screen.end_action_pending number .sync _ pending] at delivered
      obtain ⟨nextNumbered, working⟩ :=
        screen.sync_succeeded_goes_on next number now pending numbered workers signals delivered
      exact ⟨nextNumbered, .inr working⟩

theorem deliver_cancelling (actionId : ℕ) (kind : BacktestActionKind) (last : BacktestSignal ω γ ρ) (now : ℤ)
    (cancelling : screen.CancellingFor actionId kind) (isAction : last.actionId = actionId) (ends : last.ends = some kind) :
    screen.deliver setup now last =
      .ok (if last.tellsMissing then screen else screen.completeCancelledAction actionId) := by
  cases last with
  | coverageReady => cases ends
  | coverageMissing number config coverage allowAutoSync =>
      rw [deliver, screen.cancelling_not_current actionId number kind .backtest cancelling]
      rfl
  | backtestCancelled number =>
      obtain rfl : number = actionId := isAction
      rfl
  | syncCancelled number =>
      obtain rfl : number = actionId := isAction
      rfl
  | _ number =>
      obtain rfl : number = actionId := isAction
      exact screen.end_action_cancelling number kind _ _ cancelling

theorem deliver_ready (signal : BacktestSignal ω γ ρ) (now : ℤ) (ready : signal.ends = none) :
    ∃ dataCoverage needsDataSync, screen.deliver setup now signal = .ok { screen with dataCoverage, needsDataSync } := by
  cases signal with
  | coverageReady number coverage =>
      rw [deliver]
      by_cases current : screen.tracker.isCurrentPending number .backtest = true
      · exact ⟨_, _, if_pos current⟩
      · exact ⟨screen.dataCoverage, screen.needsDataSync, if_neg current⟩
  | _ => cases ready

theorem worker_step_cases (form : φ) (isCancelled : Bool) (worker : BacktestWorker ω γ ρ) (move : WorkerMove γ ρ)
    (left : Option (BacktestWorker ω γ ρ)) (emitted : List (BacktestSignal ω γ ρ)) (sound : worker.Sound)
    (moved : worker.step setup form isCancelled move = some (left, emitted)) :
    ((move.raised && worker.unguarded) = false ∧
        ((∃ stage, left = some { worker with stage } ∧ BacktestWorker.Sound { worker with stage } ∧
            ∀ signal ∈ emitted, signal.ends = none ∧ signal.actionId = worker.actionId) ∨
          ∃ last, left = none ∧ emitted = [last] ∧ last.EndsWorker worker isCancelled)) ∨
      (move.raised && worker.unguarded) = true ∧ left = none ∧ emitted = [] := by
  obtain ⟨number, kind, config, allowAutoSync, coverage, stage⟩ := worker
  cases kind with
  | backtest =>
      cases stage with
      | probing =>
          cases move with
          | raises message =>
              cases moved
              exact .inl ⟨rfl, .inr ⟨_, rfl, rfl, BacktestSignal.ends_plainly _ _ _ rfl rfl nofun rfl (Nat.zero_le _)⟩⟩
          | probes found =>
              change (if setup.isFullyCovered found = true then _ else _) = _ at moved
              by_cases covered : setup.isFullyCovered found = true
              · rw [if_pos covered] at moved
                cases moved
                refine .inl ⟨rfl, .inl ⟨_, rfl, nofun, fun signal listed => ?_⟩⟩
                obtain rfl := List.mem_singleton.mp listed
                exact ⟨rfl, rfl⟩
              · rw [if_neg covered] at moved
                cases moved
                refine .inl ⟨rfl, .inr ⟨_, rfl, rfl, ⟨rfl, rfl, nofun, fun carried same => ?_, le_refl _⟩⟩⟩
                cases same
                rfl
          | _ => cases moved
      | dispatching =>
          cases move with
          | raises message =>
              cases moved
              exact .inl ⟨rfl, .inr ⟨_, rfl, rfl, BacktestSignal.ends_plainly _ _ _ rfl rfl nofun rfl (Nat.zero_le _)⟩⟩
          | stops =>
              cases isCancelled with
              | true =>
                  cases moved
                  refine .inl ⟨rfl, .inr ⟨_, rfl, rfl, ?_⟩⟩
                  exact BacktestSignal.ends_plainly _ _ _ rfl rfl (fun _ => rfl) rfl (Nat.zero_le _)
              | false => cases moved
          | noData =>
              cases moved
              refine .inl ⟨rfl, .inr ⟨_, rfl, rfl, ⟨rfl, rfl, nofun, fun carried same => ?_, Nat.zero_le _⟩⟩⟩
              cases same
              rfl
          | returns result =>
              cases isCancelled with
              | true =>
                  cases moved
                  refine .inl ⟨rfl, .inr ⟨_, rfl, rfl, ?_⟩⟩
                  exact BacktestSignal.ends_plainly _ _ _ rfl rfl (fun _ => rfl) rfl (Nat.zero_le _)
              | false =>
                  cases moved
                  exact .inl ⟨rfl, .inl ⟨_, rfl, nofun, List.forall_mem_nil _⟩⟩
          | _ => cases moved
      | reporting result =>
          cases move with
          | raises message =>
              cases moved
              exact .inr ⟨rfl, rfl, rfl⟩
          | reports =>
              cases moved
              exact .inl ⟨rfl, .inr ⟨_, rfl, rfl, BacktestSignal.ends_plainly _ _ _ rfl rfl nofun rfl (Nat.zero_le _)⟩⟩
          | _ => cases moved
  | sync =>
      cases stage with
      | probing =>
          cases move with
          | raises message =>
              cases moved
              exact .inr ⟨rfl, rfl, rfl⟩
          | probes found =>
              change (if setup.isFullyCovered found = true then _ else _) = _ at moved
              by_cases covered : setup.isFullyCovered found = true
              · rw [if_pos covered] at moved
                cases moved
                exact .inl ⟨rfl, .inr ⟨_, rfl, rfl, BacktestSignal.ends_plainly _ _ _ rfl rfl nofun rfl (le_refl _)⟩⟩
              · rw [if_neg covered] at moved
                cases moved
                exact .inl ⟨rfl, .inr ⟨_, rfl, rfl, BacktestSignal.ends_plainly _ _ _ rfl rfl nofun rfl (Nat.zero_le _)⟩⟩
          | _ => cases moved
      | dispatching =>
          cases move with
          | raises message =>
              cases moved
              exact .inl ⟨rfl, .inr ⟨_, rfl, rfl, BacktestSignal.ends_plainly _ _ _ rfl rfl nofun rfl (Nat.zero_le _)⟩⟩
          | synced =>
              cases isCancelled with
              | true =>
                  cases moved
                  refine .inl ⟨rfl, .inr ⟨_, rfl, rfl, ?_⟩⟩
                  exact BacktestSignal.ends_plainly _ _ _ rfl rfl (fun _ => rfl) rfl (Nat.zero_le _)
              | false =>
                  cases moved
                  exact .inl ⟨rfl, .inl ⟨_, rfl, fun _ _ => nofun, List.forall_mem_nil _⟩⟩
          | _ => cases moved
      | reporting result => exact absurd rfl (sound rfl result)

end BacktestPresenter

end Sagittarius
