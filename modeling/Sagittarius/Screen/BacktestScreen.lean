import Mathlib.Algebra.BigOperators.Group.List.Basic
import Sagittarius.Screen.BacktestSteps

set_option autoImplicit false

namespace Sagittarius

open Interleaving

def BacktestScreenLabel.allowance {φ γ ρ : Type} : BacktestScreenLabel φ γ ρ → ℕ
  | .runRequested _ _ => 3
  | .syncRequested => 2
  | _ => 0

theorem BacktestSignal.ready_plain {ω γ ρ : Type} (signal : BacktestSignal ω γ ρ) (ready : signal.ends = none) :
    signal.config? = none ∧ signal.further = 0 := by
  cases signal with
  | coverageReady => exact ⟨rfl, rfl⟩
  | _ => cases ready

namespace BacktestPresenter

variable {φ ω γ ρ : Type} (setup : BacktestScreenSetup φ ω γ ρ) (screen next : BacktestPresenter φ ω γ ρ)

structure Starts (started : Option (BacktestWorker ω γ ρ)) : Prop where
  workers : next.workers = screen.workers ++ started.toList
  number : next.tracker.nextActionId = screen.tracker.nextActionId + started.toList.length
  signals : next.signals = screen.signals

theorem finish_number (actionId : ℕ) (outcome : ActionOutcome) :
    (screen.finishAction actionId outcome).tracker.nextActionId = screen.tracker.nextActionId := by
  rw [finishAction, ActionOwnershipTracker.finishAction]
  split_ifs <;> rfl

theorem starts_nothing (workers : next.workers = screen.workers)
    (number : next.tracker.nextActionId = screen.tracker.nextActionId) (signals : next.signals = screen.signals) :
    screen.Starts next none :=
  ⟨workers.trans (List.append_nil _).symm, number, signals⟩

theorem complete_cancelled_starts (actionId : ℕ) :
    screen.Starts (screen.completeCancelledAction actionId) none ∧
      (screen.completeCancelledAction actionId).lastNoDataConfig = screen.lastNoDataConfig := by
  rw [completeCancelledAction]
  by_cases cancelling : screen.isCancellingAction actionId = true
  · rw [if_pos cancelling]
    split
    · next action owned _ _ =>
        have number := screen.finish_number actionId .cancelled
        cases isKind : action.kind with
        | backtest => exact ⟨starts_nothing screen _ rfl number rfl, rfl⟩
        | sync => exact ⟨starts_nothing screen _ rfl number rfl, rfl⟩
    · exact ⟨starts_nothing screen _ rfl rfl rfl, rfl⟩
  · rw [if_neg cancelling]
    exact ⟨starts_nothing screen _ rfl rfl rfl, rfl⟩

theorem start_run_starts (config : BacktestRunConfig ω) (previousState : Option BacktestUiState) (allowAutoSync : Bool)
    (now : ℤ) (ran : screen.startBacktestRun config previousState allowAutoSync now = .ok next) :
    ∃ pinned, config.started now = .ok pinned ∧ next.lastNoDataConfig = screen.lastNoDataConfig ∧
      screen.Starts next (some {
        actionId := screen.tracker.nextActionId + 1, kind := .backtest
        config := pinned, allowAutoSync, stage := .probing }) := by
  rw [startBacktestRun] at ran
  cases pinned : config.started now with
  | error error =>
      rw [pinned] at ran
      cases ran
  | ok config =>
      rw [pinned] at ran
      cases ran
      simp only [beginAction, begin_action_numbers]
      exact ⟨config, rfl, trivial, ⟨rfl, rfl, rfl⟩⟩

theorem start_sync_starts (config : BacktestRunConfig ω) (coverage : Option γ) :
    (screen.startSyncForConfig config coverage).lastNoDataConfig = screen.lastNoDataConfig ∧
      (screen.Starts (screen.startSyncForConfig config coverage) none ∨
        screen.Starts (screen.startSyncForConfig config coverage) (some {
          actionId := screen.tracker.nextActionId + 1, kind := .sync, config, coverage, stage := .dispatching })) := by
  rw [startSyncForConfig]
  by_cases allowed : screen.canDispatch .syncRequested = true
  · rw [if_pos allowed]
    simp only [beginAction, begin_action_numbers]
    exact ⟨rfl, .inr ⟨rfl, rfl, rfl⟩⟩
  · rw [if_neg allowed]
    exact ⟨rfl, .inl (starts_nothing screen _ rfl rfl rfl)⟩

def furtherOf (started : Option (BacktestWorker ω γ ρ)) : ℕ := started.elim 0 fun worker => 1 + worker.further

structure Wanted (wanted : BacktestRunConfig ω → Prop) : Prop where
  missing : ∀ config, screen.lastNoDataConfig = some config → wanted config
  workers : ∀ worker ∈ screen.workers, wanted worker.config
  signals : ∀ signal ∈ screen.signals, ∀ config, signal.config? = some config → wanted config

section Deliveries

variable (wanted : BacktestRunConfig ω → Prop)
  (pinned : ∀ config now later, wanted config → config.started now = .ok later → wanted later)

def StartsWanted (allowance : ℕ) : Prop :=
  (∀ config, next.lastNoDataConfig = some config → wanted config) ∧
    ∃ started, screen.Starts next started ∧ furtherOf started ≤ allowance ∧ ∀ worker, started = some worker → wanted worker.config

theorem starts_none_wanted (allowance : ℕ) (starts : screen.Starts next none)
    (missing : ∀ config, next.lastNoDataConfig = some config → wanted config) : screen.StartsWanted next wanted allowance := by
  refine ⟨missing, none, starts, Nat.zero_le _, fun worker same => ?_⟩
  cases same

theorem no_config_wanted (isNone : next.lastNoDataConfig = none) (config : BacktestRunConfig ω)
    (same : next.lastNoDataConfig = some config) : wanted config := by
  rw [isNone] at same
  cases same

include pinned in
theorem sync_succeeded_starts (now : ℤ) (missing : ∀ config, screen.lastNoDataConfig = some config → wanted config)
    (succeeded : screen.onSyncSucceeded now = .ok next) : screen.StartsWanted next wanted 1 := by
  rw [onSyncSucceeded] at succeeded
  cases isMissing : screen.lastNoDataConfig with
  | none =>
      rw [isMissing] at succeeded
      cases succeeded
      exact starts_none_wanted screen _ wanted 1 (starts_nothing screen _ rfl rfl rfl) (no_config_wanted _ wanted rfl)
  | some config =>
      rw [isMissing] at succeeded
      obtain ⟨later, isPinned, kept, starts⟩ :=
        start_run_starts (screen.dispatch .syncSucceeded).clearMissing next config none false now succeeded
      refine ⟨fun other isOther => ?_, _, ⟨starts.workers, starts.number, starts.signals⟩, le_refl _, ?_⟩
      · rw [kept] at isOther
        cases isOther
      · intro worker same
        cases same
        exact pinned config now later (missing config isMissing) isPinned

theorem coverage_missing_starts (config : BacktestRunConfig ω) (coverage : γ) (allowAutoSync : Bool) (isWanted : wanted config) :
    screen.StartsWanted (screen.onCoverageMissing setup config coverage allowAutoSync) wanted
      (if allowAutoSync then 2 else 0) := by
  have missing (later : BacktestPresenter φ ω γ ρ) (noted : later.lastNoDataConfig = some config) :
      ∀ other, later.lastNoDataConfig = some other → wanted other := by
    intro other isOther
    rw [noted] at isOther
    cases isOther
    exact isWanted
  cases allowAutoSync with
  | false =>
      exact starts_none_wanted screen _ wanted _ (starts_nothing screen _ rfl rfl rfl) (missing _ rfl)
  | true =>
      obtain ⟨kept, starts⟩ := start_sync_starts ((screen.noteMissing setup config coverage).dispatch .backtestEmpty)
        config (some coverage)
      have noted := missing _ (kept.trans rfl)
      cases starts with
      | inl nothing =>
          exact starts_none_wanted screen _ wanted _ ⟨nothing.workers, nothing.number, nothing.signals⟩ noted
      | inr sync =>
          refine ⟨noted, _, ⟨sync.workers, sync.number, sync.signals⟩, le_refl _, fun worker same => ?_⟩
          cases same
          exact isWanted

theorem end_action_starts (actionId : ℕ) (kind : BacktestActionKind)
    (finish : Except BuildError (BacktestPresenter φ ω γ ρ)) (allowance : ℕ)
    (missing : ∀ config, screen.lastNoDataConfig = some config → wanted config)
    (finishes : finish = .ok next → screen.StartsWanted next wanted allowance)
    (ended : screen.endAction actionId kind finish = .ok next) : screen.StartsWanted next wanted allowance := by
  rw [endAction] at ended
  by_cases cancelling : screen.isCancellingAction actionId = true
  · rw [if_pos cancelling] at ended
    cases ended
    obtain ⟨starts, kept⟩ := screen.complete_cancelled_starts actionId
    exact starts_none_wanted screen _ wanted allowance starts (by rw [kept]; exact missing)
  · rw [if_neg cancelling] at ended
    by_cases current : screen.tracker.isCurrentPending actionId kind = true
    · rw [if_pos current] at ended
      exact finishes ended
    · rw [if_neg current] at ended
      cases ended
      exact starts_none_wanted screen _ wanted allowance (starts_nothing screen _ rfl rfl rfl) missing

include pinned in
theorem deliver_starts (signal : BacktestSignal ω γ ρ) (now : ℤ)
    (missing : ∀ config, screen.lastNoDataConfig = some config → wanted config)
    (carried : ∀ config, signal.config? = some config → wanted config)
    (delivered : screen.deliver setup now signal = .ok next) : screen.StartsWanted next wanted signal.further := by
  have unaffected : screen.StartsWanted screen wanted signal.further :=
    starts_none_wanted screen _ wanted _ (starts_nothing screen _ rfl rfl rfl) missing
  cases signal with
  | coverageMissing number config coverage allowAutoSync =>
      rw [deliver] at delivered
      by_cases current : screen.tracker.isCurrentPending number .backtest = true
      · rw [if_pos current] at delivered
        cases delivered
        obtain ⟨noted, started, starts, within, isWanted⟩ := coverage_missing_starts setup
          (screen.finishAction number .empty) wanted config coverage allowAutoSync (carried config rfl)
        have number := screen.finish_number number .empty
        exact ⟨noted, started, ⟨starts.workers, starts.number.trans (congrArg (· + _) number), starts.signals⟩, within, isWanted⟩
      · rw [if_neg current] at delivered
        cases delivered
        exact unaffected
  | coverageReady number coverage =>
      rw [deliver] at delivered
      by_cases current : screen.tracker.isCurrentPending number .backtest = true
      · rw [if_pos current] at delivered
        cases delivered
        exact starts_none_wanted screen _ wanted _ (starts_nothing screen _ rfl rfl rfl) missing
      · rw [if_neg current] at delivered
        cases delivered
        exact unaffected
  | backtestSucceeded number result =>
      refine screen.end_action_starts next wanted number .backtest _ _ missing (fun finished => ?_) delivered
      cases finished
      exact starts_none_wanted screen _ wanted _
        (starts_nothing screen _ rfl (finish_number (screen.onBacktestSucceeded setup result now) number .succeeded) rfl)
        (no_config_wanted _ wanted rfl)
  | backtestEmpty number message config =>
      refine screen.end_action_starts next wanted number .backtest _ _ missing (fun finished => ?_) delivered
      cases finished
      refine starts_none_wanted screen _ wanted _
        (starts_nothing screen _ rfl (finish_number (screen.onBacktestEmpty message config) number .empty) rfl)
        fun other isOther => ?_
      cases isOther
      exact carried config rfl
  | backtestFailed number message =>
      refine screen.end_action_starts next wanted number .backtest _ _ missing (fun finished => ?_) delivered
      cases finished
      exact starts_none_wanted screen _ wanted _
        (starts_nothing screen _ rfl (finish_number (screen.onBacktestFailed message) number .failed) rfl) missing
  | backtestCancelled number =>
      cases delivered
      obtain ⟨starts, kept⟩ := screen.complete_cancelled_starts number
      exact starts_none_wanted screen _ wanted _ starts (by rw [kept]; exact missing)
  | syncSucceeded number =>
      refine screen.end_action_starts next wanted number .sync _ _ missing (fun finished => ?_) delivered
      obtain ⟨noted, started, starts, within, isWanted⟩ :=
        sync_succeeded_starts (screen.finishAction number .succeeded).dropSyncToken next wanted pinned now missing finished
      have number := screen.finish_number number .succeeded
      exact ⟨noted, started, ⟨starts.workers, starts.number.trans (congrArg (· + _) number), starts.signals⟩, within, isWanted⟩
  | syncFailed number message =>
      refine screen.end_action_starts next wanted number .sync _ _ missing (fun finished => ?_) delivered
      cases finished
      exact starts_none_wanted screen _ wanted _
        (starts_nothing screen _ rfl (finish_number (screen.dropSyncToken.onSyncFailed message) number .failed) rfl) missing
  | syncCancelled number =>
      cases delivered
      obtain ⟨starts, kept⟩ := screen.complete_cancelled_starts number
      exact starts_none_wanted screen _ wanted _ starts (by rw [kept]; exact missing)

end Deliveries

def owed : ℕ := (screen.workers.map BacktestWorker.further).sum + (screen.signals.map BacktestSignal.further).sum

theorem starts_wanted_kept (wanted : BacktestRunConfig ω → Prop) (allowance : ℕ)
    (starts : screen.StartsWanted next wanted allowance) (holds : screen.Wanted wanted) :
    next.Wanted wanted ∧
      next.tracker.nextActionId + next.owed ≤ screen.tracker.nextActionId + screen.owed + allowance := by
  obtain ⟨missing, started, starts, within, isWanted⟩ := starts
  refine ⟨⟨missing, fun worker listed => ?_, by rw [starts.signals]; exact holds.signals⟩, ?_⟩
  · rw [starts.workers] at listed
    cases List.mem_append.mp listed with
    | inl older => exact holds.workers worker older
    | inr new => exact isWanted worker (Option.mem_toList.mp new)
  · rw [owed, owed, starts.workers, starts.signals, starts.number, List.map_append, List.sum_append]
    cases started with
    | none =>
        simp only [Option.toList_none, List.length_nil, List.map_nil, List.sum_nil]
        omega
    | some worker =>
        simp only [Option.toList_some, List.length_singleton, List.map_cons, List.map_nil, List.sum_cons, List.sum_nil]
        change 1 + worker.further ≤ allowance at within
        omega

theorem consistent_alone (worker : BacktestWorker ω γ ρ) (consistent : screen.Consistent) (listed : worker ∈ screen.workers) :
    screen.workers = [worker] ∧ worker.Sound := by
  obtain idle | ⟨actionId, kind, _, left⟩ | ⟨_, _, _, none, _⟩ := consistent.situation
  · rw [idle.workers] at listed
    cases listed
  · cases left with
    | worker owner only _ _ sound =>
        rw [only] at listed
        obtain rfl := List.mem_singleton.mp listed
        exact ⟨only, sound⟩
    | signal _ _ none =>
        rw [none] at listed
        cases listed
  · rw [none] at listed
    cases listed

theorem cancel_starts :
    screen.Starts screen.onCancelBacktest none ∧ screen.onCancelBacktest.lastNoDataConfig = screen.lastNoDataConfig := by
  rw [onCancelBacktest]
  split
  · exact ⟨starts_nothing screen _ rfl rfl rfl, rfl⟩
  · next action _ =>
      by_cases asked :
          (screen.tracker.isCurrentPending action.actionId action.kind && screen.canDispatch .cancelRequested) = true
      · rw [if_pos asked]
        exact ⟨starts_nothing screen _ rfl (invalidate_keeps_number screen.tracker) rfl, rfl⟩
      · rw [if_neg asked]
        exact ⟨starts_nothing screen _ rfl rfl rfl, rfl⟩

section Runs

variable (wanted : BacktestRunConfig ω → Prop)
  (asked : ∀ form now outcome built started later, setup.buildRunConfig form now = .ok outcome →
    outcome.config = some built → built.started started = .ok later → wanted later)
  (pinned : ∀ config now later, wanted config → config.started now = .ok later → wanted later)

include asked pinned

theorem step_wanted (label : BacktestScreenLabel φ γ ρ) (consistent : screen.Consistent) (holds : screen.Wanted wanted)
    (moved : screen.step setup label = some next) :
    next.Wanted wanted ∧
      next.tracker.nextActionId + next.owed ≤ screen.tracker.nextActionId + screen.owed + label.allowance := by
  cases label with
  | edit form now =>
      cases moved
      obtain ⟨_, edited⟩ | ⟨state, text, _, edited⟩ := config_input_cases setup { screen with form } now
      · rw [edited]
        exact ⟨⟨holds.missing, holds.workers, holds.signals⟩, le_refl _⟩
      · rw [edited]
        exact ⟨⟨holds.missing, holds.workers, holds.signals⟩, le_refl _⟩
  | runRequested now started =>
      rw [step] at moved
      cases requested : screen.onRunBacktest setup now started with
      | error error =>
          rw [requested] at moved
          cases moved
      | ok after =>
          rw [requested] at moved
          cases moved
          refine starts_wanted_kept screen next wanted 3 ?_ holds
          obtain ⟨message, isError, rfl⟩ | ⟨outcome, config, _, built, isConfig, ran⟩ :=
            screen.run_requested_cases setup next now started requested
          · exact starts_none_wanted screen _ wanted _ (starts_nothing screen _ rfl rfl rfl) holds.missing
          · obtain ⟨later, isPinned, kept, starts⟩ :=
              start_run_starts (screen.dispatch .runRequested) next config (some screen.state) true started ran
            refine ⟨by rw [kept]; exact holds.missing, _, ⟨starts.workers, starts.number, starts.signals⟩, le_refl _, ?_⟩
            intro worker same
            cases same
            exact asked screen.form now outcome config started later built isConfig isPinned
  | syncRequested =>
      cases moved
      refine starts_wanted_kept screen _ wanted 2 ?_ holds
      obtain same | ⟨config, isMissing, _, requested⟩ := screen.sync_requested_cases
      · rw [same]
        exact starts_none_wanted screen _ wanted _ (starts_nothing screen _ rfl rfl rfl) holds.missing
      · obtain ⟨kept, nothing | sync⟩ := screen.start_sync_starts config screen.lastNoDataCoverage
        · rw [requested]
          exact starts_none_wanted screen _ wanted _ nothing (by rw [kept]; exact holds.missing)
        · rw [requested]
          refine ⟨by rw [kept]; exact holds.missing, _, sync, le_refl _, fun worker same => ?_⟩
          cases same
          exact holds.missing config isMissing
  | cancelRequested =>
      cases moved
      obtain ⟨starts, kept⟩ := screen.cancel_starts
      exact starts_wanted_kept screen _ wanted 0
        (starts_none_wanted screen _ wanted _ starts (by rw [kept]; exact holds.missing)) holds
  | works number move =>
      rw [step] at moved
      obtain ⟨worker, found, moved⟩ := Option.bind_eq_some_iff.mp moved
      obtain ⟨⟨left, emitted⟩, stepped, moved⟩ := Option.map_eq_some_iff.mp moved
      have isNumber : worker.actionId = number := by simpa using List.find?_some found
      have listed : worker ∈ screen.workers := List.mem_of_find?_eq_some found
      obtain ⟨only, sound⟩ := consistent_alone screen worker consistent listed
      have workers : next.workers = left.toList := by
        rw [← moved, workedOn, only]
        simp [isNumber]
      have signals : next.signals = screen.signals ++ emitted := by
        rw [← moved]
        rfl
      have number : next.tracker = screen.tracker := by
        rw [← moved]
        rfl
      have missing : next.lastNoDataConfig = screen.lastNoDataConfig := by
        rw [← moved]
        rfl
      have carry (quiet : ∀ signal ∈ emitted, ∀ config, signal.config? = some config → wanted config) :
          ∀ signal ∈ next.signals, ∀ config, signal.config? = some config → wanted config := by
        intro signal listed
        rw [signals] at listed
        exact (List.mem_append.mp listed).elim (holds.signals signal) (quiet signal)
      have isWanted := holds.workers worker (by rw [only]; exact List.mem_cons_self)
      have before : (screen.workers.map BacktestWorker.further).sum = worker.further := by
        rw [only, List.map_cons, List.map_nil, List.sum_cons, List.sum_nil, Nat.add_zero]
      rw [owed, owed, before, workers, signals, number, List.map_append, List.sum_append]
      obtain ⟨_, ⟨stage, rfl, _, ready⟩ | ⟨last, rfl, rfl, isLast⟩⟩ | ⟨_, rfl, rfl⟩ :=
        worker_step_cases setup screen.form _ worker move left emitted sound stepped
      · have nothing : (emitted.map BacktestSignal.further).sum = 0 :=
          List.sum_eq_zero fun count listed => by
            obtain ⟨signal, isEmitted, rfl⟩ := List.mem_map.mp listed
            exact (signal.ready_plain (ready signal isEmitted).1).2
        refine ⟨⟨by rw [missing]; exact holds.missing, ?_, carry fun signal listed config carried => ?_⟩, ?_⟩
        · rw [workers]
          intro other same
          obtain rfl := List.mem_singleton.mp same
          exact isWanted
        · rw [(signal.ready_plain (ready signal listed).1).1] at carried
          cases carried
        · have kept : BacktestWorker.further { worker with stage } = worker.further := rfl
          simp only [Option.toList_some, List.map_cons, List.map_nil, List.sum_cons, List.sum_nil, kept, nothing]
          omega
      · refine ⟨⟨by rw [missing]; exact holds.missing, ?_, carry fun signal listed config carried => ?_⟩, ?_⟩
        · rw [workers]
          exact List.forall_mem_nil _
        · obtain rfl := List.mem_singleton.mp listed
          exact isLast.config config carried ▸ isWanted
        · have less := isLast.further
          simp only [Option.toList_none, List.map_cons, List.map_nil, List.sum_cons, List.sum_nil]
          omega
      · refine ⟨⟨by rw [missing]; exact holds.missing, ?_, carry (List.forall_mem_nil _)⟩, ?_⟩
        · rw [workers]
          exact List.forall_mem_nil _
        · simp only [Option.toList_none, List.map_nil, List.sum_nil]
          omega
  | delivered now =>
      rw [step] at moved
      cases isFirst : screen.signals with
      | nil =>
          rw [isFirst] at moved
          cases moved
      | cons first rest =>
          rw [isFirst] at moved
          dsimp only at moved
          cases delivered : { screen with signals := rest }.deliver setup now first with
          | error error =>
              rw [delivered] at moved
              cases moved
          | ok after =>
              rw [delivered] at moved
              cases moved
              have carried := holds.signals
              rw [isFirst] at carried
              have starts := deliver_starts setup { screen with signals := rest } next wanted pinned first now holds.missing
                (carried first List.mem_cons_self) delivered
              obtain ⟨kept, bound⟩ := starts_wanted_kept _ next wanted _ starts
                ⟨holds.missing, holds.workers, fun signal listed => carried signal (List.mem_cons_of_mem _ listed)⟩
              have before : screen.owed = owed { screen with signals := rest } + first.further := by
                change _ = (screen.workers.map BacktestWorker.further).sum + (rest.map BacktestSignal.further).sum + first.further
                rw [owed, isFirst, List.map_cons, List.sum_cons]
                omega
              rw [before, ← Nat.add_assoc]
              exact ⟨kept, bound⟩

end Runs

theorem step_settles (label : BacktestScreenLabel φ γ ρ) (consistent : screen.Consistent)
    (moved : screen.step setup label = some next) :
    next.Consistent ∧ (¬ next.Stalls ↔ ¬ screen.Stalls ∧ screen.loses label = false) := by
  obtain ⟨numbered, situation⟩ := consistent
  by_cases goes : screen.Idle ∨ screen.Working
  · obtain ⟨numbers, after⟩ := screen.step_goes_on setup next label goes numbered moved
    have goesOn := goes.elim screen.idle_goes_on screen.working_goes_on
    by_cases loss : screen.loses label = true
    · rw [if_pos loss] at after
      refine ⟨⟨numbers, .inr (.inr after)⟩, iff_of_false (fun holds => holds (next.lost_stalls after)) fun holds => ?_⟩
      exact Bool.false_ne_true (holds.2.symm.trans loss)
    · rw [if_neg loss] at after
      have situated : next.Idle ∨ next.Working ∨ next.Lost := after.imp_right Or.inl
      exact ⟨⟨numbers, situated⟩,
        iff_of_true (after.elim next.idle_goes_on next.working_goes_on) ⟨goesOn, Bool.eq_false_of_not_eq_true loss⟩⟩
  · obtain idle | working | lost := situation
    · exact (goes (.inl idle)).elim
    · exact (goes (.inr working)).elim
    · obtain ⟨numbers, still⟩ := screen.step_lost setup next label lost numbered moved
      exact ⟨⟨numbers, .inr (.inr still)⟩,
        iff_of_false (fun holds => holds (next.lost_stalls still)) fun holds => holds.1 (screen.lost_stalls lost)⟩

def start (form : φ) : BacktestPresenter φ ω γ ρ := { form }

theorem start_idle (form : φ) : (start form : BacktestPresenter φ ω γ ρ).Idle := ⟨⟨rfl, nofun⟩, rfl, rfl⟩

theorem start_consistent (form : φ) : (start form : BacktestPresenter φ ω γ ρ).Consistent :=
  ⟨⟨List.forall_mem_nil _, nofun, nofun⟩, .inl (start_idle form)⟩

theorem run_consistent (labels : List (BacktestScreenLabel φ γ ρ)) (screen final : BacktestPresenter φ ω γ ρ)
    (consistent : screen.Consistent) (completed : run (step setup) screen labels = some final) : final.Consistent :=
  run_invariant (step setup) Consistent
    (fun state label next holds moved => (step_settles setup state next label holds moved).1) labels screen final
    consistent completed

def Owns (actionId : ℕ) (kind : BacktestActionKind) : Prop :=
  screen.tracker.isCurrentPending actionId kind = true ∨ screen.isCancellingAction actionId = true

structure Tells : Prop where
  running : screen.state = .running ↔ ∃ actionId, screen.tracker.isCurrentPending actionId .backtest = true
  syncing : screen.state = .syncing ↔ ∃ actionId, screen.tracker.isCurrentPending actionId .sync = true
  cancelling : screen.state = .cancelling ↔ ∃ actionId, screen.isCancellingAction actionId = true

theorem free_tells (free : screen.Free) : screen.Tells := by
  have notPending (actionId : ℕ) (kind : BacktestActionKind) : screen.tracker.isCurrentPending actionId kind = false := by
    rw [ActionOwnershipTracker.isCurrentPending, decide_eq_false free.outcome, Bool.and_false]
  have notState (state : BacktestUiState) (busy : state.busy = true) : screen.state ≠ state := by
    intro same
    rw [← same, free.state] at busy
    cases busy
  have notCancelling (actionId : ℕ) : screen.isCancellingAction actionId = false := by
    rw [isCancellingAction, decide_eq_false (notState .cancelling rfl), Bool.and_false]
  exact {
    running := iff_of_false (notState .running rfl) (by simp [notPending])
    syncing := iff_of_false (notState .syncing rfl) (by simp [notPending])
    cancelling := iff_of_false (notState .cancelling rfl) (by simp [notCancelling]) }

theorem pending_tells (actionId : ℕ) (kind : BacktestActionKind) (pending : screen.PendingFor actionId kind) :
    screen.Tells := by
  have current (other : ℕ) (wanted : BacktestActionKind) :
      screen.tracker.isCurrentPending other wanted = true ↔ actionId = other ∧ kind = wanted := by
    simp [ActionOwnershipTracker.isCurrentPending, ActionOwnershipTracker.isCurrent, pending.action, pending.outcome]
  have notCancelling := screen.pending_not_cancelling actionId
  have isState := pending.state
  cases kind with
  | backtest =>
      refine ⟨iff_of_true isState ⟨actionId, (current actionId .backtest).mpr ⟨rfl, rfl⟩⟩, ?_, ?_⟩
      · refine iff_of_false (by rw [isState]; decide) ?_
        rintro ⟨other, same⟩
        cases ((current other .sync).mp same).2
      · refine iff_of_false (by rw [isState]; decide) ?_
        rintro ⟨other, same⟩
        exact Bool.false_ne_true ((notCancelling other .backtest pending).symm.trans same)
  | sync =>
      refine ⟨?_, iff_of_true isState ⟨actionId, (current actionId .sync).mpr ⟨rfl, rfl⟩⟩, ?_⟩
      · refine iff_of_false (by rw [isState]; decide) ?_
        rintro ⟨other, same⟩
        cases ((current other .backtest).mp same).2
      · refine iff_of_false (by rw [isState]; decide) ?_
        rintro ⟨other, same⟩
        exact Bool.false_ne_true ((notCancelling other .sync pending).symm.trans same)

theorem cancelling_tells (actionId : ℕ) (kind : BacktestActionKind) (cancelling : screen.CancellingFor actionId kind) :
    screen.Tells := by
  have notCurrent := fun other wanted => screen.cancelling_not_current actionId other kind wanted cancelling
  have isState := cancelling.state
  exact {
    running := iff_of_false (by rw [isState]; decide) (by simp [notCurrent])
    syncing := iff_of_false (by rw [isState]; decide) (by simp [notCurrent])
    cancelling := iff_of_true isState ⟨actionId, screen.cancelling_is_cancelling actionId kind cancelling⟩ }

theorem owned_tells (actionId : ℕ) (kind : BacktestActionKind) (owned : screen.OwnedBy actionId kind) :
    screen.Tells ∧ screen.Owns actionId kind ∧ (screen.state = .cancelling → actionId ∈ screen.cancelledTokens) := by
  cases owned with
  | inl pending =>
      refine ⟨screen.pending_tells actionId kind pending, .inl (screen.pending_is_current actionId kind pending), ?_⟩
      intro isCancelling
      rw [pending.state] at isCancelling
      cases kind <;> cases isCancelling
  | inr cancelling =>
      exact ⟨screen.cancelling_tells actionId kind cancelling, .inr (screen.cancelling_is_cancelling actionId kind cancelling),
        fun _ => cancelling.cancelled⟩

def Requested (config : BacktestRunConfig ω) : Prop :=
  ∃ form now outcome built started, setup.buildRunConfig form now = .ok outcome ∧ outcome.config = some built ∧
    built.started started = .ok config

theorem started_again (config later : BacktestRunConfig ω) (now again : ℤ) (started : config.started now = .ok later) :
    later.started again = .ok later := by
  rw [BacktestRunConfig.started] at started
  cases isEnd : config.endTime with
  | some ending =>
      rw [isEnd] at started
      cases started
      rw [BacktestRunConfig.started, isEnd]
  | none =>
      rw [isEnd] at started
      cases isCutoff : publishedCandleCutoff now config.timeframe with
      | error error =>
          rw [isCutoff] at started
          cases started
      | ok cutoff =>
          rw [isCutoff] at started
          cases started
          rfl

theorem requested_again (config : BacktestRunConfig ω) (now : ℤ) (later : BacktestRunConfig ω)
    (requested : Requested setup config) (started : config.started now = .ok later) : Requested setup later := by
  obtain ⟨form, asked, outcome, built, began, isBuilt, isConfig, isStarted⟩ := requested
  have same := (started_again built config began now isStarted).symm.trans started
  cases same
  exact ⟨form, asked, outcome, built, began, isBuilt, isConfig, isStarted⟩

theorem step_requested (label : BacktestScreenLabel φ γ ρ)
    (holds : screen.Consistent ∧ screen.Wanted (Requested setup)) (moved : screen.step setup label = some next) :
    (next.Consistent ∧ next.Wanted (Requested setup)) ∧
      next.tracker.nextActionId + next.owed ≤ screen.tracker.nextActionId + screen.owed + label.allowance := by
  obtain ⟨kept, bound⟩ := step_wanted setup screen next (Requested setup)
    (fun form now outcome built started later isBuilt isConfig isStarted =>
      ⟨form, now, outcome, built, started, isBuilt, isConfig, isStarted⟩)
    (requested_again setup) label holds.1 holds.2 moved
  exact ⟨⟨(step_settles setup screen next label holds.1 moved).1, kept⟩, bound⟩

theorem start_wanted (form : φ) (wanted : BacktestRunConfig ω → Prop) :
    (start form : BacktestPresenter φ ω γ ρ).Wanted wanted :=
  ⟨no_config_wanted _ wanted rfl, List.forall_mem_nil _, List.forall_mem_nil _⟩

end BacktestPresenter

-- Through every run of the user, the workers and the event loop: the state of
-- the screen says what is under way, there is at most one worker, and it and
-- every signal on its way belong to the action that owns the screen. A
-- cancelled screen's worker has its token cancelled.
theorem backtest_screen_owned {φ ω γ ρ : Type} (setup : BacktestScreenSetup φ ω γ ρ) (form : φ)
    (labels : List (BacktestScreenLabel φ γ ρ)) (final : BacktestPresenter φ ω γ ρ)
    (completed : run (BacktestPresenter.step setup) (.start form) labels = some final) :
    final.Tells ∧ final.workers.length ≤ 1 ∧
      (∀ worker ∈ final.workers, final.Owns worker.actionId worker.kind ∧
        (final.state = .cancelling → worker.actionId ∈ final.cancelledTokens)) ∧
      ∀ signal ∈ final.signals, ∃ kind, final.Owns signal.actionId kind := by
  have consistent := BacktestPresenter.run_consistent setup labels _ final (BacktestPresenter.start_consistent form) completed
  obtain idle | ⟨actionId, kind, owned, left⟩ | ⟨actionId, kind, owned, none, readies⟩ := consistent.situation
  · refine ⟨final.free_tells idle.free, ?_, ?_, ?_⟩
    · rw [idle.workers]
      exact Nat.zero_le _
    · rw [idle.workers]
      exact List.forall_mem_nil _
    · rw [idle.signals]
      exact List.forall_mem_nil _
  · obtain ⟨tells, owns, cancelled⟩ := final.owned_tells actionId kind owned
    cases left with
    | worker worker only isAction isKind _ readies =>
        refine ⟨tells, ?_, ?_, fun signal listed => ⟨kind, (readies signal listed).2 ▸ owns⟩⟩
        · rw [only]
          exact le_refl _
        · rw [only]
          intro other listed
          obtain rfl := List.mem_singleton.mp listed
          rw [isAction, isKind]
          exact ⟨owns, cancelled⟩
    | signal readies last none signals ready isAction =>
        refine ⟨tells, ?_, ?_, fun signal listed => ⟨kind, ?_⟩⟩
        · rw [none]
          exact Nat.zero_le _
        · rw [none]
          exact List.forall_mem_nil _
        · rw [signals] at listed
          cases List.mem_append.mp listed with
          | inl earlier => exact (ready signal earlier).2 ▸ owns
          | inr isLast =>
              obtain rfl := List.mem_singleton.mp isLast
              exact isAction ▸ owns
  · obtain ⟨tells, owns, _⟩ := final.owned_tells actionId kind owned
    refine ⟨tells, ?_, ?_, fun signal listed => ⟨kind, (readies signal listed).2 ▸ owns⟩⟩
    · rw [none]
      exact Nat.zero_le _
    · rw [none]
      exact List.forall_mem_nil _

def plainConfig (symbol : String) : BacktestRunConfig Unit where
  strategyKey := "ema_crossover"
  timeframe := .oneHour
  initialBalance := .finite 1000
  startTime := none
  endTime := some 1700000000000000
  strategyParams := .empty
  currency := .usdt
  symbol := symbol
  executionMode := .barClose
  broker := ()

def plainSetup : BacktestScreenSetup String Unit Bool ℕ where
  buildRunConfig := fun form _ => .ok { config := some (plainConfig form), traces := [] }
  snapshotCurrentConfig := fun form _ => plainConfig form
  sameConfig := fun first second => first.symbol = second.symbol
  computeDiffSummary := fun first second => s!"Symbol ({first.symbol} → {second.symbol})"
  toSummaryLabel := BacktestRunConfig.symbol
  isFullyCovered := id
  formatCoverageMessage := fun _ => "Local data is not sufficient for the selected Backtest range."
  noDataMessage := fun form _ => s!"No historical data for {form} (1h). Please sync data first."
  resultMessage := fun config trades => s!"{config.symbol}: {trades} trades"

def lateCancel : List (BacktestScreenLabel String Bool ℕ) :=
  [.runRequested 0 0, .works 1 (.probes true), .works 1 (.returns 7), .cancelRequested, .edit "ETHUSDT" 0]

theorem late_cancel_owned :
    ∃ final, run (BacktestPresenter.step plainSetup) (.start "BTCUSDT") lateCancel = some final ∧
      final.Tells ∧ final.workers.length ≤ 1 := by
  have completes : (run (BacktestPresenter.step plainSetup) (.start "BTCUSDT") lateCancel).isSome = true := by decide
  obtain ⟨final, completed⟩ := Option.isSome_iff_exists.mp completes
  obtain ⟨tells, alone, _⟩ := backtest_screen_owned plainSetup "BTCUSDT" lateCancel final completed
  exact ⟨final, completed, tells, alone⟩

-- The screen gets stuck exactly in the runs in which a worker ends on an
-- exception that nothing catches, or missing data is reported to a screen that
-- is cancelling, and then it is so for good.
theorem backtest_screen_stalls_iff {φ ω γ ρ : Type} (setup : BacktestScreenSetup φ ω γ ρ) (form : φ)
    (labels : List (BacktestScreenLabel φ γ ρ)) (final : BacktestPresenter φ ω γ ρ)
    (completed : run (BacktestPresenter.step setup) (.start form) labels = some final) :
    (final.Stalls ↔
        ¬ StepsMeet (BacktestPresenter.step setup) (fun screen label => screen.loses label = false) (.start form) labels) ∧
      ∀ later further, run (BacktestPresenter.step setup) final later = some further → final.Stalls → further.Stalls := by
  have consistent := BacktestPresenter.run_consistent setup labels _ final (BacktestPresenter.start_consistent form) completed
  have goesOn (labels : List (BacktestScreenLabel φ γ ρ)) (screen final : BacktestPresenter φ ω γ ρ)
      (consistent : screen.Consistent) (completed : run (BacktestPresenter.step setup) screen labels = some final) :=
    run_meets_iff (BacktestPresenter.step setup) (fun screen label => screen.loses label = false)
      BacktestPresenter.Consistent (fun screen => ¬ screen.Stalls)
      (fun state label next holds moved => (BacktestPresenter.step_settles setup state next label holds moved).1)
      (fun state label next holds moved => (BacktestPresenter.step_settles setup state next label holds moved).2)
      labels screen final consistent completed
  refine ⟨?_, fun later further continued stalls => ?_⟩
  · have started := goesOn labels _ final (BacktestPresenter.start_consistent form) completed
    rw [← not_iff_not, started, not_not, and_iff_right]
    exact BacktestPresenter.idle_goes_on _ (BacktestPresenter.start_idle form)
  · by_contra goes
    exact ((goesOn later final further consistent continued).mp goes).1 stalls

def missingWhileCancelling : List (BacktestScreenLabel String Bool ℕ) :=
  [.runRequested 0 0, .works 1 (.probes false), .cancelRequested, .delivered 0]

theorem missing_while_cancelling_stalls :
    ∃ final, run (BacktestPresenter.step plainSetup) (.start "BTCUSDT") missingWhileCancelling = some final ∧
      final.Stalls := by
  have completes : (run (BacktestPresenter.step plainSetup) (.start "BTCUSDT") missingWhileCancelling).isSome = true := by decide
  obtain ⟨final, completed⟩ := Option.isSome_iff_exists.mp completes
  refine ⟨final, completed, ?_⟩
  exact (backtest_screen_stalls_iff plainSetup "BTCUSDT" missingWhileCancelling final completed).1.mpr (by decide)

-- A request leads to three actions at most, the run it asks for, a sync of the
-- data it misses and that run again, and whatever runs is what a request built.
theorem backtest_actions_requested {φ ω γ ρ : Type} (setup : BacktestScreenSetup φ ω γ ρ) (form : φ)
    (labels : List (BacktestScreenLabel φ γ ρ)) (final : BacktestPresenter φ ω γ ρ)
    (completed : run (BacktestPresenter.step setup) (.start form) labels = some final) :
    final.tracker.nextActionId ≤ (labels.map BacktestScreenLabel.allowance).sum ∧
      ∀ worker ∈ final.workers, BacktestPresenter.Requested setup worker.config := by
  have kept := fun state label next holds moved => BacktestPresenter.step_requested setup state next label holds moved
  have holds : (BacktestPresenter.start form : BacktestPresenter φ ω γ ρ).Consistent ∧
      (BacktestPresenter.start form : BacktestPresenter φ ω γ ρ).Wanted (BacktestPresenter.Requested setup) :=
    ⟨BacktestPresenter.start_consistent form, BacktestPresenter.start_wanted form _⟩
  have counted := run_at_most (BacktestPresenter.step setup) _ BacktestScreenLabel.allowance
    (fun screen => screen.tracker.nextActionId + screen.owed)
    (fun state label next holds moved => (kept state label next holds moved).1)
    (fun state label next holds moved => (kept state label next holds moved).2) labels _ final holds completed
  have wanted := run_invariant (BacktestPresenter.step setup) _
    (fun state label next holds moved => (kept state label next holds moved).1) labels _ final holds completed
  refine ⟨?_, wanted.2.workers⟩
  have nothing : (BacktestPresenter.start form : BacktestPresenter φ ω γ ρ).tracker.nextActionId +
      (BacktestPresenter.start form : BacktestPresenter φ ω γ ρ).owed = 0 := rfl
  omega

def syncedRun : List (BacktestScreenLabel String Bool ℕ) :=
  [.runRequested 0 0, .works 1 (.probes false), .delivered 0, .edit "ETHUSDT" 0, .works 2 .synced, .works 2 (.probes true),
    .delivered 0]

theorem synced_run_requested :
    ∃ final, run (BacktestPresenter.step plainSetup) (.start "BTCUSDT") syncedRun = some final ∧
      final.tracker.nextActionId ≤ 3 ∧ ∀ worker ∈ final.workers, BacktestPresenter.Requested plainSetup worker.config := by
  have completes : (run (BacktestPresenter.step plainSetup) (.start "BTCUSDT") syncedRun).isSome = true := by decide
  obtain ⟨final, completed⟩ := Option.isSome_iff_exists.mp completes
  exact ⟨final, completed, backtest_actions_requested plainSetup "BTCUSDT" syncedRun final completed⟩

end Sagittarius
