import Sagittarius.Screen.BacktestLifecycle

set_option autoImplicit false

namespace Sagittarius

namespace BacktestPresenter

variable {φ ω γ ρ : Type} (setup : BacktestScreenSetup φ ω γ ρ) (screen next : BacktestPresenter φ ω γ ρ)

theorem busy_refuses (state : BacktestUiState) (busy : state.busy = true) :
    backtestStateTransitions state .runRequested = none ∧ backtestStateTransitions state .syncRequested = none := by
  cases state <;> first | exact ⟨rfl, rfl⟩ | cases busy

theorem run_requested_cases (now started : ℤ) (requested : screen.onRunBacktest setup now started = .ok next) :
    (∃ message isError, next = { screen with message, isError }) ∨
      ∃ outcome config, screen.canDispatch .runRequested = true ∧ setup.buildRunConfig screen.form now = .ok outcome ∧
        outcome.config = some config ∧
        (screen.dispatch .runRequested).startBacktestRun config (some screen.state) true started = .ok next := by
  rw [onRunBacktest] at requested
  by_cases allowed : screen.canDispatch .runRequested = true
  · rw [if_pos allowed] at requested
    cases built : setup.buildRunConfig screen.form now with
    | error error =>
        rw [built] at requested
        cases requested
        exact .inl ⟨screen.message, screen.isError, rfl⟩
    | ok outcome =>
        cases isConfig : outcome.config with
        | none =>
            simp only [built, isConfig] at requested
            cases requested
            exact .inl ⟨_, _, rfl⟩
        | some config =>
            simp only [built, isConfig] at requested
            exact .inr ⟨outcome, config, allowed, rfl, isConfig, requested⟩
  · rw [if_neg allowed] at requested
    cases requested
    exact .inl ⟨screen.message, screen.isError, rfl⟩

theorem sync_requested_cases :
    screen.onRequestSync = screen ∨ ∃ config, screen.lastNoDataConfig = some config ∧
      screen.canDispatch .syncRequested = true ∧
      screen.onRequestSync = screen.startSyncForConfig config screen.lastNoDataCoverage := by
  cases isMissing : screen.lastNoDataConfig with
  | none =>
      left
      rw [onRequestSync, isMissing]
  | some config =>
      have requested : screen.onRequestSync = screen.startSyncForConfig config screen.lastNoDataCoverage := by
        rw [onRequestSync, isMissing]
      by_cases allowed : screen.canDispatch .syncRequested = true
      · exact .inr ⟨config, rfl, allowed, requested⟩
      · left
        rw [requested, startSyncForConfig, if_neg allowed]

theorem cancel_pending (actionId : ℕ) (kind : BacktestActionKind) (pending : screen.PendingFor actionId kind) :
    screen.onCancelBacktest.CancellingFor actionId kind ∧ (screen.Numbered → screen.onCancelBacktest.Numbered) ∧
      screen.onCancelBacktest.workers = screen.workers ∧ screen.onCancelBacktest.signals = screen.signals ∧
      ∀ token ∈ screen.cancelledTokens, token ∈ screen.onCancelBacktest.cancelledTokens := by
  have isCancelling : (screen.dispatch .cancelRequested).state = .cancelling := by
    rw [dispatched_state screen .cancelRequested _ pending.state]
    cases kind <;> rfl
  have allowed : screen.canDispatch .cancelRequested = true := by
    rw [canDispatch, pending.state]
    cases kind <;> rfl
  have asked : (screen.tracker.isCurrentPending actionId kind && screen.canDispatch .cancelRequested) = true := by
    rw [screen.pending_is_current actionId kind pending, allowed]
    rfl
  have invalidated : screen.tracker.invalidateActive = { screen.tracker with activeOutcome := some .invalidated } := by
    have finished := screen.finish_outcome actionId kind .invalidated pending.action
    refine Eq.trans ?_ finished
    rw [ActionOwnershipTracker.invalidateActive]
    simp only [pending.action, pending.outcome, if_true]
    rfl
  have cancelled : screen.onCancelBacktest = { screen.dispatch .cancelRequested with
      cancellingActionId := some actionId
      tracker := screen.tracker.invalidateActive
      cancelledTokens := (screen.token kind).toList ++ screen.cancelledTokens
      message := if kind = .sync then "Cancelling sync..." else "Cancelling backtest..."
      isError := false } := by
    rw [onCancelBacktest]
    simp only [pending.action]
    exact if_pos asked
  rw [cancelled, invalidated]
  refine ⟨⟨isCancelling, pending.action, rfl, rfl, ?_⟩, fun numbered => ⟨?_, numbered.actions, numbered.owned⟩, rfl, rfl, ?_⟩
  · rw [pending.token]
    exact List.mem_cons_self
  · rw [pending.token]
    refine fun token listed => ?_
    cases List.mem_cons.mp listed with
    | inl same => exact same ▸ numbered.actions _ pending.action
    | inr older => exact numbered.tokens token older
  · exact fun token listed => List.mem_append_right _ listed

theorem cancel_ignored (notPending : screen.tracker.activeOutcome ≠ some .pending) : screen.onCancelBacktest = screen := by
  rw [onCancelBacktest]
  cases isActive : screen.tracker.activeAction with
  | none => rfl
  | some action =>
      have notCurrent : screen.tracker.isCurrentPending action.actionId action.kind = false := by
        rw [ActionOwnershipTracker.isCurrentPending, decide_eq_false notPending, Bool.and_false]
      dsimp only
      rw [notCurrent]
      rfl

theorem edit_owned (form : φ) (now : ℤ) (busy : screen.state.busy = true) :
    { screen with form }.onConfigInputChanged setup now = { screen with form } := if_pos busy

structure SameSituation : Prop where
  state : next.state = screen.state
  tracker : next.tracker = screen.tracker
  owned : next.owned = screen.owned
  cancellingActionId : next.cancellingActionId = screen.cancellingActionId
  token : next.token = screen.token
  cancelledTokens : next.cancelledTokens = screen.cancelledTokens
  lastNoDataConfig : next.lastNoDataConfig = screen.lastNoDataConfig

theorem same_numbered (same : screen.SameSituation next) (numbered : screen.Numbered) : next.Numbered :=
  screen.numbered_kept next same.tracker same.owned same.cancelledTokens numbered

theorem same_owned (same : screen.SameSituation next) (actionId : ℕ) (kind : BacktestActionKind)
    (owned : screen.OwnedBy actionId kind) : next.OwnedBy actionId kind := by
  cases owned with
  | inl pending =>
      exact .inl {
        state := same.state.trans pending.state
        action := by rw [same.tracker]; exact pending.action
        outcome := by rw [same.tracker]; exact pending.outcome
        token := by rw [same.token]; exact pending.token
        uncancelled := by rw [same.cancelledTokens]; exact pending.uncancelled
        missing := by rw [same.lastNoDataConfig]; exact pending.missing }
  | inr cancelling =>
      exact .inr {
        state := same.state.trans cancelling.state
        action := by rw [same.tracker]; exact cancelling.action
        outcome := by rw [same.tracker]; exact cancelling.outcome
        cancelling := same.cancellingActionId.trans cancelling.cancelling
        cancelled := by rw [same.cancelledTokens]; exact cancelling.cancelled }

theorem left_kept (actionId : ℕ) (kind : BacktestActionKind) (workers : next.workers = screen.workers)
    (signals : next.signals = screen.signals) (tokens : ∀ token ∈ screen.cancelledTokens, token ∈ next.cancelledTokens)
    (left : screen.WorkLeft actionId kind) : next.WorkLeft actionId kind := by
  cases left with
  | worker worker only isAction isKind sound readies =>
      exact .worker worker (workers.trans only) isAction isKind sound (by rw [signals]; exact readies)
  | signal readies last idle listed ready isAction ends cancelled =>
      exact .signal readies last (workers.trans idle) (signals.trans listed) ready isAction ends
        fun tells => tokens _ (cancelled tells)

theorem user_step_owned (label : BacktestScreenLabel φ γ ρ) (actionId : ℕ) (kind : BacktestActionKind)
    (owned : screen.OwnedBy actionId kind) (numbered : screen.Numbered) (moved : screen.step setup label = some next)
    (user : ∀ number move, label ≠ .works number move) (notDelivered : ∀ now, label ≠ .delivered now) :
    next.Numbered ∧ next.OwnedBy actionId kind ∧ next.workers = screen.workers ∧ next.signals = screen.signals ∧
      ∀ token ∈ screen.cancelledTokens, token ∈ next.cancelledTokens := by
  have busy := screen.owned_busy actionId kind owned
  obtain ⟨noRun, noSync⟩ := busy_refuses screen.state busy
  have unchanged (same : screen.SameSituation next) (workers : next.workers = screen.workers)
      (signals : next.signals = screen.signals) : next.Numbered ∧ next.OwnedBy actionId kind ∧
        next.workers = screen.workers ∧ next.signals = screen.signals ∧
        ∀ token ∈ screen.cancelledTokens, token ∈ next.cancelledTokens :=
    ⟨same_numbered screen next same numbered, same_owned screen next same actionId kind owned, workers, signals,
      by rw [same.cancelledTokens]; exact fun _ listed => listed⟩
  cases label with
  | edit form now =>
      rw [step, edit_owned setup screen form now busy] at moved
      cases moved
      exact unchanged ⟨rfl, rfl, rfl, rfl, rfl, rfl, rfl⟩ rfl rfl
  | runRequested now started =>
      rw [step] at moved
      cases requested : screen.onRunBacktest setup now started with
      | error error =>
          rw [requested] at moved
          cases moved
      | ok after =>
          rw [requested] at moved
          cases moved
          obtain ⟨message, isError, rfl⟩ | ⟨_, _, allowed, _⟩ := screen.run_requested_cases setup next now started requested
          · exact unchanged ⟨rfl, rfl, rfl, rfl, rfl, rfl, rfl⟩ rfl rfl
          · rw [canDispatch, noRun] at allowed
            cases allowed
  | syncRequested =>
      cases moved
      obtain same | ⟨_, _, allowed, _⟩ := screen.sync_requested_cases
      · rw [same]
        rw [same] at unchanged
        exact unchanged ⟨rfl, rfl, rfl, rfl, rfl, rfl, rfl⟩ rfl rfl
      · rw [canDispatch, noSync] at allowed
        cases allowed
  | cancelRequested =>
      cases moved
      cases owned with
      | inl pending =>
          obtain ⟨cancelling, numbers, workers, signals, tokens⟩ := screen.cancel_pending actionId kind pending
          exact ⟨numbers numbered, .inr cancelling, workers, signals, tokens⟩
      | inr cancelling =>
          have ignored := screen.cancel_ignored (by rw [cancelling.outcome]; decide)
          rw [ignored]
          rw [ignored] at unchanged
          exact unchanged ⟨rfl, rfl, rfl, rfl, rfl, rfl, rfl⟩ rfl rfl
  | works number move => exact absurd rfl (user number move)
  | delivered now => exact absurd rfl (notDelivered now)

theorem idle_written (idle : screen.Idle) (numbered : screen.Numbered) (settled : next.state.busy = false)
    (tracker : next.tracker = screen.tracker) (owned : next.owned = screen.owned)
    (tokens : next.cancelledTokens = screen.cancelledTokens) (workers : next.workers = screen.workers)
    (signals : next.signals = screen.signals) : next.Numbered ∧ (next.Idle ∨ next.Working) := by
  have numbers := screen.numbered_kept next tracker owned tokens numbered
  refine ⟨numbers, .inl ⟨⟨settled, ?_⟩, workers.trans idle.workers, signals.trans idle.signals⟩⟩
  rw [tracker]
  exact idle.free.outcome

theorem run_request_runs (state : BacktestUiState)
    (allowed : (backtestStateTransitions state .runRequested).isSome = true) :
    (backtestStateTransitions state .runRequested).getD state = .running := by
  revert allowed
  cases state <;> decide

theorem step_idle (label : BacktestScreenLabel φ γ ρ) (idle : screen.Idle) (numbered : screen.Numbered)
    (moved : screen.step setup label = some next) :
    screen.loses label = false ∧ next.Numbered ∧ (next.Idle ∨ next.Working) := by
  cases label with
  | edit form now =>
      refine ⟨rfl, ?_⟩
      cases moved
      obtain ⟨busy, _⟩ | ⟨state, text, settled, edited⟩ := config_input_cases setup { screen with form } now
      · exact absurd (idle.free.state.symm.trans busy) Bool.false_ne_true
      · rw [edited]
        exact idle_written screen _ idle numbered settled rfl rfl rfl rfl rfl
  | runRequested now started =>
      refine ⟨rfl, ?_⟩
      rw [step] at moved
      cases requested : screen.onRunBacktest setup now started with
      | error error =>
          rw [requested] at moved
          cases moved
      | ok after =>
          rw [requested] at moved
          cases moved
          obtain ⟨message, isError, rfl⟩ | ⟨_, config, allowed, _, _, startedRun⟩ :=
            screen.run_requested_cases setup next now started requested
          · exact idle_written screen _ idle numbered idle.free.state rfl rfl rfl rfl rfl
          · have isRunning : (screen.dispatch .runRequested).state = .running := run_request_runs screen.state allowed
            obtain ⟨nextNumbered, pending, signals, _, _, workers⟩ :=
              start_run_owns (screen.dispatch .runRequested) next config (some screen.state) true started isRunning
                ⟨numbered.tokens, numbered.actions, numbered.owned⟩ startedRun
            have only := workers.trans (congrArg (· ++ _) idle.workers)
            refine ⟨nextNumbered, .inr (started_works _ _ _ _ pending only rfl rfl ?_ (signals.trans idle.signals))⟩
            intro isSync
            cases isSync
  | syncRequested =>
      refine ⟨rfl, ?_⟩
      cases moved
      obtain same | ⟨config, isMissing, allowed, requested⟩ := screen.sync_requested_cases
      · rw [same]
        exact ⟨numbered, .inl idle⟩
      · obtain ⟨nextNumbered, pending, signals, workers⟩ :=
          screen.start_sync_owns config screen.lastNoDataCoverage allowed (by rw [isMissing]; rfl) numbered
        have only := workers.trans (congrArg (· ++ _) idle.workers)
        rw [requested]
        refine ⟨nextNumbered, .inr (started_works _ _ _ _ pending only rfl rfl ?_ (signals.trans idle.signals))⟩
        intro _ result isReporting
        cases isReporting
  | cancelRequested =>
      refine ⟨rfl, ?_⟩
      cases moved
      rw [screen.cancel_ignored idle.free.outcome]
      exact ⟨numbered, .inl idle⟩
  | works number move =>
      rw [step, workerOf, idle.workers] at moved
      cases moved
  | delivered now =>
      rw [step, idle.signals] at moved
      cases moved

theorem step_works (number : ℕ) (move : WorkerMove γ ρ) (actionId : ℕ) (kind : BacktestActionKind)
    (owned : screen.OwnedBy actionId kind) (numbered : screen.Numbered) (left : screen.WorkLeft actionId kind)
    (moved : screen.step setup (.works number move) = some next) :
    next.Numbered ∧ if screen.loses (.works number move) then next.Lost else next.Working := by
  rw [step] at moved
  obtain ⟨worker, found, moved⟩ := Option.bind_eq_some_iff.mp moved
  obtain ⟨⟨after, emitted⟩, stepped, moved⟩ := Option.map_eq_some_iff.mp moved
  have isNumber : worker.actionId = number := by simpa using List.find?_some found
  have listed : worker ∈ screen.workers := List.mem_of_find?_eq_some found
  cases left with
  | signal readies last idle =>
      rw [idle] at listed
      cases listed
  | worker owner only isAction isKind sound readies =>
      rw [only] at listed
      obtain rfl := List.mem_singleton.mp listed
      have loss : screen.loses (.works number move) = (move.raised && worker.unguarded) := by
        rw [loses, found]
        rfl
      have workers : next.workers = after.toList := by
        rw [← moved, workedOn, only]
        simp [isNumber]
      have signals : next.signals = screen.signals ++ emitted := by
        rw [← moved]
        rfl
      have same : screen.SameSituation next := by
        rw [← moved]
        exact ⟨rfl, rfl, rfl, rfl, rfl, rfl, rfl⟩
      have kept := same_owned screen next same actionId kind owned
      rw [loss]
      refine ⟨same_numbered screen next same numbered, ?_⟩
      obtain ⟨keeps, goesOn⟩ | ⟨lost, rfl, rfl⟩ :=
        worker_step_cases setup screen.form _ worker move after emitted sound stepped
      · rw [keeps, if_neg Bool.false_ne_true]
        refine ⟨actionId, kind, kept, ?_⟩
        obtain ⟨stage, rfl, laterSound, ready⟩ | ⟨last, rfl, rfl, isLast⟩ := goesOn
        · refine .worker { worker with stage } workers isAction isKind laterSound fun signal listed => ?_
          rw [signals] at listed
          cases List.mem_append.mp listed with
          | inl older => exact readies signal older
          | inr new => exact isAction ▸ ready signal new
        · refine .signal screen.signals last workers signals readies (isLast.isAction.trans isAction)
            (isLast.ends.trans (congrArg some isKind)) fun tells => ?_
          rw [same.cancelledTokens, ← isAction, isNumber]
          exact of_decide_eq_true (isLast.cancelled tells)
      · rw [lost, if_pos rfl]
        refine ⟨actionId, kind, kept, workers, ?_⟩
        rw [signals, List.append_nil]
        exact readies

theorem step_delivers (now : ℤ) (actionId : ℕ) (kind : BacktestActionKind)
    (owned : screen.OwnedBy actionId kind) (numbered : screen.Numbered) (left : screen.WorkLeft actionId kind)
    (moved : screen.step setup (.delivered now) = some next) :
    next.Numbered ∧ if screen.loses (.delivered now) then next.Lost else next.Idle ∨ next.Working := by
  rw [step] at moved
  cases isFirst : screen.signals with
  | nil =>
      rw [isFirst] at moved
      cases moved
  | cons first rest =>
      rw [isFirst] at moved
      dsimp only at moved
      generalize isPopped : { screen with signals := rest } = popped at moved
      have same : screen.SameSituation popped := by
        rw [← isPopped]
        exact ⟨rfl, rfl, rfl, rfl, rfl, rfl, rfl⟩
      have workers : popped.workers = screen.workers := by
        rw [← isPopped]
      have signals : popped.signals = rest := by
        rw [← isPopped]
      have loss : screen.loses (.delivered now) = (decide (screen.state = .cancelling) && first.tellsMissing) := by
        rw [loses, isFirst]
        rfl
      have numbers := same_numbered screen popped same numbered
      have ownedStill := same_owned screen popped same actionId kind owned
      have ready (isReady : first.ends = none) (leftStill : popped.WorkLeft actionId kind) :
          next.Numbered ∧ if screen.loses (.delivered now) then next.Lost else next.Idle ∨ next.Working := by
        obtain ⟨dataCoverage, needsDataSync, delivered⟩ := deliver_ready setup popped first now isReady
        rw [delivered] at moved
        cases moved
        have unaffected : popped.SameSituation { popped with dataCoverage, needsDataSync } := ⟨rfl, rfl, rfl, rfl, rfl, rfl, rfl⟩
        have kept := left_kept popped { popped with dataCoverage, needsDataSync } actionId kind rfl rfl (fun _ listed => listed)
          leftStill
        have quiet : first.tellsMissing = false := by
          cases first with
          | coverageReady => rfl
          | _ => cases isReady
        rw [loss, quiet, Bool.and_false, if_neg Bool.false_ne_true]
        exact ⟨same_numbered popped _ unaffected numbers,
          .inr ⟨actionId, kind, same_owned popped _ unaffected actionId kind ownedStill, kept⟩⟩
      cases left with
      | worker worker only isAction isKind sound readies =>
          rw [isFirst] at readies
          refine ready (readies first List.mem_cons_self).1 (.worker worker (workers.trans only) isAction isKind sound ?_)
          rw [signals]
          exact fun signal listed => readies signal (List.mem_cons_of_mem _ listed)
      | signal readies last idle listed isReady isAction ends cancelled =>
          rw [isFirst] at listed
          cases readies with
          | cons earliest readies =>
              cases listed
              refine ready (isReady first List.mem_cons_self).1
                (.signal readies last (workers.trans idle) signals ?_ isAction ends ?_)
              · exact fun signal listed => isReady signal (List.mem_cons_of_mem _ listed)
              rw [same.cancelledTokens]
              exact cancelled
          | nil =>
              cases listed
              cases delivered : popped.deliver setup now first with
              | error error =>
                  rw [delivered] at moved
                  cases moved
              | ok after =>
                  rw [delivered] at moved
                  cases moved
                  cases ownedStill with
                  | inl pending =>
                      have notCancelling : screen.state ≠ .cancelling := by
                        rw [← same.state, pending.state]
                        cases kind <;> decide
                      rw [loss, decide_eq_false notCancelling, Bool.false_and, if_neg Bool.false_ne_true]
                      exact deliver_pending setup popped next actionId kind first now pending numbers (workers.trans idle) signals
                        isAction ends (by rw [same.cancelledTokens]; exact cancelled) delivered
                  | inr cancelling =>
                      rw [deliver_cancelling setup popped actionId kind first now cancelling isAction ends] at delivered
                      rw [loss, decide_eq_true (same.state.symm.trans cancelling.state), Bool.true_and]
                      cases missing : first.tellsMissing with
                      | true =>
                          rw [missing, if_pos rfl] at delivered
                          cases delivered
                          rw [if_pos rfl]
                          refine ⟨numbers, actionId, kind, .inr cancelling, workers.trans idle, ?_⟩
                          rw [signals]
                          exact List.forall_mem_nil _
                      | false =>
                          rw [missing, if_neg Bool.false_ne_true] at delivered
                          cases delivered
                          rw [if_neg Bool.false_ne_true]
                          obtain ⟨nextNumbered, free, noWorkers, noSignals⟩ :=
                            popped.complete_cancelled_frees actionId kind cancelling numbers
                          exact ⟨nextNumbered, .inl ⟨free, noWorkers.trans (workers.trans idle), noSignals.trans signals⟩⟩

theorem step_lost (label : BacktestScreenLabel φ γ ρ) (lost : screen.Lost) (numbered : screen.Numbered)
    (moved : screen.step setup label = some next) : next.Numbered ∧ next.Lost := by
  obtain ⟨actionId, kind, owned, workers, signals⟩ := lost
  by_cases user : (∀ number move, label ≠ .works number move) ∧ ∀ now, label ≠ .delivered now
  · obtain ⟨numbers, ownedStill, sameWorkers, sameSignals, _⟩ :=
      screen.user_step_owned setup next label actionId kind owned numbered moved user.1 user.2
    exact ⟨numbers, actionId, kind, ownedStill, sameWorkers.trans workers, by rw [sameSignals]; exact signals⟩
  cases label with
  | works number move =>
      rw [step, workerOf, workers] at moved
      cases moved
  | delivered now =>
      rw [step] at moved
      cases isFirst : screen.signals with
      | nil =>
          rw [isFirst] at moved
          cases moved
      | cons first rest =>
          rw [isFirst] at moved signals
          obtain ⟨dataCoverage, needsDataSync, delivered⟩ :=
            deliver_ready setup { screen with signals := rest } first now (signals first List.mem_cons_self).1
          dsimp only at moved
          rw [delivered] at moved
          have same : screen.SameSituation next := by
            cases moved
            exact ⟨rfl, rfl, rfl, rfl, rfl, rfl, rfl⟩
          have ownedStill := same_owned screen next same actionId kind owned
          refine ⟨same_numbered screen next same numbered, actionId, kind, ownedStill, ?_, ?_⟩
          · cases moved
            exact workers
          · cases moved
            exact fun signal listed => signals signal (List.mem_cons_of_mem _ listed)
  | _ => exact absurd ⟨nofun, nofun⟩ user

theorem step_goes_on (label : BacktestScreenLabel φ γ ρ) (situation : screen.Idle ∨ screen.Working) (numbered : screen.Numbered)
    (moved : screen.step setup label = some next) :
    next.Numbered ∧ if screen.loses label then next.Lost else next.Idle ∨ next.Working := by
  cases situation with
  | inl idle =>
      obtain ⟨keeps, numbers, goesOn⟩ := screen.step_idle setup next label idle numbered moved
      rw [keeps, if_neg Bool.false_ne_true]
      exact ⟨numbers, goesOn⟩
  | inr working =>
      obtain ⟨actionId, kind, owned, left⟩ := working
      by_cases user : (∀ number move, label ≠ .works number move) ∧ ∀ now, label ≠ .delivered now
      · obtain ⟨numbers, ownedStill, workers, signals, tokens⟩ :=
          screen.user_step_owned setup next label actionId kind owned numbered moved user.1 user.2
        have keeps : screen.loses label = false := by
          cases label with
          | works number move => exact absurd rfl (user.1 number move)
          | delivered now => exact absurd rfl (user.2 now)
          | _ => rfl
        rw [keeps, if_neg Bool.false_ne_true]
        exact ⟨numbers, .inr ⟨actionId, kind, ownedStill, left_kept screen next actionId kind workers signals tokens left⟩⟩
      cases label with
      | works number move =>
          obtain ⟨numbers, goesOn⟩ := screen.step_works setup next number move actionId kind owned numbered left moved
          refine ⟨numbers, ?_⟩
          by_cases lost : screen.loses (.works number move) = true
          · rw [if_pos lost] at goesOn ⊢
            exact goesOn
          · rw [if_neg lost] at goesOn ⊢
            exact .inr goesOn
      | delivered now => exact screen.step_delivers setup next now actionId kind owned numbered left moved
      | _ => exact absurd ⟨nofun, nofun⟩ user

end BacktestPresenter

end Sagittarius
