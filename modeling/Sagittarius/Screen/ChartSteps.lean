import Sagittarius.Screen.ChartHistory

set_option autoImplicit false

namespace Sagittarius

variable {α : Type}

def HistoryLoad.finds (load : HistoryLoad) (answer : Option (KlineTable α)) : Bool :=
  match TimeFrame.ofValue load.interval, answer with
  | some interval, some table => !(load.orderedKlines interval table).isEmpty
  | _, _ => false

def OlderHistoryLoad.finds (load : OlderHistoryLoad) (answer : Option (KlineTable α)) : Bool :=
  match TimeFrame.ofValue load.interval, answer with
  | some interval, some table => !(load.orderedKlines interval table).isEmpty
  | _, _ => false

namespace Dashboard

variable (dashboard : Dashboard α)

structure Submitted (before next : Dashboard α) : Prop where
  histories : next.rawKlinesBySymbol = before.rawKlinesBySymbol
  signals : next.signals = before.signals
  olderLoads : next.olderLoads = before.olderLoads
  interval : next.activeInterval = before.activeInterval
  card : ∀ card ∈ next.activeChart, card.rawHistory ≠ [] → before.activeChart = some card
  started : next.slot = before.slot ∧ next.chartedSymbol = before.chartedSymbol ∨
    ∃ action, next.slot = some action ∧ action.loadPending = true ∧ next.chartedSymbol = some action.load.symbol

theorem submitted_refl : Submitted dashboard dashboard :=
  ⟨rfl, rfl, rfl, rfl, fun _ shown _ => shown, .inl ⟨rfl, rfl⟩⟩

theorem Submitted.trans (first second third : Dashboard α) (earlier : Submitted first second)
    (later : Submitted second third) : Submitted first third where
  histories := later.histories.trans earlier.histories
  signals := later.signals.trans earlier.signals
  olderLoads := later.olderLoads.trans earlier.olderLoads
  interval := later.interval.trans earlier.interval
  card card shown filled := earlier.card card (later.card card shown filled) filled
  started := by
    rcases later.started with ⟨slot, charted⟩ | started
    · rcases earlier.started with ⟨slotBefore, chartedBefore⟩ | ⟨action, held, pending, shown⟩
      · exact .inl ⟨slot.trans slotBefore, charted.trans chartedBefore⟩
      · exact .inr ⟨action, slot.trans held, pending, charted.trans shown⟩
    · exact .inr started

theorem ensure_cases (symbol : String) :
    dashboard.chartedSymbol = some symbol ∧ dashboard.ensureChartCards symbol = dashboard ∨
      dashboard.ensureChartCards symbol = { dashboard with activeChart := some { symbol } } := by
  by_cases same : dashboard.chartedSymbol = some symbol
  · exact .inl ⟨same, if_pos same⟩
  · exact .inr (if_neg same)

theorem submit_submitted (key : StreamActionKey) (phase : WorkerPhase) (mode : UIMode)
    (pending : phase = .syncing ∨ phase = .loading) : Submitted dashboard (dashboard.submitAction key phase mode) := by
  unfold submitAction
  split
  · rename_i symbol startTime endTime free validated
    have loads (load : HistoryLoad) : StreamAction.loadPending { key, phase, load } = true := by
      rcases pending with rfl | rfl <;> rfl
    rcases dashboard.ensure_cases symbol with ⟨charted, same⟩ | fresh
    · rw [same]
      exact ⟨rfl, rfl, rfl, rfl, fun _ shown _ => shown, .inr ⟨_, rfl, loads _, charted⟩⟩
    · rw [fresh]
      refine ⟨rfl, rfl, rfl, rfl, fun card shown filled => ?_, .inr ⟨_, rfl, loads _, rfl⟩⟩
      cases shown
      exact absurd rfl filled
  · exact dashboard.submitted_refl

theorem submit_pending_iff (key : StreamActionKey) (phase : WorkerPhase) (mode : UIMode)
    (pending : phase = .syncing ∨ phase = .loading) :
    (dashboard.submitAction key phase mode).loadPending = true ↔
      dashboard.loadPending = true ∨ dashboard.slot = none ∧ dashboard.readAndValidateInputs.isSome = true := by
  unfold submitAction
  split
  · rename_i symbol startTime endTime free validated
    refine iff_of_true ?_ (.inr ⟨free, by rw [validated]; rfl⟩)
    rcases pending with rfl | rfl <;> rfl
  · rename_i refused
    refine ⟨.inl, ?_⟩
    rintro (before | ⟨free, valid⟩)
    · exact before
    · obtain ⟨⟨symbol, startTime, endTime⟩, validated⟩ := Option.isSome_iff_exists.mp valid
      exact absurd validated (refused symbol startTime endTime free)

theorem load_submitted : Submitted dashboard dashboard.onLoadHistory :=
  dashboard.submit_submitted .loadHistory .loading dashboard.mode (.inr rfl)

theorem start_submitted : Submitted dashboard dashboard.onStartStream := by
  by_cases idle : dashboard.mode = .idle
  · rw [onStartStream, if_pos idle]
    exact dashboard.submit_submitted .startStream .syncing _ (.inl rfl)
  · rw [onStartStream, if_neg idle]
    exact dashboard.submitted_refl

theorem stop_submitted (raised : Bool) : Submitted dashboard (dashboard.onStopStream raised) := by
  by_cases idle : dashboard.mode = .idle
  · rw [onStopStream, if_pos idle]
    exact dashboard.submitted_refl
  · rw [onStopStream, if_neg idle]
    exact ⟨rfl, rfl, rfl, rfl, fun _ shown _ => shown, .inl ⟨rfl, rfl⟩⟩

def reload (stopRaised : Bool) : Dashboard α :=
  if dashboard.mode = .live then (dashboard.onStopStream stopRaised).onStartStream
  else if dashboard.slot.any fun action => action.key = .loadHistory then dashboard
  else dashboard.onLoadHistory

theorem timeframe_changed (timeframe : String) (stopRaised : Bool) (changed : timeframe ≠ dashboard.activeInterval) :
    dashboard.onTimeframeChanged timeframe stopRaised =
      { dashboard with activeInterval := timeframe }.reload stopRaised := if_neg changed

theorem reload_submitted (stopRaised : Bool) : Submitted dashboard (dashboard.reload stopRaised) := by
  rw [reload]
  split_ifs
  · exact .trans _ _ _ (dashboard.stop_submitted stopRaised) (start_submitted _)
  · exact dashboard.submitted_refl
  · exact dashboard.load_submitted

theorem stopped_live (stopRaised : Bool) (live : dashboard.mode = .live) :
    dashboard.onStopStream stopRaised = { dashboard with token := dashboard.token + 1, mode := .idle } := by
  rw [onStopStream, if_neg (by simp [live]), live]
  cases stopRaised <;> rfl

theorem reload_pending_iff (stopRaised : Bool) :
    (dashboard.reload stopRaised).loadPending = true ↔
      dashboard.loadPending = true ∨ dashboard.slot = none ∧ dashboard.readAndValidateInputs.isSome = true := by
  rw [reload]
  split_ifs with live held
  · rw [dashboard.stopped_live stopRaised live, onStartStream, if_pos rfl]
    exact submit_pending_iff _ .startStream .syncing _ (.inl rfl)
  · refine ⟨.inl, ?_⟩
    rintro (before | ⟨free, _⟩)
    · exact before
    · simp [free] at held
  · exact dashboard.submit_pending_iff .loadHistory .loading dashboard.mode (.inr rfl)

theorem run_load_history_cases (load : HistoryLoad) (answer : Option (KlineTable α)) :
    ((dashboard.isCancelled load.token = false ∧ load.finds answer = true) ∧
      ∃ interval table, TimeFrame.ofValue load.interval = some interval ∧ load.orderedKlines interval table ≠ [] ∧
        (dashboard.runLoadHistory load answer).1 =
          { dashboard with
            signals := dashboard.signals ++
              [.historyReloaded load.symbol (mapKlines (load.orderedKlines interval table))]
            rawKlinesBySymbol :=
              Function.update dashboard.rawKlinesBySymbol load.symbol (load.orderedKlines interval table) }) ∨
    ¬ (dashboard.isCancelled load.token = false ∧ load.finds answer = true) ∧
      (dashboard.runLoadHistory load answer).1 = dashboard := by
  by_cases cancelled : dashboard.isCancelled load.token = true
  · exact .inr ⟨by simp [cancelled], by simp [runLoadHistory, cancelled]⟩
  · cases frame : TimeFrame.ofValue load.interval with
    | none => exact .inr ⟨by simp [HistoryLoad.finds, frame], by simp [runLoadHistory, cancelled, frame]⟩
    | some interval =>
        cases answer with
        | none => exact .inr ⟨by simp [HistoryLoad.finds, frame], by simp [runLoadHistory, cancelled, frame]⟩
        | some table =>
            by_cases none : load.orderedKlines interval table = []
            · exact .inr ⟨by simp [HistoryLoad.finds, frame, none], by simp [runLoadHistory, cancelled, frame, none]⟩
            · refine .inl ⟨⟨by simpa using cancelled, by simp [HistoryLoad.finds, frame, none]⟩, interval, table, rfl,
                none, ?_⟩
              simp [runLoadHistory, cancelled, frame, none]

theorem finish_load_after (action : StreamAction) (answer : Option (KlineTable α)) :
    ∃ phase extra, dashboard.finishLoad action answer =
        { (dashboard.runLoadHistory action.load answer).1 with
          slot := some { action with phase }
          signals := (dashboard.runLoadHistory action.load answer).1.signals ++ extra } ∧
      StreamAction.loadPending { action with phase } = false ∧
      ∀ symbol candles, UiSignal.historyReloaded symbol candles ∉ extra := by
  obtain ⟨key, phase, load⟩ := action
  unfold finishLoad
  rcases dashboard.runLoadHistory load answer with ⟨loaded, raised⟩
  cases key with
  | loadHistory => exact ⟨.finished, [], by simp [setPhase], rfl, by simp⟩
  | startStream =>
      dsimp only
      split_ifs
      · exact ⟨.finished, [.streamFailed], by simp [setPhase, emit], rfl, by simp⟩
      · exact ⟨.finished, [], by simp [setPhase], rfl, by simp⟩
      · exact ⟨.starting, [], by simp [setPhase], rfl, by simp⟩

theorem run_load_more_cases (load : OlderHistoryLoad) (answer : Option (KlineTable α)) :
    (dashboard.isCancelled load.token = false ∧ load.finds answer = true ∧
      ∃ interval table, TimeFrame.ofValue load.interval = some interval ∧ answer = some table ∧
        load.orderedKlines interval table ≠ [] ∧
        dashboard.runLoadMoreHistory load answer =
          { dashboard with
            signals := dashboard.signals ++
              [.historyPrepended load.symbol (mapKlines (load.orderedKlines interval table)),
                .historyPrependFinished load.symbol]
            rawKlinesBySymbol := Function.update dashboard.rawKlinesBySymbol load.symbol
              (load.orderedKlines interval table ++ dashboard.rawKlinesBySymbol load.symbol) }) ∨
    ¬ (dashboard.isCancelled load.token = false ∧ load.finds answer = true) ∧
      dashboard.runLoadMoreHistory load answer =
        { dashboard with signals := dashboard.signals ++ [.historyPrependFinished load.symbol] } := by
  by_cases cancelled : dashboard.isCancelled load.token = true
  · exact .inr ⟨by simp [cancelled], by simp [runLoadMoreHistory, cancelled]⟩
  · cases frame : TimeFrame.ofValue load.interval with
    | none => exact .inr ⟨by simp [OlderHistoryLoad.finds, frame], by simp [runLoadMoreHistory, cancelled, frame]⟩
    | some interval =>
        cases answer with
        | none => exact .inr ⟨by simp [OlderHistoryLoad.finds, frame], by simp [runLoadMoreHistory, cancelled, frame]⟩
        | some table =>
            by_cases none : load.orderedKlines interval table = []
            · exact .inr ⟨by simp [OlderHistoryLoad.finds, frame, none],
                by simp [runLoadMoreHistory, cancelled, frame, none]⟩
            · refine .inl ⟨by simpa using cancelled, by simp [OlderHistoryLoad.finds, frame, none], interval, table, rfl,
                rfl, none, ?_⟩
              simp [runLoadMoreHistory, cancelled, frame, none]

theorem loaded_kept (load : HistoryLoad) (answer : Option (KlineTable α)) (symbol : String)
    (kept : dashboard.rawKlinesBySymbol symbol ≠ []) :
    (dashboard.runLoadHistory load answer).1.rawKlinesBySymbol symbol ≠ [] := by
  rcases dashboard.run_load_history_cases load answer with ⟨_, interval, table, _, found, ran⟩ | ⟨_, ran⟩
  · rw [ran]
    by_cases loaded : symbol = load.symbol
    · subst loaded
      simpa using found
    · simpa [Function.update_of_ne loaded] using kept
  · rwa [ran]

theorem older_kept (load : OlderHistoryLoad) (answer : Option (KlineTable α)) (symbol : String)
    (kept : dashboard.rawKlinesBySymbol symbol ≠ []) :
    (dashboard.runLoadMoreHistory load answer).rawKlinesBySymbol symbol ≠ [] := by
  rcases dashboard.run_load_more_cases load answer with ⟨_, _, interval, table, _, _, found, ran⟩ | ⟨_, ran⟩
  · rw [ran]
    by_cases loaded : symbol = load.symbol
    · subst loaded
      simp [found]
    · simpa [Function.update_of_ne loaded] using kept
  · rwa [ran]

theorem near_left_edge_cases (symbol : String) (now : ℤ) :
    dashboard.onNearLeftEdge symbol now = dashboard ∨
      ∃ card pagination load, dashboard.activeChart = some card ∧ card.rawHistory ≠ [] ∧
        OlderHistoryLoad.symbol load = card.symbol ∧
        dashboard.onNearLeftEdge symbol now = { dashboard with pagination, olderLoads := dashboard.olderLoads ++ [load] } := by
  unfold onNearLeftEdge
  split
  · rename_i card shown
    split_ifs with same
    · split
      · rename_i oldest rest filled
        split
        · exact .inr ⟨card, _, _, shown, by simp [filled], same.symm, rfl⟩
        · exact .inl rfl
      · exact .inl rfl
    · exact .inl rfl
  · exact .inl rfl

theorem update_card_charted (symbol : String) (change : ChartCard α → ChartCard α)
    (same : ∀ card, (change card).symbol = card.symbol) :
    (dashboard.updateCard symbol change).chartedSymbol = dashboard.chartedSymbol := by
  unfold chartedSymbol updateCard
  cases dashboard.activeChart with
  | none => rfl
  | some card =>
      simp only [Option.map_some, Option.some.injEq]
      split_ifs
      · exact same card
      · rfl

theorem signal_frame (now : ℤ) (signal : UiSignal α) :
    (dashboard.onSignal now signal).rawKlinesBySymbol = dashboard.rawKlinesBySymbol ∧
      (dashboard.onSignal now signal).activeInterval = dashboard.activeInterval ∧
      (dashboard.onSignal now signal).slot = dashboard.slot ∧
      (dashboard.onSignal now signal).olderLoads = dashboard.olderLoads ∧
      (dashboard.onSignal now signal).signals = dashboard.signals ∧
      (dashboard.onSignal now signal).chartedSymbol = dashboard.chartedSymbol := by
  cases signal with
  | historyReloaded symbol candles =>
      exact ⟨rfl, rfl, rfl, rfl, rfl, dashboard.update_card_charted symbol _ fun card => card.render_symbol candles⟩
  | historyPrepended symbol candles =>
      exact ⟨rfl, rfl, rfl, rfl, rfl, dashboard.update_card_charted symbol _ fun card => card.prepend_symbol candles⟩
  | historyPrependFinished symbol => exact ⟨rfl, rfl, rfl, rfl, rfl, rfl⟩
  | streamSuccess => exact ⟨rfl, rfl, rfl, rfl, rfl, rfl⟩
  | streamFailed => exact ⟨rfl, rfl, rfl, rfl, rfl, rfl⟩

theorem signal_card (now : ℤ) (signal : UiSignal α) (card : ChartCard α)
    (shown : (dashboard.onSignal now signal).activeChart = some card) (filled : card.rawHistory ≠ []) :
    (∃ before, dashboard.activeChart = some before ∧ before.symbol = card.symbol ∧ before.rawHistory ≠ []) ∨
      ∃ candles, signal = .historyReloaded card.symbol candles := by
  cases signal with
  | historyReloaded symbol candles =>
      obtain ⟨before, shownBefore, changed⟩ := Option.map_eq_some_iff.mp shown
      split_ifs at changed with same
      · subst changed
        exact .inr ⟨candles, by rw [ChartCard.render_symbol, same]⟩
      · exact .inl ⟨before, shownBefore, by rw [changed], by rwa [changed]⟩
  | historyPrepended symbol candles =>
      obtain ⟨before, shownBefore, changed⟩ := Option.map_eq_some_iff.mp shown
      refine .inl ⟨before, shownBefore, ?_⟩
      split_ifs at changed with same
      · subst changed
        refine ⟨(before.prepend_symbol candles).symm, fun empty => filled ?_⟩
        simp [ChartCard.prependHistoricalData, empty]
      · exact ⟨by rw [changed], by rwa [changed]⟩
  | historyPrependFinished symbol => exact .inl ⟨card, shown, rfl, filled⟩
  | streamSuccess => exact .inl ⟨card, shown, rfl, filled⟩
  | streamFailed => exact .inl ⟨card, shown, rfl, filled⟩

theorem synced_iff (raised : Bool) (next : Dashboard α) : dashboard.step (.marketDataSynced raised) = some next ↔
    ∃ action, dashboard.slot = some action ∧ action.phase = .syncing ∧ dashboard.finishSync action raised = next := by
  cases held : dashboard.slot <;> simp [step, held]

theorem loaded_iff (answer : Option (KlineTable α)) (next : Dashboard α) :
    dashboard.step (.historyLoaded answer) = some next ↔
      ∃ action, dashboard.slot = some action ∧ action.phase = .loading ∧ dashboard.finishLoad action answer = next := by
  cases held : dashboard.slot <;> simp [step, held]

theorem started_iff (succeeded : Bool) (next : Dashboard α) : dashboard.step (.streamStarted succeeded) = some next ↔
    ∃ action, dashboard.slot = some action ∧ action.phase = .starting ∧
      (dashboard.emit (if succeeded then .streamSuccess else .streamFailed)).setPhase action .finished = next := by
  cases held : dashboard.slot <;> simp [step, held]

theorem done_iff (next : Dashboard α) : dashboard.step .actionDone = some next ↔
    ∃ action, dashboard.slot = some action ∧ action.phase = .finished ∧ { dashboard with slot := none } = next := by
  cases held : dashboard.slot <;> simp [step, held]

theorem older_iff (index : ℕ) (answer : Option (KlineTable α)) (next : Dashboard α) :
    dashboard.step (.olderHistoryLoaded index answer) = some next ↔
      ∃ load, dashboard.olderLoads[index]? = some load ∧
        { dashboard.runLoadMoreHistory load answer with olderLoads := dashboard.olderLoads.eraseIdx index } = next := by
  cases listed : dashboard.olderLoads[index]? <;> simp [step, listed]

theorem delivered_iff (now : ℤ) (next : Dashboard α) : dashboard.step (.signalDelivered now) = some next ↔
    ∃ signal rest, dashboard.signals = signal :: rest ∧ { dashboard with signals := rest }.onSignal now signal = next := by
  cases queued : dashboard.signals <;> simp [step, queued]

end Dashboard

end Sagittarius
