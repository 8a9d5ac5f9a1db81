import Sagittarius.Screen.ChartSteps

set_option autoImplicit false

namespace Sagittarius

variable {α : Type}

structure CoherentHistory (history : List (MarketData α)) : Prop where
  interval : ∀ first ∈ history, ∀ second ∈ history, first.interval = second.interval
  increasing : history.Pairwise fun first second => first.openTime < second.openTime

theorem coherent_nil : CoherentHistory ([] : List (MarketData α)) := ⟨by simp, List.Pairwise.nil⟩

theorem coherent_of_interval (history : List (MarketData α)) (interval : String)
    (all : ∀ kline ∈ history, kline.interval = interval)
    (increasing : history.Pairwise fun first second => first.openTime < second.openTime) : CoherentHistory history :=
  ⟨fun first listed second other => (all first listed).trans (all second other).symm, increasing⟩

theorem coherent_append_iff (page rest : List (MarketData α)) (first : MarketData α) (interval : String)
    (all : ∀ kline ∈ page, kline.interval = interval)
    (increasing : page.Pairwise fun first second => first.openTime < second.openTime) (found : page ≠ [])
    (kept : CoherentHistory (first :: rest)) :
    CoherentHistory (page ++ first :: rest) ↔
      first.interval = interval ∧ ∀ kline ∈ page, kline.openTime < first.openTime := by
  obtain ⟨newest, listed⟩ := List.exists_mem_of_ne_nil page found
  have after : ∀ kline ∈ rest, first.openTime < kline.openTime :=
    (List.pairwise_cons.mp kept.increasing).1
  constructor
  · intro joined
    refine ⟨?_, fun kline member => ?_⟩
    · exact (joined.interval first (by simp) newest (by simp [listed])).trans (all newest listed)
    · exact (List.pairwise_append.mp joined.increasing).2.2 kline member first (by simp)
  · rintro ⟨same, before⟩
    have one : ∀ kline ∈ page ++ first :: rest, kline.interval = interval := by
      intro kline member
      rcases List.mem_append.mp member with older | newer
      · exact all kline older
      · exact (kept.interval kline newer first (by simp)).trans same
    refine coherent_of_interval _ interval one (List.pairwise_append.mpr ⟨increasing, kept.increasing, ?_⟩)
    intro kline older other newer
    rcases List.mem_cons.mp newer with rfl | later
    · exact before kline older
    · exact lt_trans (before kline older) (after other later)

namespace HistoryLoad

theorem ordered_interval (load : HistoryLoad) (interval : TimeFrame) (table : KlineTable α) (kline : MarketData α)
    (listed : kline ∈ load.orderedKlines interval table) : kline.interval = interval.value := by
  have found := (table.get_klines_mem _ kline (List.mem_reverse.mp listed)).2
  exact ((KlineTable.selects_iff _ kline).mp found).2.1

theorem ordered_increasing (load : HistoryLoad) (interval : TimeFrame) (table : KlineTable α) :
    (load.orderedKlines interval table).Pairwise fun first second => first.openTime < second.openTime :=
  List.pairwise_reverse.mpr (table.get_klines_descending _ rfl)

end HistoryLoad

namespace OlderHistoryLoad

theorem ordered_mem_iff (load : OlderHistoryLoad) (interval : TimeFrame) (table : KlineTable α) (kline : MarketData α) :
    kline ∈ load.orderedKlines interval table ↔
      kline ∈ table.getKlines {
        symbol := load.symbol
        interval
        limit := load.limit
        endTime := some load.beforeTimestamp
        orderByDesc := true } ∧ kline.closeTime < load.beforeTimestamp := by
  simp [orderedKlines]

theorem ordered_interval (load : OlderHistoryLoad) (interval : TimeFrame) (table : KlineTable α) (kline : MarketData α)
    (listed : kline ∈ load.orderedKlines interval table) : kline.interval = interval.value := by
  have found := (table.get_klines_mem _ kline ((ordered_mem_iff load interval table kline).mp listed).1).2
  exact ((KlineTable.selects_iff _ kline).mp found).2.1

theorem ordered_increasing (load : OlderHistoryLoad) (interval : TimeFrame) (table : KlineTable α) :
    (load.orderedKlines interval table).Pairwise fun first second => first.openTime < second.openTime :=
  (List.pairwise_reverse.mpr (table.get_klines_descending _ rfl)).sublist List.filter_sublist

def OlderRow (load : OlderHistoryLoad) (row : MarketData α) : Prop :=
  row.symbol = load.symbol ∧ row.interval = load.interval ∧ row.openTime ≤ load.beforeTimestamp ∧
    row.closeTime < load.beforeTimestamp

theorem ordered_stored (load : OlderHistoryLoad) (interval : TimeFrame) (table : KlineTable α) (kline : MarketData α)
    (same : interval.value = load.interval) (listed : kline ∈ load.orderedKlines interval table) :
    kline ∈ table.rows ∧ load.OlderRow kline := by
  obtain ⟨found, closed⟩ := (ordered_mem_iff load interval table kline).mp listed
  obtain ⟨stored, selected⟩ := table.get_klines_mem _ kline found
  obtain ⟨symbol, ofInterval, _, opened⟩ := (KlineTable.selects_iff _ kline).mp selected
  exact ⟨stored, symbol, ofInterval.trans same, opened _ rfl, closed⟩

theorem ordered_before_iff (load : OlderHistoryLoad) (interval : TimeFrame) (table : KlineTable α) (time : ℤ)
    (same : interval.value = load.interval) (found : load.orderedKlines interval table ≠ []) :
    (∀ kline ∈ load.orderedKlines interval table, kline.openTime < time) ↔
      ∀ row ∈ table.rows, load.OlderRow row → row.openTime < time := by
  constructor
  · intro before row stored older
    by_cases listed : row ∈ load.orderedKlines interval table
    · exact before row listed
    · obtain ⟨kline, other⟩ := List.exists_mem_of_ne_nil _ found
      have missed := fun taken => listed ((ordered_mem_iff load interval table row).mpr ⟨taken, older.2.2.2⟩)
      refine lt_of_le_of_lt ?_ (before kline other)
      refine table.get_klines_cut _ rfl row kline stored ?_ missed ((ordered_mem_iff load interval table kline).mp other).1
      refine (KlineTable.selects_iff _ row).mpr ⟨older.1, older.2.1.trans same.symm, by simp, ?_⟩
      rintro limit ⟨⟩
      exact older.2.2.1
  · intro before kline listed
    obtain ⟨stored, older⟩ := ordered_stored load interval table kline same listed
    exact before kline stored older

end OlderHistoryLoad

-- The history begins with a candle of the page's interval, and what is stored
-- for the page opens before that candle.
def OlderHistoryLoad.Continues (load : OlderHistoryLoad) (answer : Option (KlineTable α))
    (history : List (MarketData α)) : Prop :=
  ∀ first ∈ history.head?, first.interval = load.interval ∧
    ∀ table ∈ answer, ∀ row ∈ table.rows, load.OlderRow row → row.openTime < first.openTime

namespace Dashboard

variable (dashboard : Dashboard α)

def KeptOf (interval : String) : Prop :=
  ∀ symbol ∈ dashboard.chartedSymbol, ∀ kline ∈ dashboard.rawKlinesBySymbol symbol, kline.interval = interval

structure ShowsOneSeries : Prop where
  coherent : ∀ symbol, CoherentHistory (dashboard.rawKlinesBySymbol symbol)
  selected : dashboard.loadPending = false → dashboard.KeptOf dashboard.activeInterval

-- What a result has to find when it arrives, and a change of the timeframe
-- when it is made.
def FitsSelection : DashboardEvent α → Prop
  | .timeframeChanged timeframe _ =>
      timeframe = dashboard.activeInterval ∨ dashboard.loadPending = true ∨
        dashboard.slot = none ∧ { dashboard with activeInterval := timeframe }.readAndValidateInputs.isSome = true ∨
        dashboard.KeptOf timeframe
  | .marketDataSynced raised =>
      ∀ action ∈ dashboard.slot,
        raised = false ∧ dashboard.isCancelled action.load.token = false ∨ dashboard.KeptOf dashboard.activeInterval
  | .historyLoaded answer =>
      ∀ action ∈ dashboard.slot,
        if dashboard.isCancelled action.load.token = false ∧ action.load.finds answer = true then
          action.load.interval = dashboard.activeInterval
        else dashboard.KeptOf dashboard.activeInterval
  | .olderHistoryLoaded index answer =>
      ∀ load ∈ dashboard.olderLoads[index]?,
        dashboard.isCancelled load.token = false → load.finds answer = true →
          load.Continues answer (dashboard.rawKlinesBySymbol load.symbol)
  | _ => True

instance decidableOlderRow (load : OlderHistoryLoad) (row : MarketData α) : Decidable (load.OlderRow row) :=
  inferInstanceAs (Decidable (_ ∧ _ ∧ _ ∧ _))

instance decidableContinues (load : OlderHistoryLoad) (answer : Option (KlineTable α)) (history : List (MarketData α)) :
    Decidable (load.Continues answer history) :=
  inferInstanceAs (Decidable (∀ first ∈ history.head?, _ ∧ ∀ table ∈ answer, ∀ row ∈ table.rows, _ → _ < _))

instance decidableKeptOf (interval : String) : Decidable (dashboard.KeptOf interval) :=
  inferInstanceAs (Decidable (∀ symbol ∈ dashboard.chartedSymbol, ∀ kline ∈ dashboard.rawKlinesBySymbol symbol, _ = _))

instance decidableFitsSelection : (event : DashboardEvent α) → Decidable (dashboard.FitsSelection event)
  | .inputsEdited _ => .isTrue trivial
  | .loadHistoryClicked => .isTrue trivial
  | .startStreamClicked => .isTrue trivial
  | .stopStreamClicked _ => .isTrue trivial
  | .timeframeChanged _ _ => inferInstanceAs (Decidable (_ ∨ _ ∨ _ ∧ _ ∨ _))
  | .nearLeftEdge _ _ => .isTrue trivial
  | .marketDataSynced _ => inferInstanceAs (Decidable (∀ action ∈ dashboard.slot, _ ∧ _ ∨ _))
  | .historyLoaded answer => inferInstanceAs (Decidable (∀ action ∈ dashboard.slot,
      if dashboard.isCancelled action.load.token = false ∧ action.load.finds answer = true then _ = _
      else dashboard.KeptOf _))
  | .streamStarted _ => .isTrue trivial
  | .actionDone => .isTrue trivial
  | .olderHistoryLoaded index _ => inferInstanceAs (Decidable (∀ load ∈ dashboard.olderLoads[index]?, _ → _ → _))
  | .signalDelivered _ => .isTrue trivial

-- A load is for the symbol on the dashboard, and older candles are only asked
-- for where some are kept.
structure Tracked : Prop where
  loading : ∀ action ∈ dashboard.slot, dashboard.chartedSymbol = some action.load.symbol
  shown : ∀ card ∈ dashboard.activeChart, card.rawHistory ≠ [] → dashboard.rawKlinesBySymbol card.symbol ≠ []
  signalled : ∀ symbol candles, UiSignal.historyReloaded symbol candles ∈ dashboard.signals →
    dashboard.rawKlinesBySymbol symbol ≠ []
  asked : ∀ load ∈ dashboard.olderLoads, dashboard.rawKlinesBySymbol load.symbol ≠ []

theorem Submitted.tracked (before next : Dashboard α) (submitted : Submitted before next) (tracked : before.Tracked) :
    next.Tracked where
  loading := by
    intro action held
    rcases submitted.started with ⟨slot, charted⟩ | ⟨started, heldNext, _, charted⟩
    · exact charted.trans (tracked.loading action (slot ▸ held))
    · cases heldNext.symm.trans held
      exact charted
  shown card listed filled := by
    rw [submitted.histories]
    exact tracked.shown card (submitted.card card listed filled) filled
  signalled symbol candles listed := by
    rw [submitted.histories]
    exact tracked.signalled symbol candles (submitted.signals ▸ listed)
  asked load listed := by
    rw [submitted.histories]
    exact tracked.asked load (submitted.olderLoads ▸ listed)

theorem Submitted.shows (before next : Dashboard α) (submitted : Submitted before next)
    (shows : before.ShowsOneSeries) : next.ShowsOneSeries where
  coherent symbol := by
    rw [submitted.histories]
    exact shows.coherent symbol
  selected quiet := by
    rcases submitted.started with ⟨slot, charted⟩ | ⟨action, held, pending, _⟩
    · rw [loadPending, slot] at quiet
      intro symbol chartedNext kline kept
      rw [submitted.interval]
      exact shows.selected quiet symbol (charted ▸ chartedNext) kline (submitted.histories ▸ kept)
    · simp [loadPending, held, pending] at quiet

theorem quiet_shows_iff (next : Dashboard α) (histories : next.rawKlinesBySymbol = dashboard.rawKlinesBySymbol)
    (interval : next.activeInterval = dashboard.activeInterval) (charted : next.chartedSymbol = dashboard.chartedSymbol)
    (quiet : next.loadPending = false) (shows : dashboard.ShowsOneSeries) :
    next.ShowsOneSeries ↔ dashboard.KeptOf dashboard.activeInterval := by
  have same : next.KeptOf next.activeInterval ↔ dashboard.KeptOf dashboard.activeInterval := by
    rw [KeptOf, KeptOf, histories, interval, charted]
  refine ⟨fun after => same.mp (after.selected quiet), fun kept => ⟨fun symbol => ?_, fun _ => same.mpr kept⟩⟩
  rw [histories]
  exact shows.coherent symbol

theorem unchanged_shows (next : Dashboard α) (histories : next.rawKlinesBySymbol = dashboard.rawKlinesBySymbol)
    (interval : next.activeInterval = dashboard.activeInterval) (charted : next.chartedSymbol = dashboard.chartedSymbol)
    (pending : next.loadPending = dashboard.loadPending) (shows : dashboard.ShowsOneSeries) : next.ShowsOneSeries where
  coherent symbol := by
    rw [histories]
    exact shows.coherent symbol
  selected quiet := by
    rw [KeptOf, histories, interval, charted]
    exact shows.selected (pending.symm.trans quiet)

theorem timeframe_changed_shows_iff (timeframe : String) (stopRaised : Bool) (shows : dashboard.ShowsOneSeries) :
    (dashboard.onTimeframeChanged timeframe stopRaised).ShowsOneSeries ↔
      dashboard.FitsSelection (.timeframeChanged timeframe stopRaised) := by
  by_cases same : timeframe = dashboard.activeInterval
  · rw [onTimeframeChanged, if_pos same]
    exact iff_of_true shows (.inl same)
  · rw [dashboard.timeframe_changed timeframe stopRaised same]
    have submitted := reload_submitted { dashboard with activeInterval := timeframe } stopRaised
    have pending := reload_pending_iff { dashboard with activeInterval := timeframe } stopRaised
    have coherent : ∀ symbol, CoherentHistory
        (({ dashboard with activeInterval := timeframe }.reload stopRaised).rawKlinesBySymbol symbol) := by
      intro symbol
      rw [submitted.histories]
      exact shows.coherent symbol
    by_cases started : ({ dashboard with activeInterval := timeframe }.reload stopRaised).loadPending = true
    · refine iff_of_true ⟨coherent, fun quiet => by simp [started] at quiet⟩ (.inr ?_)
      rcases pending.mp started with before | loads
      · exact .inl before
      · exact .inr (.inl loads)
    · have kept : ({ dashboard with activeInterval := timeframe }.reload stopRaised).KeptOf timeframe ↔
          dashboard.KeptOf timeframe := by
        rcases submitted.started with ⟨_, charted⟩ | ⟨action, held, loads, _⟩
        · rw [KeptOf, KeptOf, submitted.histories, charted]
          rfl
        · exact absurd (by simp [loadPending, held, loads]) started
      have interval := submitted.interval
      constructor
      · intro after
        have of := after.selected (by simpa using started)
        rw [interval] at of
        exact .inr (.inr (.inr (kept.mp of)))
      · rintro (equal | before | loads | of)
        · exact absurd equal same
        · exact absurd (pending.mpr (.inl before)) started
        · exact absurd (pending.mpr (.inr loads)) started
        · refine ⟨coherent, fun _ => ?_⟩
          rw [interval]
          exact kept.mpr of

theorem finish_sync_shows_iff (action : StreamAction) (raised : Bool) (shows : dashboard.ShowsOneSeries) :
    (dashboard.finishSync action raised).ShowsOneSeries ↔
      raised = false ∧ dashboard.isCancelled action.load.token = false ∨
        dashboard.KeptOf dashboard.activeInterval := by
  by_cases goesOn : raised = false ∧ dashboard.isCancelled action.load.token = false
  · refine iff_of_true ?_ (.inl goesOn)
    simp only [finishSync, goesOn]
    exact ⟨shows.coherent, fun quiet => by simp [loadPending, setPhase, StreamAction.loadPending] at quiet⟩
  · have quiet : (dashboard.finishSync action raised).loadPending = false ∧
        (dashboard.finishSync action raised).rawKlinesBySymbol = dashboard.rawKlinesBySymbol ∧
        (dashboard.finishSync action raised).activeInterval = dashboard.activeInterval ∧
        (dashboard.finishSync action raised).chartedSymbol = dashboard.chartedSymbol := by
      unfold finishSync
      split_ifs with fails cancelled
      · exact ⟨rfl, rfl, rfl, rfl⟩
      · exact ⟨rfl, rfl, rfl, rfl⟩
      · exact absurd ⟨by simpa using fails, by simpa using cancelled⟩ goesOn
    rw [dashboard.quiet_shows_iff _ quiet.2.1 quiet.2.2.1 quiet.2.2.2 quiet.1 shows]
    exact ⟨.inr, fun either => either.resolve_left goesOn⟩

theorem finish_load_shows_iff (action : StreamAction) (answer : Option (KlineTable α)) (shows : dashboard.ShowsOneSeries)
    (charted : dashboard.chartedSymbol = some action.load.symbol) :
    (dashboard.finishLoad action answer).ShowsOneSeries ↔
      if dashboard.isCancelled action.load.token = false ∧ action.load.finds answer = true then
        action.load.interval = dashboard.activeInterval
      else dashboard.KeptOf dashboard.activeInterval := by
  obtain ⟨phase, extra, after, quiet, _⟩ := dashboard.finish_load_after action answer
  rw [after]
  rcases dashboard.run_load_history_cases action.load answer with ⟨brings, interval, table, frame, found, ran⟩ | ⟨nothing, ran⟩
  · rw [if_pos brings, ran]
    have ofInterval := TimeFrame.of_value_value _ _ frame
    obtain ⟨kline, listed⟩ := List.exists_mem_of_ne_nil _ found
    have all := action.load.ordered_interval interval table
    constructor
    · intro one
      have kept := one.selected quiet action.load.symbol charted kline (by simpa using listed)
      exact (ofInterval.symm.trans (all kline listed).symm).trans kept
    · intro same
      refine ⟨fun symbol => ?_, fun _ symbol shown other kept => ?_⟩
      · by_cases loaded : symbol = action.load.symbol
        · subst loaded
          simpa using coherent_of_interval _ _ all (action.load.ordered_increasing interval table)
        · simpa [Function.update_of_ne loaded] using shows.coherent symbol
      · cases Option.some.inj (charted.symm.trans shown)
        exact ((all other (by simpa using kept)).trans ofInterval).trans same
  · rw [if_neg nothing, ran]
    exact dashboard.quiet_shows_iff _ rfl rfl rfl quiet shows

theorem load_more_shows_iff (load : OlderHistoryLoad) (answer : Option (KlineTable α)) (rest : List OlderHistoryLoad)
    (shows : dashboard.ShowsOneSeries) (asked : dashboard.rawKlinesBySymbol load.symbol ≠ []) :
    { dashboard.runLoadMoreHistory load answer with olderLoads := rest }.ShowsOneSeries ↔
      (dashboard.isCancelled load.token = false → load.finds answer = true →
        load.Continues answer (dashboard.rawKlinesBySymbol load.symbol)) := by
  rcases dashboard.run_load_more_cases load answer with
    ⟨runs, finds, interval, table, frame, read, found, ran⟩ | ⟨nothing, ran⟩
  · rw [ran]
    simp only [runs, finds, forall_const]
    obtain ⟨first, later, kept⟩ := List.exists_cons_of_ne_nil asked
    have ofInterval := TimeFrame.of_value_value _ _ frame
    have joined := coherent_append_iff (load.orderedKlines interval table) later first interval.value
      (load.ordered_interval interval table) (load.ordered_increasing interval table) found
      (kept ▸ shows.coherent load.symbol)
    rw [load.ordered_before_iff interval table first.openTime ofInterval found] at joined
    have continues : load.Continues answer (dashboard.rawKlinesBySymbol load.symbol) ↔
        CoherentHistory (load.orderedKlines interval table ++ dashboard.rawKlinesBySymbol load.symbol) := by
      rw [kept, joined, ofInterval]
      simp [OlderHistoryLoad.Continues, read]
    rw [continues]
    constructor
    · intro after
      simpa using after.coherent load.symbol
    · intro coherent
      refine ⟨fun symbol => ?_, fun quiet symbol shown kline listed => ?_⟩
      · by_cases loaded : symbol = load.symbol
        · subst loaded
          simpa using coherent
        · simpa [Function.update_of_ne loaded] using shows.coherent symbol
      · by_cases loaded : symbol = load.symbol
        · subst loaded
          have oldest : first ∈ load.orderedKlines interval table ++ dashboard.rawKlinesBySymbol load.symbol := by
            simp [kept]
          have selected := shows.selected quiet load.symbol shown first (by simp [kept])
          exact (coherent.interval kline (by simpa using listed) first oldest).trans selected
        · exact shows.selected quiet symbol shown kline (by simpa [Function.update_of_ne loaded] using listed)
  · rw [ran]
    refine iff_of_true ?_ fun runs finds => absurd ⟨runs, finds⟩ nothing
    exact dashboard.unchanged_shows _ rfl rfl rfl rfl shows

theorem step_shows_iff (event : DashboardEvent α) (next : Dashboard α) (tracked : dashboard.Tracked)
    (shows : dashboard.ShowsOneSeries) (moved : dashboard.step event = some next) :
    next.ShowsOneSeries ↔ dashboard.FitsSelection event := by
  cases event with
  | inputsEdited inputs =>
      cases moved
      exact iff_of_true (dashboard.unchanged_shows _ rfl rfl rfl rfl shows) trivial
  | loadHistoryClicked =>
      cases moved
      exact iff_of_true (dashboard.load_submitted.shows _ _ shows) trivial
  | startStreamClicked =>
      cases moved
      exact iff_of_true (dashboard.start_submitted.shows _ _ shows) trivial
  | stopStreamClicked raised =>
      cases moved
      exact iff_of_true ((dashboard.stop_submitted raised).shows _ _ shows) trivial
  | timeframeChanged timeframe stopRaised =>
      cases moved
      exact dashboard.timeframe_changed_shows_iff timeframe stopRaised shows
  | nearLeftEdge symbol now =>
      cases moved
      refine iff_of_true ?_ trivial
      rcases dashboard.near_left_edge_cases symbol now with same | ⟨_, _, _, _, _, _, asked⟩
      · rwa [same]
      · rw [asked]
        exact dashboard.unchanged_shows _ rfl rfl rfl rfl shows
  | marketDataSynced raised =>
      obtain ⟨action, held, _, rfl⟩ := (dashboard.synced_iff raised next).mp moved
      simp only [FitsSelection, held, Option.mem_some_iff, forall_eq']
      exact dashboard.finish_sync_shows_iff action raised shows
  | historyLoaded answer =>
      obtain ⟨action, held, _, rfl⟩ := (dashboard.loaded_iff answer next).mp moved
      simp only [FitsSelection, held, Option.mem_some_iff, forall_eq']
      exact dashboard.finish_load_shows_iff action answer shows (tracked.loading action held)
  | streamStarted succeeded =>
      obtain ⟨action, held, starting, rfl⟩ := (dashboard.started_iff succeeded next).mp moved
      refine iff_of_true (dashboard.unchanged_shows _ rfl rfl rfl ?_ shows) trivial
      simp [loadPending, setPhase, held, StreamAction.loadPending, starting]
  | actionDone =>
      obtain ⟨action, held, finished, rfl⟩ := (dashboard.done_iff next).mp moved
      refine iff_of_true (dashboard.unchanged_shows _ rfl rfl rfl ?_ shows) trivial
      simp [loadPending, held, StreamAction.loadPending, finished]
  | olderHistoryLoaded index answer =>
      obtain ⟨load, listed, rfl⟩ := (dashboard.older_iff index answer next).mp moved
      simp only [FitsSelection, listed, Option.mem_some_iff, forall_eq']
      exact dashboard.load_more_shows_iff load answer _ shows (tracked.asked load (List.mem_of_getElem? listed))
  | signalDelivered now =>
      obtain ⟨signal, rest, _, rfl⟩ := (dashboard.delivered_iff now next).mp moved
      obtain ⟨histories, interval, slot, _, _, charted⟩ := signal_frame { dashboard with signals := rest } now signal
      refine iff_of_true (dashboard.unchanged_shows _ histories interval charted ?_ shows) trivial
      rw [loadPending, slot]
      rfl

theorem finish_sync_tracked (action : StreamAction) (raised : Bool) (tracked : dashboard.Tracked)
    (held : dashboard.slot = some action) : (dashboard.finishSync action raised).Tracked := by
  have charted := tracked.loading action held
  unfold finishSync
  split_ifs
  · refine ⟨?_, tracked.shown, fun symbol candles listed => ?_, tracked.asked⟩
    · rintro other ⟨⟩
      exact charted
    · exact tracked.signalled symbol candles (by simpa [emit, setPhase] using listed)
  all_goals
    refine ⟨?_, tracked.shown, tracked.signalled, tracked.asked⟩
    rintro other ⟨⟩
    exact charted

theorem finish_load_tracked (action : StreamAction) (answer : Option (KlineTable α)) (tracked : dashboard.Tracked)
    (held : dashboard.slot = some action) : (dashboard.finishLoad action answer).Tracked := by
  have charted := tracked.loading action held
  have kept := dashboard.loaded_kept action.load answer
  obtain ⟨phase, extra, after, _, quiet⟩ := dashboard.finish_load_after action answer
  rw [after]
  rcases dashboard.run_load_history_cases action.load answer with ⟨_, interval, table, _, found, ran⟩ | ⟨_, ran⟩
  · rw [ran] at kept ⊢
    refine ⟨?_, fun card shown filled => kept _ (tracked.shown card shown filled), fun symbol candles listed => ?_,
      fun load listed => kept _ (tracked.asked load listed)⟩
    · rintro other ⟨⟩
      exact charted
    · rcases List.mem_append.mp listed with earlier | emitted
      · rcases List.mem_append.mp earlier with queued | reloaded
        · exact kept symbol (tracked.signalled symbol candles queued)
        · obtain ⟨rfl, _⟩ : symbol = action.load.symbol ∧ _ := by simpa using reloaded
          simpa using found
      · exact absurd emitted (quiet symbol candles)
  · rw [ran]
    refine ⟨?_, tracked.shown, fun symbol candles listed => ?_, tracked.asked⟩
    · rintro other ⟨⟩
      exact charted
    · exact tracked.signalled symbol candles ((List.mem_append.mp listed).resolve_right (quiet symbol candles))

theorem load_more_tracked (load : OlderHistoryLoad) (answer : Option (KlineTable α)) (rest : List OlderHistoryLoad)
    (tracked : dashboard.Tracked) (fewer : ∀ other ∈ rest, other ∈ dashboard.olderLoads) :
    { dashboard.runLoadMoreHistory load answer with olderLoads := rest }.Tracked := by
  have kept := dashboard.older_kept load answer
  rcases dashboard.run_load_more_cases load answer with ⟨_, _, interval, table, _, _, found, ran⟩ | ⟨_, ran⟩ <;>
    rw [ran] at kept ⊢
  all_goals
    refine ⟨tracked.loading, fun card shown filled => kept _ (tracked.shown card shown filled), fun symbol candles listed => ?_,
      fun other listed => kept _ (tracked.asked other (fewer other listed))⟩
    exact kept symbol (tracked.signalled symbol candles (by simpa using listed))

theorem signal_tracked (now : ℤ) (signal : UiSignal α) (rest : List (UiSignal α)) (tracked : dashboard.Tracked)
    (queued : dashboard.signals = signal :: rest) : ({ dashboard with signals := rest }.onSignal now signal).Tracked := by
  obtain ⟨histories, _, slot, olderLoads, signals, charted⟩ := signal_frame { dashboard with signals := rest } now signal
  refine ⟨?_, fun card shown filled => ?_, fun symbol candles listed => ?_, ?_⟩
  · rw [slot, charted]
    exact tracked.loading
  · rw [histories]
    rcases signal_card _ now signal card shown filled with ⟨before, shownBefore, same, filledBefore⟩ | ⟨candles, reloaded⟩
    · exact same ▸ tracked.shown before shownBefore filledBefore
    · exact tracked.signalled card.symbol candles (by simp [queued, reloaded])
  · rw [histories]
    rw [signals] at listed
    exact tracked.signalled symbol candles (by simp [queued, show _ ∈ rest from listed])
  · rw [olderLoads, histories]
    exact tracked.asked

theorem step_tracked (event : DashboardEvent α) (next : Dashboard α) (tracked : dashboard.Tracked)
    (moved : dashboard.step event = some next) : next.Tracked := by
  cases event with
  | inputsEdited inputs =>
      cases moved
      exact ⟨tracked.loading, tracked.shown, tracked.signalled, tracked.asked⟩
  | loadHistoryClicked =>
      cases moved
      exact dashboard.load_submitted.tracked _ _ tracked
  | startStreamClicked =>
      cases moved
      exact dashboard.start_submitted.tracked _ _ tracked
  | stopStreamClicked raised =>
      cases moved
      exact (dashboard.stop_submitted raised).tracked _ _ tracked
  | timeframeChanged timeframe stopRaised =>
      cases moved
      by_cases same : timeframe = dashboard.activeInterval
      · rwa [onTimeframeChanged, if_pos same]
      · rw [dashboard.timeframe_changed timeframe stopRaised same]
        refine (reload_submitted { dashboard with activeInterval := timeframe } stopRaised).tracked _ _ ?_
        exact ⟨tracked.loading, tracked.shown, tracked.signalled, tracked.asked⟩
  | nearLeftEdge symbol now =>
      cases moved
      rcases dashboard.near_left_edge_cases symbol now with same | ⟨card, pagination, load, shown, filled, named, asked⟩
      · rwa [same]
      · rw [asked]
        refine ⟨tracked.loading, tracked.shown, tracked.signalled, fun other listed => ?_⟩
        rcases List.mem_append.mp listed with before | added
        · exact tracked.asked other before
        · rw [List.mem_singleton.mp added, named]
          exact tracked.shown card shown filled
  | marketDataSynced raised =>
      obtain ⟨action, held, _, rfl⟩ := (dashboard.synced_iff raised next).mp moved
      exact dashboard.finish_sync_tracked action raised tracked held
  | historyLoaded answer =>
      obtain ⟨action, held, _, rfl⟩ := (dashboard.loaded_iff answer next).mp moved
      exact dashboard.finish_load_tracked action answer tracked held
  | streamStarted succeeded =>
      obtain ⟨action, held, _, rfl⟩ := (dashboard.started_iff succeeded next).mp moved
      refine ⟨?_, tracked.shown, fun symbol candles listed => ?_, tracked.asked⟩
      · rintro other ⟨⟩
        exact tracked.loading action held
      · refine tracked.signalled symbol candles ?_
        cases succeeded <;> simpa [emit, setPhase] using listed
  | actionDone =>
      obtain ⟨action, _, _, rfl⟩ := (dashboard.done_iff next).mp moved
      exact ⟨by simp, tracked.shown, tracked.signalled, tracked.asked⟩
  | olderHistoryLoaded index answer =>
      obtain ⟨load, _, rfl⟩ := (dashboard.older_iff index answer next).mp moved
      exact dashboard.load_more_tracked load answer _ tracked fun other listed => List.mem_of_mem_eraseIdx listed
  | signalDelivered now =>
      obtain ⟨signal, rest, queued, rfl⟩ := (dashboard.delivered_iff now next).mp moved
      exact dashboard.signal_tracked now signal rest tracked queued

theorem opened_tracked (activeInterval : String) (inputs : DashboardInputs) :
    (opened activeInterval inputs : Dashboard α).Tracked := by
  refine ⟨?_, ?_, ?_, ?_⟩ <;> simp [opened]

theorem opened_shows (activeInterval : String) (inputs : DashboardInputs) :
    (opened activeInterval inputs : Dashboard α).ShowsOneSeries :=
  ⟨fun _ => coherent_nil, fun _ symbol shown => by cases shown⟩

end Dashboard

-- In every run from the screen's start the histories are of one interval and
-- in increasing open time, and the one on the dashboard is of the selected
-- interval whenever no load is pending, exactly as long as every step fits.
theorem chart_shows_one_series_iff (activeInterval : String) (inputs : DashboardInputs)
    (events : List (DashboardEvent α)) (final : Dashboard α)
    (completed : Interleaving.run Dashboard.step (.opened activeInterval inputs) events = some final) :
    Interleaving.Throughout Dashboard.step Dashboard.ShowsOneSeries (.opened activeInterval inputs) events ↔
      Interleaving.StepsMeet Dashboard.step Dashboard.FitsSelection (.opened activeInterval inputs) events :=
  Interleaving.run_throughout_iff Dashboard.step Dashboard.FitsSelection Dashboard.Tracked Dashboard.ShowsOneSeries
    (fun dashboard event next tracked moved => dashboard.step_tracked event next tracked moved)
    (fun dashboard event next tracked shows moved => dashboard.step_shows_iff event next tracked shows moved)
    events _ final (Dashboard.opened_tracked activeInterval inputs) (Dashboard.opened_shows activeInterval inputs) completed

def minuteTable : KlineTable ℚ where
  rows := [minuteKline 100 0, minuteKline 101 1, minuteKline 102 2, { minuteKline 102 2 with interval := "5m" }]
  keys := by decide

def minuteInputs : DashboardInputs := {
  symbol := "BTCUSDT"
  startDate := some (minuteKline 102 2).openTime
  endDate := some (minuteKline 102 9).openTime }

def pageAsked : List (DashboardEvent ℚ) :=
  [.loadHistoryClicked, .historyLoaded (some minuteTable), .actionDone, .signalDelivered 0, .nearLeftEdge "BTCUSDT" 0]

theorem page_before_change_shows_one_series :
    let events := pageAsked ++
      [.olderHistoryLoaded 0 (some minuteTable), .timeframeChanged "5m" false, .historyLoaded (some minuteTable)]
    Interleaving.Throughout Dashboard.step Dashboard.ShowsOneSeries (.opened "1m" minuteInputs) events := by
  intro events
  have completes : (Interleaving.run Dashboard.step (.opened "1m" minuteInputs) events).isSome = true := by decide +kernel
  obtain ⟨final, completed⟩ := Option.isSome_iff_exists.mp completes
  exact (chart_shows_one_series_iff "1m" minuteInputs events final completed).mpr (by decide +kernel)

theorem stale_page_mixes_intervals :
    let events := pageAsked ++
      [.timeframeChanged "5m" false, .historyLoaded (some minuteTable), .olderHistoryLoaded 0 (some minuteTable)]
    (Interleaving.run Dashboard.step (.opened "1m" minuteInputs) events).map (fun dashboard =>
        (dashboard.rawKlinesBySymbol "BTCUSDT").map fun kline => (kline.interval, kline.openTime)) =
      some [("1m", 0), ("1m", 60000000), ("5m", 120000000)] ∧
      ¬ Interleaving.Throughout Dashboard.step Dashboard.ShowsOneSeries (.opened "1m" minuteInputs) events := by
  intro events
  have kept : (Interleaving.run Dashboard.step (.opened "1m" minuteInputs) events).map (fun dashboard =>
        (dashboard.rawKlinesBySymbol "BTCUSDT").map fun kline => (kline.interval, kline.openTime)) =
      some [("1m", 0), ("1m", 60000000), ("5m", 120000000)] := by decide +kernel
  refine ⟨kept, fun all => ?_⟩
  obtain ⟨final, completed, history⟩ := Option.map_eq_some_iff.mp kept
  have coherent := (Interleaving.throughout_end _ _ events _ final all completed).coherent "BTCUSDT"
  have minute : ("1m", 0) ∈ (final.rawKlinesBySymbol "BTCUSDT").map fun kline => (kline.interval, kline.openTime) := by
    simp [history]
  have fiveMinutes : ("5m", 120000000) ∈
      (final.rawKlinesBySymbol "BTCUSDT").map fun kline => (kline.interval, kline.openTime) := by
    simp [history]
  obtain ⟨first, listed, firstIs⟩ := List.mem_map.mp minute
  obtain ⟨second, other, secondIs⟩ := List.mem_map.mp fiveMinutes
  have same : "1m" = "5m" := calc
    "1m" = first.interval := (Prod.ext_iff.mp firstIs).1.symm
    _ = second.interval := coherent.interval first listed second other
    _ = "5m" := (Prod.ext_iff.mp secondIs).1
  exact absurd same (by decide)

end Sagittarius
