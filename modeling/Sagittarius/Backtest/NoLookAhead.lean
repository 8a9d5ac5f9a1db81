import Sagittarius.Backtest.Conservation
import Sagittarius.Backtest.StaticRun
import Sagittarius.Backtest.TradeOrigins
import Sagittarius.Live.LiveStrategySession

set_option autoImplicit false

namespace Sagittarius

variable {α : Type} [PyFloat α]

namespace StaticRun

def calls (run : StaticRun α) (candle : MarketData α) : List (ExchangeCall α) :=
  (run.pendingSignal.map fun signal => .fill signal candle.openPrice candle.openTime).toList ++
    [.checkIntrabarStops candle.highPrice candle.lowPrice candle.closeTime]

theorem checked_runs (run : StaticRun α) (candle : MarketData α) :
    run.checked candle = run.exchange.run (run.calls candle) := by
  unfold checked filled PaperExchange.fillAny calls
  cases run.pendingSignal <;> rfl

def closedInBar (run : StaticRun α) (candle : MarketData α) : List (Trade α) :=
  (run.checked candle).trades.drop run.exchange.trades.length

def closedPerBar : StaticRun α → List (MarketData α) → List (List (Trade α))
  | _, [] => []
  | run, candle :: rest =>
      match run.bar candle with
      | .error _ => []
      | .ok next => run.closedInBar candle :: next.closedPerBar rest

theorem closed_per_bar_take (run : StaticRun α) (klines : List (MarketData α)) (n : ℕ) :
    (run.closedPerBar klines).take n = run.closedPerBar (klines.take n) := by
  induction klines generalizing run n with
  | nil => simp [closedPerBar]
  | cons candle rest ih =>
      cases n with
      | zero => rfl
      | succ n =>
          cases stepped : run.bar candle with
          | error raised => simp [closedPerBar, stepped]
          | ok next => simp [closedPerBar, stepped, ih]

theorem checked_trades (run : StaticRun α) (candle : MarketData α) :
    (run.checked candle).trades = run.exchange.trades ++ run.closedInBar candle := by
  obtain ⟨closed, grown⟩ := run.checked_runs candle ▸ run.exchange.run_trades_grow (run.calls candle)
  rw [closedInBar, ← grown, List.drop_left]

theorem closed_in_bar_splits (run : StaticRun α) (candle : MarketData α) :
    ∃ signalled, (∀ trade ∈ signalled, trade.exitReason = .strategySignal) ∧
      run.closedInBar candle = signalled ++ ((run.filled candle).closings
        (.checkIntrabarStops candle.highPrice candle.lowPrice candle.closeTime)).map
          ((run.filled candle).closingTrade candle.closeTime) := by
  have stops := PaperExchange.perform_trades (run.filled candle)
    (.checkIntrabarStops candle.highPrice candle.lowPrice candle.closeTime)
  have whole := run.checked_trades candle
  obtain ⟨signalled, filledTrades, reasons⟩ : ∃ signalled, (run.filled candle).trades = run.exchange.trades ++ signalled ∧
      ∀ trade ∈ signalled, trade.exitReason = .strategySignal := by
    unfold filled PaperExchange.fillAny
    cases pending : run.pendingSignal with
    | none => exact ⟨[], by simp, by simp⟩
    | some signal =>
        refine ⟨_, PaperExchange.perform_trades run.exchange (.fill signal candle.openPrice candle.openTime), ?_⟩
        intro trade closedBySignal
        obtain ⟨closing, closes, rfl⟩ := List.mem_map.mp closedBySignal
        have exits := (run.exchange.closings_fill signal _ _ closing closes).2
        simp [PaperExchange.closingTrade, PaperExchange.closeOnePosition, exits]
  refine ⟨signalled, reasons, ?_⟩
  rw [filledTrades, List.append_assoc] at stops
  exact List.append_cancel_left (whole.symm.trans stops)

theorem closed_in_bar_reason (run : StaticRun α) (candle : MarketData α) (trade : Trade α)
    (closed : trade ∈ run.closedInBar candle) : trade.exitReason ≠ .endOfBacktest := by
  obtain ⟨signalled, reasons, split⟩ := run.closed_in_bar_splits candle
  rw [split] at closed
  rcases List.mem_append.mp closed with bySignal | byStop
  · rw [reasons trade bySignal]
    simp
  · obtain ⟨closing, closes, rfl⟩ := List.mem_map.mp byStop
    have reason : ((run.filled candle).closingTrade candle.closeTime closing).exitReason = closing.2.2 := rfl
    rw [reason]
    rcases (PaperExchange.closings_stops _ _ _ _ closing closes).2 with stopped | targeted
    · simp [stopped]
    · simp [targeted]

theorem replay_cons (run final : StaticRun α) (candle : MarketData α) (rest : List (MarketData α))
    (replayed : run.replay (candle :: rest) = .ok final) :
    ∃ next, run.bar candle = .ok next ∧ next.replay rest = .ok final :=
  (Streaming.fold_cons bar run final candle rest).mp replayed

theorem replay_trades (run final : StaticRun α) (klines : List (MarketData α))
    (replayed : run.replay klines = .ok final) :
    final.exchange.trades = run.exchange.trades ++ (run.closedPerBar klines).flatten := by
  induction klines generalizing run with
  | nil =>
      cases replayed
      simp [closedPerBar]
  | cons candle rest ih =>
      obtain ⟨next, stepped, continued⟩ := run.replay_cons final candle rest replayed
      obtain ⟨_, exchanged, _⟩ := run.bar_cases next candle stepped
      rw [ih next continued, exchanged, checked_trades]
      simp [closedPerBar, stepped]

theorem replay_curve (run final : StaticRun α) (klines : List (MarketData α))
    (replayed : run.replay klines = .ok final) :
    run.equityCurve <+: final.equityCurve ∧ final.equityCurve.length = run.equityCurve.length + klines.length := by
  induction klines generalizing run with
  | nil =>
      cases replayed
      exact ⟨List.prefix_rfl, rfl⟩
  | cons candle rest ih =>
      obtain ⟨next, stepped, continued⟩ := run.replay_cons final candle rest replayed
      obtain ⟨_, _, curve⟩ := run.bar_cases next candle stepped
      obtain ⟨grown, counted⟩ := ih next continued
      rw [curve] at grown counted
      refine ⟨(List.prefix_append _ _).trans grown, ?_⟩
      simp only [List.length_append, List.length_cons, List.length_nil] at counted ⊢
      omega

theorem replay_curve_take (command : BacktestCommand α) (exchange : PaperExchange α) (final middle : StaticRun α)
    (klines : List (MarketData α)) (n : ℕ) (replayed : (start command exchange).replay klines = .ok final)
    (stopped : (start command exchange).replay (klines.take n) = .ok middle) :
    final.equityCurve.take n = middle.equityCurve := by
  obtain ⟨reached, shortened, continued⟩ :=
    Streaming.fold_split bar (start command exchange) final klines replayed n
  have same : reached = middle := Except.ok.inj (shortened.symm.trans stopped)
  subst same
  have grown := (reached.replay_curve final (klines.drop n) continued).1
  have whole := ((start command exchange).replay_curve final klines replayed).2
  have counted := ((start command exchange).replay_curve reached (klines.take n) stopped).2
  have agrees := List.prefix_iff_eq_take.mp grown
  simp only [start, List.length_nil, List.length_take, zero_add] at whole counted
  rw [agrees, counted, ← List.take_take, List.take_of_length_le (i := klines.length) (by omega)]

theorem closed_per_bar_reason (run : StaticRun α) (klines : List (MarketData α)) (trade : Trade α)
    (closed : trade ∈ (run.closedPerBar klines).flatten) : trade.exitReason ≠ .endOfBacktest := by
  induction klines generalizing run with
  | nil => simp [closedPerBar] at closed
  | cons candle rest ih =>
      cases stepped : run.bar candle with
      | error raised => simp [closedPerBar, stepped] at closed
      | ok next =>
          simp only [closedPerBar, stepped, List.flatten_cons, List.mem_append] at closed
          rcases closed with here | later
          · exact run.closed_in_bar_reason candle trade here
          · exact ih next later

theorem closed_per_bar_length (run final : StaticRun α) (klines : List (MarketData α))
    (replayed : run.replay klines = .ok final) : (run.closedPerBar klines).length = klines.length := by
  induction klines generalizing run with
  | nil => rfl
  | cons candle rest ih =>
      obtain ⟨next, stepped, continued⟩ := run.replay_cons final candle rest replayed
      simp [closedPerBar, stepped, ih next continued]

-- The close of bar i made `on_tick` return the signal.
def Signalled (origin : StaticRun α) (klines : List (MarketData α)) (i : ℕ) (signal : Signal α) : Prop :=
  ∃ before candle engine, klines[i]? = some candle ∧ origin.replay (klines.take i) = .ok before ∧
    before.engine.onTick candle (before.checked candle).currentSide = .ok (some signal, engine)

-- A fill at the open of a bar later than the one that gave the signal.
def FilledLater (origin : StaticRun α) (klines : List (MarketData α)) (action : SignalAction)
    (holds : Signal α → MarketData α → Prop) : Prop :=
  ∃ i j signal candle, i < j ∧ origin.Signalled klines i signal ∧ klines[j]? = some candle ∧ signal.action = action ∧
    holds signal candle

def EnteredAtOpen (origin : StaticRun α) (klines : List (MarketData α)) (record : EntryRecord α) : Prop :=
  origin.FilledLater klines record.side.entryAction fun signal candle =>
    record.entryTime = candle.openTime ∧
      record.entryPrice = origin.exchange.entryEffectivePrice record.side candle.openPrice ∧
      record.entryReason = signal.reason ∧ record.metadata = signal.metadata

def ExitedAtOpen (origin : StaticRun α) (klines : List (MarketData α)) (trade : Trade α) : Prop :=
  origin.FilledLater klines trade.side.exitAction fun _ candle =>
    trade.exitTime = candle.openTime ∧
      trade.exitPrice = origin.exchange.exitEffectivePrice trade.side candle.openPrice

theorem get_snoc {β : Type} (done : List β) (last found : β) (i : ℕ) (at_ : done[i]? = some found) :
    (done ++ [last])[i]? = some found := by
  obtain ⟨within, _⟩ := List.getElem?_eq_some_iff.mp at_
  rw [List.getElem?_append_left within]
  exact at_

theorem signalled_snoc (origin : StaticRun α) (done : List (MarketData α)) (candle : MarketData α) (i : ℕ)
    (signal : Signal α) (signalled : origin.Signalled done i signal) :
    origin.Signalled (done ++ [candle]) i signal := by
  obtain ⟨before, triggering, engine, bar, replayed, ticked⟩ := signalled
  obtain ⟨within, _⟩ := List.getElem?_eq_some_iff.mp bar
  refine ⟨before, triggering, engine, get_snoc done candle triggering i bar, ?_, ticked⟩
  rw [List.take_append_of_le_length within.le]
  exact replayed

theorem filled_later_snoc (origin : StaticRun α) (done : List (MarketData α)) (candle : MarketData α)
    (action : SignalAction) (holds : Signal α → MarketData α → Prop) (filled : origin.FilledLater done action holds) :
    origin.FilledLater (done ++ [candle]) action holds := by
  obtain ⟨i, j, signal, filling, later, signalled, bar, rest⟩ := filled
  exact ⟨i, j, signal, filling, later, origin.signalled_snoc done candle i signal signalled,
    get_snoc done candle filling j bar, rest⟩

-- Every fill on record came from a bar before the one it is filled on.
structure AccountTraced (origin : StaticRun α) (klines : List (MarketData α)) (exchange : PaperExchange α) : Prop where
  configured : exchange.brokerConfig = origin.exchange.brokerConfig
  positions : ∀ position ∈ exchange.positions, origin.EnteredAtOpen klines position.record
  entries : ∀ trade ∈ exchange.trades, origin.EnteredAtOpen klines trade.record
  exits : ∀ trade ∈ exchange.trades, trade.exitReason = .strategySignal → origin.ExitedAtOpen klines trade

structure Traced (origin : StaticRun α) (done : List (MarketData α)) (run : StaticRun α) : Prop where
  replayed : origin.replay done = .ok run
  pending : ∀ signal, run.pendingSignal = some signal → ∃ i, i + 1 = done.length ∧ origin.Signalled done i signal
  account : origin.AccountTraced done run.exchange

theorem call_traced (origin : StaticRun α) (klines : List (MarketData α)) (exchange : PaperExchange α)
    (call : ExchangeCall α) (traced : origin.AccountTraced klines exchange)
    (opens : ∀ position, exchange.accepts call = some position → origin.EnteredAtOpen klines position.record)
    (closes : ∀ closing ∈ exchange.closings call, closing.2.2 = .strategySignal →
      origin.ExitedAtOpen klines (exchange.closingTrade call.time closing)) :
    origin.AccountTraced klines (exchange.perform call) where
  configured := (exchange.perform_fixed call).2.trans traced.configured
  positions := by
    intro position held
    rcases exchange.perform_position_origin call position held with earlier | opened
    · exact traced.positions position earlier
    · exact opens position opened
  entries := by
    intro trade recorded
    rcases exchange.perform_trade_origin call trade recorded with earlier | ⟨closing, _, held, rfl⟩
    · exact traced.entries trade earlier
    · exact traced.positions closing.1 held
  exits := by
    intro trade recorded bySignal
    rcases exchange.perform_trade_origin call trade recorded with earlier | ⟨closing, closed, _, rfl⟩
    · exact traced.exits trade earlier bySignal
    · exact closes closing closed bySignal

theorem account_traced_snoc (origin : StaticRun α) (done : List (MarketData α)) (candle : MarketData α)
    (exchange : PaperExchange α) (traced : origin.AccountTraced done exchange) :
    origin.AccountTraced (done ++ [candle]) exchange where
  configured := traced.configured
  positions := fun position held => origin.filled_later_snoc done candle _ _ (traced.positions position held)
  entries := fun trade recorded => origin.filled_later_snoc done candle _ _ (traced.entries trade recorded)
  exits := fun trade recorded bySignal =>
    origin.filled_later_snoc done candle _ _ (traced.exits trade recorded bySignal)

-- A pending signal is filled at the open of the bar after the one it came from.
theorem filled_traced (origin : StaticRun α) (done : List (MarketData α)) (run : StaticRun α) (candle : MarketData α)
    (traced : origin.Traced done run) : origin.AccountTraced (done ++ [candle]) (run.filled candle) := by
  have account := origin.account_traced_snoc done candle run.exchange traced.account
  unfold filled PaperExchange.fillAny
  cases pending : run.pendingSignal with
  | none => exact account
  | some signal =>
      obtain ⟨i, last, signalled⟩ := traced.pending signal pending
      have later := origin.signalled_snoc done candle i signal signalled
      have bar : (done ++ [candle])[i + 1]? = some candle := by simp [last]
      have delta : run.exchange.slippageDelta = origin.exchange.slippageDelta := by
        simp only [PaperExchange.slippageDelta, account.configured]
      refine origin.call_traced _ run.exchange (.fill signal candle.openPrice candle.openTime) account ?_ ?_
      · intro position accepted
        obtain ⟨acts, recorded⟩ := run.exchange.accepts_fill signal _ _ position accepted
        refine ⟨i, i + 1, signal, candle, Nat.lt_succ_self i, later, bar, acts, ?_⟩
        rw [recorded, PaperExchange.entryEffectivePrice, delta]
        exact ⟨rfl, rfl, rfl, rfl⟩
      · intro closing closed _
        obtain ⟨acts, exits⟩ := run.exchange.closings_fill signal _ _ closing closed
        refine ⟨i, i + 1, signal, candle, Nat.lt_succ_self i, later, bar, acts, rfl, ?_⟩
        simp only [PaperExchange.closingTrade, PaperExchange.closeOnePosition, exits, PaperExchange.exitEffectivePrice,
          delta]

theorem bar_traced (origin : StaticRun α) (done : List (MarketData α)) (run : StaticRun α) (candle : MarketData α)
    (next : StaticRun α) (traced : origin.Traced done run) (stepped : run.bar candle = .ok next) :
    origin.Traced (done ++ [candle]) next := by
  obtain ⟨ticked, exchanged, _⟩ := run.bar_cases next candle stepped
  refine ⟨?_, ?_, ?_⟩
  · exact (Streaming.fold_snoc bar origin next done candle).mpr ⟨run, traced.replayed, stepped⟩
  · intro signal pending
    refine ⟨done.length, by simp, run, candle, next.engine, by simp, ?_, ?_⟩
    · rw [List.take_left]
      exact traced.replayed
    · rw [ticked, pending]
  · rw [exchanged]
    refine origin.call_traced _ (run.filled candle) (.checkIntrabarStops _ _ _)
      (origin.filled_traced done run candle traced) (by simp [PaperExchange.accepts]) ?_
    intro closing closed bySignal
    rcases (PaperExchange.closings_stops _ _ _ _ closing closed).2 with stopped | targeted
    · rw [stopped] at bySignal
      cases bySignal
    · rw [targeted] at bySignal
      cases bySignal

theorem replay_traced (command : BacktestCommand α) (exchange : PaperExchange α) (run : StaticRun α)
    (klines : List (MarketData α)) (funded : command.exchange = some exchange)
    (replayed : (start command exchange).replay klines = .ok run) :
    (start command exchange).Traced klines run := by
  obtain ⟨_, _, positions, trades⟩ := PaperExchange.create_fresh _ _ _ _ _ exchange funded
  refine Streaming.fold_invariant bar (start command exchange).Traced
    (fun done state candle next traced stepped => bar_traced _ done state candle next traced stepped)
    (start command exchange) run klines ⟨rfl, by simp [start], ?_⟩ replayed
  exact ⟨rfl, by simp [start, positions], by simp [start, trades], by simp [start, trades]⟩

theorem result_trades (command : BacktestCommand α) (exchange : PaperExchange α) (run : StaticRun α)
    (klines : List (MarketData α)) (last : MarketData α)
    (traced : (start command exchange).AccountTraced klines run.exchange) :
    ∀ trade ∈ (run.result command last).trades, (start command exchange).EnteredAtOpen klines trade.record ∧
      (trade.exitReason = .strategySignal → (start command exchange).ExitedAtOpen klines trade) := by
  have closed := (start command exchange).call_traced klines run.exchange
    (.forceClose last.closePrice last.closeTime) traced (by simp [PaperExchange.accepts]) (by
      intro closing closes bySignal
      rw [run.exchange.closings_force _ _ closing closes] at bySignal
      cases bySignal)
  exact fun trade recorded => ⟨closed.entries trade recorded, closed.exits trade recorded⟩

theorem result_closed_in_bars (command : BacktestCommand α) (exchange : PaperExchange α) (run : StaticRun α)
    (klines : List (MarketData α)) (last : MarketData α) (funded : command.exchange = some exchange)
    (replayed : (start command exchange).replay klines = .ok run) :
    (run.result command last).trades.filter (·.exitReason ≠ .endOfBacktest) =
      ((start command exchange).closedPerBar klines).flatten := by
  have fresh : (start command exchange).exchange.trades = [] :=
    (PaperExchange.create_fresh _ _ _ _ _ exchange funded).2.2.2
  have forced := run.exchange.perform_trades (.forceClose last.closePrice last.closeTime)
  have closed := (start command exchange).replay_trades run klines replayed
  rw [fresh, List.nil_append] at closed
  have split : (run.result command last).trades = ((start command exchange).closedPerBar klines).flatten ++
      (run.exchange.closings (.forceClose last.closePrice last.closeTime)).map
        (run.exchange.closingTrade last.closeTime) := by
    rw [← closed]
    exact forced
  rw [split, List.filter_append, List.filter_eq_self.mpr, List.filter_eq_nil_iff.mpr, List.append_nil]
  · intro trade ended
    obtain ⟨closing, closes, rfl⟩ := List.mem_map.mp ended
    have reason := run.exchange.closings_force _ _ closing closes
    simp [PaperExchange.closingTrade, PaperExchange.closeOnePosition, reason]
  · intro trade inBar
    simpa using closed_per_bar_reason _ klines trade inBar

end StaticRun

def Simulates (command : BacktestCommand α) (klines : List (MarketData α)) (result : BacktestResult α) : Prop :=
  ∃ phase phaseBarCount completedBefore totalBars,
    simulate command phase phaseBarCount completedBefore totalBars klines = .ok result

theorem simulated_curves_agree (command : BacktestCommand α) (first second : List (MarketData α)) (n : ℕ)
    (result other : BacktestResult α) (shared : first.take n = second.take n) (ran : Simulates command first result)
    (ranOther : Simulates command second other) : result.equityCurve.take n = other.equityCurve.take n := by
  obtain ⟨_, _, _, _, simulated⟩ := ran
  obtain ⟨_, _, _, _, simulatedOther⟩ := ranOther
  obtain ⟨exchange, run, last, funded, replayed, _, rfl⟩ := simulate_replays _ _ _ _ _ _ _ simulated
  obtain ⟨same, otherRun, otherLast, fundedToo, replayedToo, _, rfl⟩ := simulate_replays _ _ _ _ _ _ _ simulatedOther
  cases funded.symm.trans fundedToo
  obtain ⟨middle, stopped, _⟩ := Streaming.fold_split StaticRun.bar _ run first replayed n
  have stoppedToo : (StaticRun.start command exchange).replay (second.take n) = .ok middle := shared ▸ stopped
  exact (StaticRun.replay_curve_take command exchange run middle first n replayed stopped).trans
    (StaticRun.replay_curve_take command exchange otherRun middle second n replayedToo stoppedToo).symm

theorem static_phases (command : BacktestCommand α) (rows : List (MarketData α)) (outcome : StaticBacktest α)
    (executed : runStaticBacktest command rows = .ok (some outcome)) :
    let totalCount := command.limit.elim rows.length (min · rows.length)
    Simulates command (rows.take totalCount) outcome.full ∧
      ∀ validation, outcome.outOfSample = some validation →
        ∃ inSampleCount, inSampleCount ≤ totalCount ∧ Simulates command (rows.take inSampleCount) validation.inSample := by
  unfold runStaticBacktest at executed
  dsimp only at executed ⊢
  generalize command.limit.elim rows.length (min · rows.length) = totalCount at executed ⊢
  split_ifs at executed with empty validates
  · cases executed
  · have bounded : (splitCountForOutOfSample totalCount (defaultInSampleRatio : α)).1 ≤ totalCount := by
      have remaining := validates.2
      simp only [splitCountForOutOfSample] at remaining ⊢
      omega
    generalize splitCountForOutOfSample totalCount (defaultInSampleRatio : α) = counts at executed bounded
    cases inRan : simulate command "in_sample" counts.1 0 (totalCount * 2) (streamKlines rows 0 counts.1) with
    | error stopped =>
        rw [inRan] at executed
        cases executed
    | ok inSample =>
        cases outRan : simulate command "out_of_sample" counts.2 counts.1 (totalCount * 2)
            (streamKlines rows counts.1 counts.2) with
        | error stopped =>
            simp only [inRan, outRan, bind, Except.bind] at executed
            cases executed
        | ok outOfSample =>
            cases ran : simulate command "full" totalCount (counts.1 + counts.2) (totalCount * 2)
                (streamKlines rows 0 totalCount) with
            | error stopped =>
                simp only [inRan, outRan, ran, bind, Except.bind] at executed
                cases executed
            | ok full =>
                simp only [inRan, outRan, ran, bind, Except.bind] at executed
                cases executed
                refine ⟨⟨_, _, _, _, ran⟩, fun validation validated => ?_⟩
                cases validated
                exact ⟨counts.1, bounded, _, _, _, _, inRan⟩
  · cases ran : simulate command "full" totalCount 0 totalCount (streamKlines rows 0 totalCount) with
    | error stopped =>
        rw [ran] at executed
        cases executed
    | ok full =>
        rw [ran] at executed
        cases executed
        exact ⟨⟨_, _, _, _, ran⟩, nofun⟩

theorem simulated_curve_length (command : BacktestCommand α) (klines : List (MarketData α)) (result : BacktestResult α)
    (ran : Simulates command klines result) : result.equityCurve.length = klines.length := by
  obtain ⟨_, _, _, _, simulated⟩ := ran
  obtain ⟨exchange, run, last, _, replayed, _, rfl⟩ := simulate_replays _ _ _ _ _ _ _ simulated
  have counted := ((StaticRun.start command exchange).replay_curve run klines replayed).2
  simpa [StaticRun.start, StaticRun.result, BacktestResult.compute] using counted

theorem in_sample_curve_prefix (command : BacktestCommand α) (rows : List (MarketData α)) (outcome : StaticBacktest α)
    (validation : OutOfSampleValidation α) (executed : runStaticBacktest command rows = .ok (some outcome))
    (validated : outcome.outOfSample = some validation) :
    validation.inSample.equityCurve <+: outcome.full.equityCurve := by
  obtain ⟨ran, phases⟩ := static_phases command rows outcome executed
  obtain ⟨inSampleCount, bounded, inRan⟩ := phases validation validated
  have shared : (rows.take inSampleCount).take inSampleCount =
      (rows.take (command.limit.elim rows.length (min · rows.length))).take inSampleCount := by
    rw [List.take_take, List.take_take, Nat.min_self, Nat.min_eq_left bounded]
  have agree := simulated_curves_agree command _ _ inSampleCount _ _ shared inRan ran
  have counted := simulated_curve_length command _ _ inRan
  rw [List.take_of_length_le (by rw [counted]; exact List.length_take_le _ _)] at agree
  rw [agree]
  exact List.take_prefix _ _

def tradesPerBar (command : BacktestCommand α) (klines : List (MarketData α)) : List (List (Trade α)) :=
  command.exchange.elim [] fun exchange => (StaticRun.start command exchange).closedPerBar klines

-- Two streams that share n bars give the same curve and the same trades on
-- them, and every fill of a run is at the open of a bar after its signal's.
theorem static_runs_do_not_look_ahead (command : BacktestCommand α) (first second : List (MarketData α)) (n : ℕ)
    (result other : BacktestResult α) (shared : first.take n = second.take n) (ran : Simulates command first result)
    (ranOther : Simulates command second other) :
    result.equityCurve.take n = other.equityCurve.take n ∧
      (tradesPerBar command first).take n = (tradesPerBar command second).take n ∧
      ((tradesPerBar command first).length = first.length ∧
        result.trades.filter (·.exitReason ≠ .endOfBacktest) = (tradesPerBar command first).flatten) ∧
      (∃ exchange, command.exchange = some exchange ∧
        ∀ trade ∈ result.trades, (StaticRun.start command exchange).EnteredAtOpen first trade.record ∧
          (trade.exitReason = .strategySignal → (StaticRun.start command exchange).ExitedAtOpen first trade)) ∧
      ∀ rows outcome validation, runStaticBacktest command rows = .ok (some outcome) →
        outcome.outOfSample = some validation → validation.inSample.equityCurve <+: outcome.full.equityCurve := by
  have curves := simulated_curves_agree command first second n result other shared ran ranOther
  obtain ⟨_, _, _, _, simulated⟩ := ran
  obtain ⟨exchange, run, last, funded, replayed, _, rfl⟩ := simulate_replays _ _ _ _ _ _ _ simulated
  have traced := StaticRun.replay_traced command exchange run first funded replayed
  refine ⟨curves, ?_, ?_, ⟨exchange, funded, ?_⟩, in_sample_curve_prefix command⟩
  · simp only [tradesPerBar, funded, Option.elim_some, StaticRun.closed_per_bar_take, shared]
  · simp only [tradesPerBar, funded, Option.elim_some]
    exact ⟨StaticRun.closed_per_bar_length _ run first replayed,
      StaticRun.result_closed_in_bars command exchange run first last funded replayed⟩
  · exact StaticRun.result_trades command exchange run first last traced.account

def spotCommand : BacktestCommand ℚ where
  symbol := "BTCUSDT"
  interval := .oneMinute
  strategy := crossoverConfig.choice
  initialBalance := 1000
  feePercent := 1 / 10
  positionSizing := ⟨spotExchange.positionSizing, spotExchange.sizing_accepted⟩
  brokerConfig := some spotConfig

def minuteBars (prices : List ℚ) : List (MarketData ℚ) :=
  prices.zipIdx.map fun (price, minute) => flatBar "BTCUSDT" minute price true

theorem spot_simulates (prices : List ℚ) (traded : prices ≠ []) :
    ∃ result, Simulates spotCommand (minuteBars prices) result := by
  obtain ⟨result, ran⟩ := simulate_returns spotCommand "full" prices.length 0 prices.length (minuteBars prices) spotExchange
    (by with_unfolding_all rfl) (by simpa [minuteBars] using traded) (fun _ => rfl)
  exact ⟨result, _, _, _, _, ran⟩

theorem static_runs_do_not_look_ahead_spot :
    ∃ result other, Simulates spotCommand (minuteBars [10, 8, 12, 13]) result ∧
      Simulates spotCommand (minuteBars [10, 8, 12, 7]) other ∧ result.equityCurve.take 3 = other.equityCurve.take 3 := by
  obtain ⟨result, ran⟩ := spot_simulates [10, 8, 12, 13] (by simp)
  obtain ⟨other, ranOther⟩ := spot_simulates [10, 8, 12, 7] (by simp)
  have shared : (minuteBars [10, 8, 12, 13]).take 3 = (minuteBars [10, 8, 12, 7]).take 3 := by decide +kernel
  exact ⟨result, other, ran, ranOther,
    (static_runs_do_not_look_ahead spotCommand _ _ 3 result other shared ran ranOther).1⟩

end Sagittarius
