import Sagittarius.Backtest.NoLookAhead
import Sagittarius.Backtest.TickFills
import Sagittarius.Backtest.TickPartition

set_option autoImplicit false

namespace Sagittarius

variable {α : Type} [PyFloat α]

theorem strategy_decide_open_time (strategy : Strategy α) (context : StrategyContext α) (openTime : ℤ) :
    strategy.decide { context with candle := { context.candle with openTime } } = strategy.decide context := by
  cases strategy <;> rfl

theorem on_tick_open_time (engine : StrategyEngine α) (candle : MarketData α) (openTime : ℤ)
    (side : Option PositionSide) : engine.onTick { candle with openTime } side = engine.onTick candle side := by
  have updates : StrategyEngine.updateIndicators engine.indicators { candle with openTime } =
      StrategyEngine.updateIndicators engine.indicators candle := rfl
  unfold StrategyEngine.onTick
  rw [updates]
  cases StrategyEngine.updateIndicators engine.indicators candle with
  | mk readings indicators =>
      cases readings with
      | none => rfl
      | some readings =>
          have decides := strategy_decide_open_time engine.strategy
            { candle, indicators := readings, currentPositionSide := side } openTime
          simp only [Strategy.evaluate, decides]
          rfl

-- A gap-free stream of the command's closed klines, each of which is the one
-- tick of its bar.
structure OneTickPerBar (command : BacktestCommand α) (klines : List (MarketData α)) : Prop where
  own : ∀ kline ∈ klines,
    kline.symbol = command.symbol ∧ kline.interval = command.interval.value ∧ kline.isClosed = true
  spans : ∀ kline ∈ klines, kline.openTime < kline.closeTime
  adjoins : klines.IsChain fun last next => next.openTime = last.closeTime + closeTimeIsInclusiveBy
  closes : ∀ kline ∈ klines, command.barStartOf kline + command.span ≤ kline.closeTime + closeTimeIsInclusiveBy

theorem one_tick_tail (command : BacktestCommand α) (kline : MarketData α) (rest : List (MarketData α))
    (stream : OneTickPerBar command (kline :: rest)) : OneTickPerBar command rest where
  own := fun other member => stream.own other (List.mem_cons_of_mem kline member)
  spans := fun other member => stream.spans other (List.mem_cons_of_mem kline member)
  adjoins := stream.adjoins.tail
  closes := fun other member => stream.closes other (List.mem_cons_of_mem kline member)

theorem close_not_open (command : BacktestCommand α) (klines : List (MarketData α)) (stream : OneTickPerBar command klines)
    (closing opening : MarketData α) (closes : closing ∈ klines) (opens : opening ∈ klines) :
    closing.closeTime ≠ opening.openTime := by
  have ordered : klines.Pairwise fun last next => last.closeTime < next.openTime ∧ next.openTime < next.closeTime := by
    have : IsTrans (MarketData α) fun last next => last.closeTime < next.openTime ∧ next.openTime < next.closeTime :=
      ⟨fun _ _ _ first second => ⟨(first.1.trans first.2).trans second.1, second.2⟩⟩
    refine List.isChain_iff_pairwise.mp (stream.adjoins.imp_of_mem_imp fun last next _ member adjoins => ?_)
    refine ⟨?_, stream.spans next member⟩
    simp only [closeTimeIsInclusiveBy] at adjoins
    omega
  have later : klines.Pairwise fun last next => last.closeTime ≠ next.openTime := ordered.imp fun before => before.1.ne
  have earlier : klines.Pairwise fun last next => next.closeTime ≠ last.openTime := by
    refine ordered.imp_of_mem fun {last next} member _ before => ?_
    have spans := stream.spans last member
    omega
  exact List.Pairwise.forall_of_forall_of_flip (fun kline member => (stream.spans kline member).ne') later earlier closes opens

namespace PaperExchange

def Declines (exchange : PaperExchange α) (signal : Option (Signal α)) (price : α) (time : ℤ) : Prop :=
  ∀ asked ∈ signal, exchange.accepts (.fill asked price time) = none

theorem records_empty_iff (exchange : PaperExchange α) :
    exchange.records = [] ↔ exchange.trades = [] ∧ exchange.positions = [] := by
  simp [records]

theorem perform_unused (exchange : PaperExchange α) (call : ExchangeCall α)
    (unused : (exchange.perform call).records = []) : exchange.records = [] ∧ exchange.accepts call = none := by
  have grown := exchange.perform_records call
  rw [unused, List.nil_perm] at grown
  obtain ⟨before, accepted⟩ := List.append_eq_nil_iff.mp grown
  refine ⟨before, ?_⟩
  cases accepts : exchange.accepts call with
  | none => rfl
  | some position => simp [accepts] at accepted

theorem fill_unused (exchange : PaperExchange α) (signal : Option (Signal α)) (price : α) (time : ℤ)
    (unused : (exchange.fillAny signal price time).records = []) :
    exchange.records = [] ∧ exchange.Declines signal price time := by
  cases signal with
  | none => exact ⟨unused, by simp [Declines]⟩
  | some signal =>
      obtain ⟨before, declined⟩ := exchange.perform_unused (.fill signal price time) unused
      exact ⟨before, by simpa [Declines] using declined⟩

theorem perform_flat (exchange : PaperExchange α) (call : ExchangeCall α) (flat : exchange.positions = [])
    (declined : exchange.accepts call = none) : exchange.perform call = exchange := by
  rcases exchange.perform_cases call with ⟨position, _, _, _, _, _, accepted, _, _⟩ | ⟨_, kept, split, performed⟩
  · cases declined.symm.trans accepted
  · rw [flat, List.perm_nil, List.append_eq_nil_iff, List.map_eq_nil_iff] at split
    rw [performed, split.1, split.2, ← flat]
    simp [settle]

theorem fill_flat (exchange : PaperExchange α) (signal : Option (Signal α)) (price : α) (time : ℤ)
    (flat : exchange.positions = []) (declines : exchange.Declines signal price time) :
    exchange.fillAny signal price time = exchange := by
  cases signal with
  | none => rfl
  | some signal => exact exchange.perform_flat (.fill signal price time) flat (declines signal rfl)

theorem timed_mono (exchange : PaperExchange α) (First Second : ℤ → Prop) (implies : ∀ time, First time → Second time)
    (timed : exchange.EntriesTimed First) : exchange.EntriesTimed Second :=
  fun record listed => implies record.entryTime (timed record listed)

end PaperExchange

theorem StaticRun.bar_unused (run next : StaticRun α) (candle : MarketData α) (stepped : run.bar candle = .ok next)
    (unused : next.exchange.records = []) :
    run.exchange.records = [] ∧ run.exchange.Declines run.pendingSignal candle.openPrice candle.openTime := by
  obtain ⟨_, exchanged, _⟩ := run.bar_cases next candle stepped
  rw [exchanged] at unused
  have filled := (PaperExchange.perform_unused (run.filled candle) (.checkIntrabarStops _ _ _) unused).1
  exact run.exchange.fill_unused _ _ _ filled

theorem StaticRun.bar_timed (run next : StaticRun α) (candle : MarketData α) (Now : ℤ → Prop)
    (timed : run.exchange.EntriesTimed Now) (now : Now candle.openTime) (stepped : run.bar candle = .ok next) :
    next.exchange.EntriesTimed Now := by
  obtain ⟨_, exchanged, _⟩ := run.bar_cases next candle stepped
  rw [exchanged]
  have filled : (run.filled candle).EntriesTimed Now := run.exchange.fill_timed _ _ _ Now timed now
  exact PaperExchange.perform_timed _ (.checkIntrabarStops _ _ _) Now filled nofun

namespace TickRun

theorem tick_unused (command : BacktestCommand α) (run next : TickRun α) (tick : MarketData α)
    (stepped : run.tick command tick = .ok next) (unused : next.exchange.records = []) : run.exchange.records = [] := by
  obtain ⟨entered, exchanged, gap⟩ := run.tick_fills command next tick stepped
  rw [exchanged] at unused
  have before := (entered.fill_unused _ _ _ unused).1
  rcases gap with ⟨_, rfl⟩ | ⟨held, _, rfl⟩
  · exact before
  · exact (run.exchange.fill_unused _ _ _ before).1

theorem flush_fills (command : BacktestCommand α) (run done : TickRun α) (flushed : run.flush command = .ok done) :
    (run.forming = none ∧ done = run) ∨
      ∃ held, run.forming = some held ∧ done.exchange =
        run.exchange.fillAny (run.commitSignal command held) held.closePrice held.lastTickCloseTime := by
  unfold flush at flushed
  cases forms : run.forming with
  | none =>
      rw [forms] at flushed
      cases flushed
      exact .inl ⟨rfl, rfl⟩
  | some held =>
      rw [forms] at flushed
      exact .inr ⟨held, rfl, run.commit_fills command done held flushed⟩

-- A kline that is the one tick of its bar is committed as it is, up to the
-- time its bar is taken to open.
theorem one_tick_commits (command : BacktestCommand α) (kline : MarketData α) (rest : List (MarketData α))
    (stream : OneTickPerBar command (kline :: rest)) (run next : TickRun α) (between : run.forming = none)
    (stepped : run.tick command kline = .ok next) :
    ∃ signal, run.engine.onTick kline run.exchange.currentSide = .ok (signal, next.engine) ∧
      next.exchange = run.exchange.fillAny signal kline.closePrice kline.closeTime ∧
      next.equityCurve = run.equityCurve ++ [(kline.closeTime, next.exchange.equity kline.closePrice)] ∧
      next.forming = none := by
  obtain ⟨entered, forming, enters, finishes⟩ := step_cases _ command run next kline stepped
  rcases run.enter_cases command _ entered kline forming enters with
    ⟨_, rfl, rfl⟩ | ⟨held, holds, _⟩ | ⟨held, holds, _⟩
  · have closes := stream.closes kline List.mem_cons_self
    rcases finishes with ⟨_, committed⟩ | ⟨early, _⟩
    · obtain ⟨symbol, interval, closed⟩ := stream.own kline List.mem_cons_self
      obtain ⟨signal, ticked, exchanged, curve, _, empty⟩ := entered.commit_cases command next _ committed
      have bar : (FormingBar.start (barBounds kline.openTime command.interval.toSeconds) kline).toCandle command.symbol
          command.interval.value true = { kline with openTime := command.barStartOf kline } := by
        rw [← symbol, ← interval, ← closed]
        rfl
      rw [bar, on_tick_open_time] at ticked
      rw [bar] at exchanged curve
      exact ⟨signal, ticked, exchanged, curve, empty⟩
    · exact absurd closes (not_le.mpr early)
  · cases between.symm.trans holds
  · cases between.symm.trans holds

end TickRun

-- Told all along that it is flat, the engine never signals an entry that the
-- account would take, be it at the close of the kline, where the tick engine
-- fills it, or at the open of the next one, where the static engine does.
def NeverEnters (account : PaperExchange α) : StrategyEngine α → List (MarketData α) → Prop
  | _, [] => True
  | engine, kline :: rest => ∀ signal next, engine.onTick kline = .ok (signal, next) →
      account.Declines signal kline.closePrice kline.closeTime ∧
        (∀ following ∈ rest.head?, account.Declines signal following.openPrice following.openTime) ∧
          NeverEnters account next rest

-- The two runs while neither has touched its account.
structure Idle (account : PaperExchange α) (static : StaticRun α) (ticked : TickRun α) : Prop where
  engines : ticked.engine = static.engine
  untouched : static.exchange = account
  untouchedToo : ticked.exchange = account
  curves : ticked.equityCurve = static.equityCurve
  between : ticked.forming = none

theorem idle_step (command : BacktestCommand α) (account : PaperExchange α) (flat : account.positions = [])
    (kline : MarketData α) (rest : List (MarketData α)) (stream : OneTickPerBar command (kline :: rest))
    (static nextStatic : StaticRun α) (ticked nextTicked : TickRun α) (idle : Idle account static ticked)
    (declines : account.Declines static.pendingSignal kline.openPrice kline.openTime)
    (barred : static.bar kline = .ok nextStatic) (stepped : ticked.tick command kline = .ok nextTicked) :
    static.engine.onTick kline = .ok (nextStatic.pendingSignal, nextStatic.engine) ∧
      nextTicked.exchange = account.fillAny nextStatic.pendingSignal kline.closePrice kline.closeTime ∧
      (account.Declines nextStatic.pendingSignal kline.closePrice kline.closeTime → Idle account nextStatic nextTicked) := by
  have side : account.currentSide = none := by simp [PaperExchange.currentSide, flat]
  have filled : static.filled kline = account := by
    rw [StaticRun.filled, idle.untouched, account.fill_flat _ _ _ flat declines]
  have checked : static.checked kline = account := by
    rw [StaticRun.checked, filled]
    exact account.perform_flat (.checkIntrabarStops _ _ _) flat rfl
  obtain ⟨signalled, exchanged, curve⟩ := static.bar_cases nextStatic kline barred
  obtain ⟨signal, signalledToo, exchangedToo, curveToo, empty⟩ :=
    ticked.one_tick_commits command kline rest stream nextTicked idle.between stepped
  rw [checked] at signalled exchanged curve
  rw [side] at signalled
  rw [idle.engines, idle.untouchedToo, side, signalled] at signalledToo
  obtain ⟨same, engines⟩ := Prod.mk.inj (Except.ok.inj signalledToo)
  rw [idle.untouchedToo, ← same] at exchangedToo
  refine ⟨signalled, exchangedToo, fun quiet => ⟨engines.symm, exchanged, ?_, ?_, empty⟩⟩
  · rw [exchangedToo, account.fill_flat _ _ _ flat quiet]
  · rw [curveToo, curve, exchangedToo, account.fill_flat _ _ _ flat quiet, idle.curves]

theorem fold_unused (command : BacktestCommand α) (run final : TickRun α) (klines : List (MarketData α))
    (folded : klines.foldlM (TickRun.tick command) run = .ok final) (unused : final.exchange.records = []) :
    run.exchange.records = [] :=
  Streaming.fold_needs (TickRun.tick command) (fun run => run.exchange.records = [])
    (fun run tick next stepped => run.tick_unused command next tick stepped) run final klines folded unused

theorem replay_unused (run final : StaticRun α) (klines : List (MarketData α)) (replayed : run.replay klines = .ok final)
    (unused : final.exchange.records = []) : run.exchange.records = [] :=
  Streaming.fold_needs StaticRun.bar (fun run => run.exchange.records = [])
    (fun run candle next stepped unused => (run.bar_unused next candle stepped unused).1) run final klines replayed unused

-- By induction on the klines still to come: as long as the runs agree, neither
-- account is touched by them exactly when no entry is ever taken.
theorem idle_lockstep (command : BacktestCommand α) (account : PaperExchange α) (fresh : account.records = [])
    (klines : List (MarketData α)) (stream : OneTickPerBar command klines) (static finalStatic : StaticRun α)
    (ticked finalTicked : TickRun α) (idle : Idle account static ticked) (replayed : static.replay klines = .ok finalStatic)
    (folded : klines.foldlM (TickRun.tick command) ticked = .ok finalTicked) :
    ((finalStatic.exchange.records = [] ∧ finalTicked.exchange.records = []) ↔
        (∀ first ∈ klines.head?, account.Declines static.pendingSignal first.openPrice first.openTime) ∧
          NeverEnters account static.engine klines) ∧
      (NeverEnters account static.engine klines →
        (∀ first ∈ klines.head?, account.Declines static.pendingSignal first.openPrice first.openTime) →
          Idle account finalStatic finalTicked) := by
  have flat := ((account.records_empty_iff).mp fresh).2
  induction klines generalizing static ticked with
  | nil =>
      cases replayed
      cases folded
      refine ⟨iff_of_true ⟨by rw [idle.untouched, fresh], by rw [idle.untouchedToo, fresh]⟩ ⟨by simp, trivial⟩, ?_⟩
      exact fun _ _ => idle
  | cons kline rest ih =>
      obtain ⟨nextStatic, barred, replayedRest⟩ := static.replay_cons finalStatic kline rest replayed
      obtain ⟨nextTicked, stepped, foldedRest⟩ :=
        (Streaming.fold_cons (TickRun.tick command) ticked finalTicked kline rest).mp folded
      have step := idle_step command account flat kline rest stream static nextStatic ticked nextTicked idle
      have later := ih (one_tick_tail command kline rest stream) nextStatic nextTicked
      have forward : NeverEnters account static.engine (kline :: rest) →
          account.Declines static.pendingSignal kline.openPrice kline.openTime →
            Idle account nextStatic nextTicked ∧ NeverEnters account nextStatic.engine rest ∧
              ∀ first ∈ rest.head?, account.Declines nextStatic.pendingSignal first.openPrice first.openTime := by
        intro never declines
        obtain ⟨signalled, _, quiet⟩ := step declines barred stepped
        obtain ⟨closing, opening, neverLater⟩ := never _ _ signalled
        exact ⟨quiet closing, neverLater, opening⟩
      refine ⟨⟨fun unused => ?_, fun ⟨first, never⟩ => ?_⟩, fun never first => ?_⟩
      · have unusedStatic := replay_unused nextStatic finalStatic rest replayedRest unused.1
        have unusedTicked := fold_unused command nextTicked finalTicked rest foldedRest unused.2
        have declines := (static.bar_unused nextStatic kline barred unusedStatic).2
        rw [idle.untouched] at declines
        obtain ⟨signalled, exchanged, quiet⟩ := step declines barred stepped
        rw [exchanged] at unusedTicked
        have closing := (account.fill_unused _ _ _ unusedTicked).2
        obtain ⟨opening, neverLater⟩ := (later (quiet closing) replayedRest foldedRest).1.mp unused
        refine ⟨fun first isFirst => Option.some.inj isFirst ▸ declines, fun signal next again => ?_⟩
        cases signalled.symm.trans again
        exact ⟨closing, opening, neverLater⟩
      · obtain ⟨idleNext, neverLater, opening⟩ := forward never (first kline rfl)
        exact (later idleNext replayedRest foldedRest).1.mpr ⟨opening, neverLater⟩
      · obtain ⟨idleNext, neverLater, opening⟩ := forward never (first kline rfl)
        exact (later idleNext replayedRest foldedRest).2 neverLater opening

theorem static_timed (command : BacktestCommand α) (exchange : PaperExchange α) (run : StaticRun α)
    (klines : List (MarketData α)) (fresh : exchange.records = [])
    (replayed : (StaticRun.start command exchange).replay klines = .ok run) :
    run.exchange.EntriesTimed fun time => ∃ kline ∈ klines, time = kline.openTime := by
  refine Streaming.fold_invariant StaticRun.bar
    (fun done run => run.exchange.EntriesTimed fun time => ∃ kline ∈ done, time = kline.openTime) ?_
    (StaticRun.start command exchange) run klines (by simp [StaticRun.start, PaperExchange.EntriesTimed, fresh]) replayed
  intro done run kline next timed stepped
  refine run.bar_timed next kline _ (run.exchange.timed_mono _ _ ?_ timed) ⟨kline, by simp, rfl⟩ stepped
  rintro time ⟨earlier, member, opens⟩
  exact ⟨earlier, List.mem_append_left _ member, opens⟩

theorem ticked_timed (command : BacktestCommand α) (exchange : PaperExchange α) (run : TickRun α)
    (klines : List (MarketData α)) (fresh : exchange.records = [])
    (folded : klines.foldlM (TickRun.tick command) (TickRun.start command exchange) = .ok run) :
    run.Timed fun time => ∃ kline ∈ klines, time = kline.closeTime := by
  refine Streaming.fold_invariant (TickRun.tick command)
    (fun done run => run.Timed fun time => ∃ kline ∈ done, time = kline.closeTime) ?_
    (TickRun.start command exchange) run klines ⟨by simp [TickRun.start, PaperExchange.EntriesTimed, fresh], nofun⟩ folded
  intro done run kline next timed stepped
  have widened : ∀ time, (∃ earlier ∈ done, time = earlier.closeTime) →
      ∃ earlier ∈ done ++ [kline], time = earlier.closeTime := by
    rintro time ⟨earlier, member, closes⟩
    exact ⟨earlier, List.mem_append_left _ member, closes⟩
  exact run.tick_timed command next kline _
    ⟨run.exchange.timed_mono _ _ widened timed.entries, fun held holds => widened _ (timed.forming held holds)⟩
    ⟨kline, by simp, rfl⟩ stepped

theorem flush_timed (command : BacktestCommand α) (run done : TickRun α) (Now : ℤ → Prop) (timed : run.Timed Now)
    (flushed : run.flush command = .ok done) : done.exchange.EntriesTimed Now := by
  rcases run.flush_fills command done flushed with ⟨_, rfl⟩ | ⟨held, holds, exchanged⟩
  · exact timed.entries
  · rw [exchanged]
    exact run.exchange.fill_timed _ _ _ Now timed.entries (timed.forming held holds)

theorem flush_unused (command : BacktestCommand α) (run done : TickRun α) (flushed : run.flush command = .ok done)
    (unused : done.exchange.records = []) : run.exchange.records = [] := by
  rcases run.flush_fills command done flushed with ⟨_, rfl⟩ | ⟨held, _, exchanged⟩
  · exact unused
  · rw [exchanged] at unused
    exact (run.exchange.fill_unused _ _ _ unused).1

namespace PaperExchange

theorem force_close_timed (exchange : PaperExchange α) (price : α) (time : ℤ) (Now : ℤ → Prop)
    (timed : exchange.EntriesTimed Now) (trade : Trade α) (recorded : trade ∈ (exchange.forceClose price time).2.trades) :
    Now trade.entryTime := by
  have closed := exchange.perform_timed (.forceClose price time) Now timed nofun
  rw [perform, EntriesTimed, force_close_records] at closed
  exact closed trade.record (List.mem_map_of_mem recorded)

theorem force_close_unused (exchange : PaperExchange α) (price : α) (time : ℤ)
    (untraded : (exchange.forceClose price time).2.trades = []) : exchange.records = [] := by
  refine (exchange.perform_unused (.forceClose price time) ?_).1
  rw [perform, force_close_records, untraded, List.map_nil]

end PaperExchange

theorem limited_take (command : BacktestCommand α) (rows : List (MarketData α)) :
    rows.take (command.limit.elim rows.length (min · rows.length)) = command.limited rows := by
  unfold BacktestCommand.limited
  cases command.limit with
  | none => exact List.take_length
  | some limit => exact List.take_eq_take_min.symm

theorem tick_backtest_simulates (command : BacktestCommand α) (rows : List (MarketData α)) (result : BacktestResult α)
    (executed : runHistoricalTickBacktest command rows = .ok (some result)) :
    ∃ totalTicks, simulateTicks command totalTicks (command.limited rows) = .ok result := by
  unfold runHistoricalTickBacktest at executed
  dsimp only at executed
  generalize command.limit.elim rows.length (min · rows.length) = totalTicks at executed
  split_ifs at executed with empty
  · cases executed
  · cases ran : simulateTicks command totalTicks (command.limited rows) with
    | error stopped =>
        rw [ran] at executed
        cases executed
    | ok simulated =>
        rw [ran] at executed
        cases executed
        exact ⟨totalTicks, ran⟩

-- The tick engine fills a kline's signal at its close and the static engine at
-- the next open, so that no trade of one is a trade of the other.
theorem engines_agree_iff (command : BacktestCommand α) (exchange : PaperExchange α) (rows : List (MarketData α))
    (static : StaticBacktest α) (ticked : BacktestResult α) (funded : command.exchange = some exchange)
    (stream : OneTickPerBar command (command.limited rows)) (ranStatic : runStaticBacktest command rows = .ok (some static))
    (ranTicked : runHistoricalTickBacktest command rows = .ok (some ticked)) :
    (ticked.trades = static.full.trades ∧ ticked.equityCurve = static.full.equityCurve) ↔
      NeverEnters exchange (StrategyEngine.build command.strategy) (command.limited rows) := by
  obtain ⟨⟨_, _, _, _, simulated⟩, _⟩ := static_phases command rows static ranStatic
  rw [limited_take] at simulated
  obtain ⟨_, simulatedTicks⟩ := tick_backtest_simulates command rows ticked ranTicked
  generalize command.limited rows = klines at stream simulated simulatedTicks ⊢
  obtain ⟨account, run, last, fundedToo, replayed, _, result⟩ := simulate_replays _ _ _ _ _ _ _ simulated
  cases funded.symm.trans fundedToo
  obtain ⟨account, tickRun, done, lastTick, fundedToo, folded, flushed, _, rfl⟩ :=
    simulate_ticks_replays _ _ _ _ simulatedTicks
  cases funded.symm.trans fundedToo
  have fresh : exchange.records = [] := by
    obtain ⟨_, _, positions, trades⟩ := PaperExchange.create_fresh _ _ _ _ _ exchange funded
    exact exchange.records_empty_iff.mpr ⟨trades, positions⟩
  obtain ⟨untraded, flat⟩ := exchange.records_empty_iff.mp fresh
  have nothingPending : ∀ first ∈ klines.head?,
      exchange.Declines (StaticRun.start command exchange).pendingSignal first.openPrice first.openTime := by
    simp [StaticRun.start, PaperExchange.Declines]
  obtain ⟨unused_iff, idles⟩ := idle_lockstep command exchange fresh klines stream (StaticRun.start command exchange) run
    (TickRun.start command exchange) tickRun ⟨rfl, rfl, rfl, rfl, rfl⟩ replayed folded
  rw [result]
  constructor
  · rintro ⟨trades, _⟩
    have none : (done.result command lastTick).trades = [] := by
      refine List.eq_nil_iff_forall_not_mem.mpr fun trade recorded => ?_
      have recordedToo : trade ∈ (run.result command last).trades := trades ▸ recorded
      obtain ⟨closing, closes, atClose⟩ := done.exchange.force_close_timed _ _ _
        (flush_timed command tickRun done _ (ticked_timed command exchange tickRun klines fresh folded) flushed) trade recorded
      obtain ⟨opening, opens, atOpen⟩ := run.exchange.force_close_timed _ _ _
        (static_timed command exchange run klines fresh replayed) trade recordedToo
      exact close_not_open command klines stream closing opening closes opens (atClose.symm.trans atOpen)
    have unusedTicked := flush_unused command tickRun done flushed (done.exchange.force_close_unused _ _ none)
    have unusedStatic := run.exchange.force_close_unused _ _ (trades.symm.trans none)
    exact (unused_iff.mp ⟨unusedStatic, unusedTicked⟩).2
  · intro never
    have idle := idles never nothingPending
    have same : done = tickRun := by
      rcases tickRun.flush_fills command done flushed with ⟨_, same⟩ | ⟨held, holds, _⟩
      · exact same
      · cases idle.between.symm.trans holds
    have closes : ∀ price time, (exchange.forceClose price time).2 = exchange :=
      fun price time => exchange.perform_flat (.forceClose price time) flat rfl
    subst same
    simp only [TickRun.result, StaticRun.result, BacktestResult.compute, idle.untouched, idle.untouchedToo, closes,
      idle.curves, and_self]

theorem static_backtest_returns (command : BacktestCommand α) (exchange : PaperExchange α) (rows : List (MarketData α))
    (funded : command.exchange = some exchange) (nonempty : command.limited rows ≠ [])
    (uncancelled : ∀ processed, command.cancellationRequested processed = false) :
    ∃ outcome, runStaticBacktest command rows = .ok (some outcome) := by
  have returns : ∀ phase phaseBarCount completedBefore totalBars (klines : List (MarketData α)), klines ≠ [] →
      ∃ result, simulate command phase phaseBarCount completedBefore totalBars klines = .ok result :=
    fun phase phaseBarCount completedBefore totalBars klines replayed =>
      simulate_returns command phase phaseBarCount completedBefore totalBars klines exchange funded replayed uncancelled
  have bounded : command.limit.elim rows.length (min · rows.length) ≤ rows.length := by
    cases command.limit with
    | none => exact le_refl rows.length
    | some limit => exact Nat.min_le_right limit rows.length
  have stocked : command.limit.elim rows.length (min · rows.length) ≠ 0 := by
    rw [← limited_take] at nonempty
    exact fun empty => nonempty (by rw [empty, List.take_zero])
  unfold runStaticBacktest
  dsimp only
  generalize command.limit.elim rows.length (min · rows.length) = totalCount at bounded stocked ⊢
  have streams : ∀ offset limit, offset < totalCount → limit ≠ 0 → streamKlines rows offset limit ≠ [] := by
    intro offset limit within some
    simp only [streamKlines, ne_eq, List.take_eq_nil_iff, List.drop_eq_nil_iff, not_or]
    omega
  obtain ⟨full, ran⟩ := returns "full" totalCount 0 totalCount _ (streams 0 totalCount (by omega) stocked)
  rw [if_neg stocked]
  split_ifs with validates
  · have splits : (splitCountForOutOfSample totalCount (defaultInSampleRatio : α)).1 < totalCount := by
      have remaining := validates.2
      simp only [splitCountForOutOfSample] at remaining ⊢
      omega
    generalize splitCountForOutOfSample totalCount (defaultInSampleRatio : α) = counts at validates splits ⊢
    obtain ⟨inSample, inRan⟩ := returns "in_sample" counts.1 0 (totalCount * 2) _
      (streams 0 counts.1 (by omega) validates.1)
    obtain ⟨outOfSample, outRan⟩ := returns "out_of_sample" counts.2 counts.1 (totalCount * 2) _
      (streams counts.1 counts.2 splits validates.2)
    obtain ⟨fullToo, ranToo⟩ := returns "full" totalCount (counts.1 + counts.2) (totalCount * 2) _
      (streams 0 totalCount (by omega) stocked)
    simp only [inRan, outRan, ranToo, bind, Except.bind]
    exact ⟨_, rfl⟩
  · simp only [ran, bind, Except.bind]
    exact ⟨_, rfl⟩

theorem tick_backtest_returns (command : BacktestCommand α) (exchange : PaperExchange α) (rows : List (MarketData α))
    (funded : command.exchange = some exchange) (nonempty : command.limited rows ≠ [])
    (uncancelled : ∀ processed, command.cancellationRequested processed = false) :
    ∃ result, runHistoricalTickBacktest command rows = .ok (some result) := by
  have stocked : command.limit.elim rows.length (min · rows.length) ≠ 0 := by
    rw [← limited_take] at nonempty
    exact fun empty => nonempty (by rw [empty, List.take_zero])
  obtain ⟨result, ran⟩ := simulate_ticks_returns command (command.limit.elim rows.length (min · rows.length))
    (command.limited rows) exchange funded nonempty uncancelled
  refine ⟨result, ?_⟩
  unfold runHistoricalTickBacktest
  simp only [if_neg stocked, ran, bind, Except.bind]
  rfl

instance (exchange : PaperExchange α) (signal : Option (Signal α)) (price : α) (time : ℤ) :
    Decidable (exchange.Declines signal price time) :=
  inferInstanceAs (Decidable (∀ asked ∈ signal, _ = none))

instance decidableNeverEnters (account : PaperExchange α) :
    (engine : StrategyEngine α) → (klines : List (MarketData α)) → Decidable (NeverEnters account engine klines)
  | _, [] => .isTrue trivial
  | engine, kline :: rest =>
      match ticked : engine.onTick kline with
      | .error _ => .isTrue (by simp [NeverEnters, ticked])
      | .ok (signal, next) =>
          have := decidableNeverEnters account next rest
          decidable_of_iff (account.Declines signal kline.closePrice kline.closeTime ∧
            (∀ following ∈ rest.head?, account.Declines signal following.openPrice following.openTime) ∧
              NeverEnters account next rest) (by simp [NeverEnters, ticked])

theorem minute_bars_run (prices : List ℚ) (traded : prices ≠ []) :
    ∃ static ticked, runStaticBacktest spotCommand (minuteBars prices) = .ok (some static) ∧
      runHistoricalTickBacktest spotCommand (minuteBars prices) = .ok (some ticked) := by
  have funded : spotCommand.exchange = some spotExchange := by with_unfolding_all rfl
  have nonempty : spotCommand.limited (minuteBars prices) ≠ [] := by
    simpa [BacktestCommand.limited, spotCommand, minuteBars] using traded
  obtain ⟨static, ranStatic⟩ := static_backtest_returns spotCommand spotExchange _ funded nonempty fun _ => rfl
  obtain ⟨ticked, ranTicked⟩ := tick_backtest_returns spotCommand spotExchange _ funded nonempty fun _ => rfl
  exact ⟨static, ticked, ranStatic, ranTicked⟩

theorem engines_agree_on_falling_prices :
    ∃ static ticked, runStaticBacktest spotCommand (minuteBars [10, 9, 8]) = .ok (some static) ∧
      runHistoricalTickBacktest spotCommand (minuteBars [10, 9, 8]) = .ok (some ticked) ∧
        ticked.trades = static.full.trades ∧ ticked.equityCurve = static.full.equityCurve := by
  obtain ⟨static, ticked, ranStatic, ranTicked⟩ := minute_bars_run [10, 9, 8] (by simp)
  refine ⟨static, ticked, ranStatic, ranTicked, ?_⟩
  exact (engines_agree_iff spotCommand spotExchange (minuteBars [10, 9, 8]) static ticked (by with_unfolding_all rfl)
    ⟨by decide +kernel, by decide +kernel, by decide +kernel, by decide +kernel⟩ ranStatic ranTicked).mpr
      (by decide +kernel)

-- The averages cross on the last kline: the tick engine buys at its close, the
-- static engine has no later open to buy at.
theorem engines_disagree_on_last_signal :
    OneTickPerBar spotCommand (spotCommand.limited (minuteBars [10, 8, 12])) ∧
      ∃ static ticked, runStaticBacktest spotCommand (minuteBars [10, 8, 12]) = .ok (some static) ∧
        runHistoricalTickBacktest spotCommand (minuteBars [10, 8, 12]) = .ok (some ticked) ∧
          static.full.trades = [] ∧ ticked.trades.length = 1 ∧ ticked.equityCurve ≠ static.full.equityCurve := by
  obtain ⟨static, ticked, ranStatic, ranTicked⟩ := minute_bars_run [10, 8, 12] (by simp)
  refine ⟨⟨by decide +kernel, by decide +kernel, by decide +kernel, by decide +kernel⟩, static, ticked, ranStatic, ranTicked, ?_⟩
  have compared : (do
      let static ← runStaticBacktest spotCommand (minuteBars [10, 8, 12])
      let ticked ← runHistoricalTickBacktest spotCommand (minuteBars [10, 8, 12])
      return static.bind fun static => ticked.map fun ticked => Decidable.decide (static.full.trades = [] ∧
        ticked.trades.length = 1 ∧ ticked.equityCurve ≠ static.full.equityCurve)) = Except.ok (some true) := by
    decide +kernel
  rw [ranStatic, ranTicked] at compared
  exact of_decide_eq_true (Option.some.inj (Except.ok.inj compared))

end Sagittarius
