import Sagittarius.Backtest.BacktestCommand

set_option autoImplicit false

namespace Sagittarius

def closeTimeIsInclusiveBy : ℤ := 1000

def barBounds (tickOpenTime : ℤ) (intervalSeconds : ℕ) : ℤ × ℤ :=
  let span : ℤ := intervalSeconds * 1000000
  let barStart := tickOpenTime - tickOpenTime % span
  (barStart, barStart + span)

structure FormingBar (α : Type) where
  barStart : ℤ
  barEnd : ℤ
  lastTickCloseTime : ℤ
  openPrice : α
  highPrice : α
  lowPrice : α
  closePrice : α
  volume : α
  quoteAssetVolume : α
  numberOfTrades : ℤ
  takerBuyBaseAssetVolume : α
  takerBuyQuoteAssetVolume : α
deriving DecidableEq

namespace FormingBar

def start {α : Type} (bounds : ℤ × ℤ) (tick : MarketData α) : FormingBar α where
  barStart := bounds.1
  barEnd := bounds.2
  lastTickCloseTime := tick.closeTime
  openPrice := tick.openPrice
  highPrice := tick.highPrice
  lowPrice := tick.lowPrice
  closePrice := tick.closePrice
  volume := tick.volume
  quoteAssetVolume := tick.quoteAssetVolume
  numberOfTrades := tick.numberOfTrades
  takerBuyBaseAssetVolume := tick.takerBuyBaseAssetVolume
  takerBuyQuoteAssetVolume := tick.takerBuyQuoteAssetVolume

def toCandle {α : Type} (forming : FormingBar α) (symbol interval : String) (isClosed : Bool) : MarketData α where
  symbol := symbol
  interval := interval
  openTime := forming.barStart
  openPrice := forming.openPrice
  highPrice := forming.highPrice
  lowPrice := forming.lowPrice
  closePrice := forming.closePrice
  volume := forming.volume
  closeTime := forming.lastTickCloseTime
  quoteAssetVolume := forming.quoteAssetVolume
  numberOfTrades := forming.numberOfTrades
  takerBuyBaseAssetVolume := forming.takerBuyBaseAssetVolume
  takerBuyQuoteAssetVolume := forming.takerBuyQuoteAssetVolume
  isClosed := isClosed

def contains {α : Type} (forming : FormingBar α) (tick : MarketData α) : Bool :=
  forming.barStart ≤ tick.openTime ∧ tick.openTime < forming.barEnd

variable {α : Type} [PyFloat α]

def absorb (forming : FormingBar α) (tick : MarketData α) : FormingBar α :=
  { forming with
    lastTickCloseTime := tick.closeTime
    highPrice := PyFloat.larger forming.highPrice tick.highPrice
    lowPrice := PyFloat.smaller forming.lowPrice tick.lowPrice
    closePrice := tick.closePrice
    volume := forming.volume + tick.volume
    quoteAssetVolume := forming.quoteAssetVolume + tick.quoteAssetVolume
    numberOfTrades := forming.numberOfTrades + tick.numberOfTrades
    takerBuyBaseAssetVolume := forming.takerBuyBaseAssetVolume + tick.takerBuyBaseAssetVolume
    takerBuyQuoteAssetVolume := forming.takerBuyQuoteAssetVolume + tick.takerBuyQuoteAssetVolume }

end FormingBar

variable {α : Type} [PyFloat α]

structure TickRun (α : Type) [PyFloat α] where
  engine : StrategyEngine α
  exchange : PaperExchange α
  equityCurve : EquityCurve α
  committedBars : List (MarketData α)
  forming : Option (FormingBar α)

namespace TickRun

def start (command : BacktestCommand α) (exchange : PaperExchange α) : TickRun α where
  engine := StrategyEngine.build command.strategy
  exchange := exchange
  equityCurve := []
  committedBars := []
  forming := none

def commitBar (command : BacktestCommand α) (run : TickRun α) (forming : FormingBar α) : Except PyError (TickRun α) := do
  let closedCandle := forming.toCandle command.symbol command.interval.value true
  let (signal, engine) ← run.engine.onTick closedCandle run.exchange.currentSide
  let exchange := run.exchange.fillAny signal closedCandle.closePrice closedCandle.closeTime
  return {
    engine, exchange
    equityCurve := run.equityCurve ++ [(closedCandle.closeTime, exchange.equity closedCandle.closePrice)]
    committedBars := run.committedBars ++ [closedCandle]
    forming := none }

-- The bar a tick goes into, and what the run commits first: a bar still
-- forming when the tick is not its own has lost its last ticks.
def enterBar (command : BacktestCommand α) (sameBar : FormingBar α → MarketData α → Bool) (run : TickRun α)
    (tick : MarketData α) : Except PyError (TickRun α × FormingBar α) :=
  let started := FormingBar.start (barBounds tick.openTime command.interval.toSeconds) tick
  match run.forming with
  | none => .ok (run, started)
  | some forming =>
      if sameBar forming tick then .ok (run, forming.absorb tick)
      else do
        let committed ← run.commitBar command forming
        return (committed, started)

def evaluateForming (command : BacktestCommand α) (run : TickRun α) (forming : FormingBar α) (tick : MarketData α) :
    Except PyError (TickRun α) := do
  let formingCandle := forming.toCandle command.symbol command.interval.value false
  let (signal, engine) ← run.engine.onFormingBarTick formingCandle run.exchange.currentSide
  return { run with
    engine
    exchange := run.exchange.fillAny signal tick.closePrice tick.closeTime
    forming := some forming }

def stepWith (sameBar : FormingBar α → MarketData α → Bool) (command : BacktestCommand α) (run : TickRun α)
    (tick : MarketData α) : Except PyError (TickRun α) := do
  let (run, forming) ← run.enterBar command sameBar tick
  if forming.barEnd ≤ tick.closeTime + closeTimeIsInclusiveBy then run.commitBar command forming
  else run.evaluateForming command forming tick

def tick (command : BacktestCommand α) : TickRun α → MarketData α → Except PyError (TickRun α) :=
  stepWith FormingBar.contains command

def flush (command : BacktestCommand α) (run : TickRun α) : Except PyError (TickRun α) :=
  match run.forming with
  | none => .ok run
  | some forming => run.commitBar command forming

def result (run : TickRun α) (command : BacktestCommand α) (last : MarketData α) : BacktestResult α :=
  let closed := (run.exchange.forceClose last.closePrice last.closeTime).2
  BacktestResult.compute command.symbol command.initialBalance closed.balance closed.trades run.equityCurve
    (some run.committedBars)

end TickRun

def simulateTicks (command : BacktestCommand α) (totalTicks : ℕ) (ticks : List (MarketData α)) :
    Except SimulationStop (BacktestResult α) :=
  match command.exchange with
  | none => .error .accountRefused
  | some exchange => do
      let run ← command.poll (TickRun.tick command) "realtime" totalTicks 0 (TickRun.start command exchange) ticks
      let run ← (run.flush command).mapError .raised
      match ticks.getLast? with
      | none => throw (.emptyStream "realtime" totalTicks)
      | some last => return run.result command last

def runHistoricalTickBacktest (command : BacktestCommand α) (rows : List (MarketData α)) :
    Except SimulationStop (Option (BacktestResult α)) :=
  let totalTicks := command.limit.elim rows.length (min · rows.length)
  if totalTicks = 0 then .ok none
  else do
    let result ← simulateTicks command totalTicks (command.limited rows)
    return some result

namespace TickRun

theorem commit_cases (command : BacktestCommand α) (run next : TickRun α) (forming : FormingBar α)
    (committed : run.commitBar command forming = .ok next) :
    let closed := forming.toCandle command.symbol command.interval.value true
    ∃ signal, run.engine.onTick closed run.exchange.currentSide = .ok (signal, next.engine) ∧
      next.exchange = run.exchange.fillAny signal closed.closePrice closed.closeTime ∧
      next.equityCurve = run.equityCurve ++ [(closed.closeTime, next.exchange.equity closed.closePrice)] ∧
      next.committedBars = run.committedBars ++ [closed] ∧ next.forming = none := by
  intro closed
  cases ticked : run.engine.onTick closed run.exchange.currentSide with
  | error raised =>
      simp only [commitBar, ticked, closed] at committed
      cases committed
  | ok result =>
      simp only [commitBar, ticked, closed] at committed
      cases committed
      exact ⟨result.1, rfl, rfl, rfl, rfl, rfl⟩

theorem evaluate_cases (command : BacktestCommand α) (run next : TickRun α) (forming : FormingBar α)
    (tick : MarketData α) (evaluated : run.evaluateForming command forming tick = .ok next) :
    ∃ signal, run.engine.onFormingBarTick (forming.toCandle command.symbol command.interval.value false)
        run.exchange.currentSide = .ok (signal, next.engine) ∧
      next.exchange = run.exchange.fillAny signal tick.closePrice tick.closeTime ∧
      next.equityCurve = run.equityCurve ∧ next.committedBars = run.committedBars ∧ next.forming = some forming := by
  cases ticked : run.engine.onFormingBarTick (forming.toCandle command.symbol command.interval.value false)
      run.exchange.currentSide with
  | error raised =>
      simp only [evaluateForming, ticked] at evaluated
      cases evaluated
  | ok result =>
      simp only [evaluateForming, ticked] at evaluated
      cases evaluated
      exact ⟨result.1, rfl, rfl, rfl, rfl, rfl⟩

theorem enter_cases (command : BacktestCommand α) (sameBar : FormingBar α → MarketData α → Bool)
    (run entered : TickRun α) (tick : MarketData α) (forming : FormingBar α)
    (enters : run.enterBar command sameBar tick = .ok (entered, forming)) :
    let started := FormingBar.start (barBounds tick.openTime command.interval.toSeconds) tick
    (run.forming = none ∧ entered = run ∧ forming = started) ∨
      (∃ held, run.forming = some held ∧ sameBar held tick = true ∧ entered = run ∧ forming = held.absorb tick) ∨
      ∃ held, run.forming = some held ∧ sameBar held tick = false ∧ run.commitBar command held = .ok entered ∧
        forming = started := by
  intro started
  unfold enterBar at enters
  cases held : run.forming with
  | none =>
      simp only [held] at enters
      cases enters
      exact .inl ⟨rfl, rfl, rfl⟩
  | some bar =>
      simp only [held] at enters
      cases same : sameBar bar tick with
      | true =>
          rw [if_pos same] at enters
          cases enters
          exact .inr (.inl ⟨bar, rfl, same, rfl, rfl⟩)
      | false =>
          rw [if_neg (by simp [same])] at enters
          cases committed : run.commitBar command bar with
          | error raised =>
              rw [committed] at enters
              cases enters
          | ok next =>
              rw [committed] at enters
              cases enters
              exact .inr (.inr ⟨bar, rfl, same, committed, rfl⟩)

theorem step_cases (sameBar : FormingBar α → MarketData α → Bool) (command : BacktestCommand α)
    (run next : TickRun α) (tick : MarketData α) (stepped : run.stepWith sameBar command tick = .ok next) :
    ∃ entered forming, run.enterBar command sameBar tick = .ok (entered, forming) ∧
      ((forming.barEnd ≤ tick.closeTime + closeTimeIsInclusiveBy ∧ entered.commitBar command forming = .ok next) ∨
        (tick.closeTime + closeTimeIsInclusiveBy < forming.barEnd ∧
          entered.evaluateForming command forming tick = .ok next)) := by
  unfold stepWith at stepped
  cases enters : run.enterBar command sameBar tick with
  | error raised =>
      rw [enters] at stepped
      cases stepped
  | ok result =>
      obtain ⟨entered, forming⟩ := result
      rw [enters] at stepped
      simp only [bind, Except.bind] at stepped
      split_ifs at stepped with closes
      · exact ⟨entered, forming, rfl, .inl ⟨closes, stepped⟩⟩
      · exact ⟨entered, forming, rfl, .inr ⟨not_le.mp closes, stepped⟩⟩

theorem commit_returns (command : BacktestCommand α) (run : TickRun α) (forming : FormingBar α)
    (aligned : run.engine.KeysAligned) : ∃ next, run.commitBar command forming = .ok next ∧ next.engine.KeysAligned := by
  obtain ⟨signal, engine, ticked, nextAligned⟩ := on_tick_returns run.engine
    (forming.toCandle command.symbol command.interval.value true) run.exchange.currentSide aligned
  cases committed : run.commitBar command forming with
  | error raised =>
      simp only [commitBar, ticked] at committed
      cases committed
  | ok next =>
      obtain ⟨_, tickedToo, _⟩ := run.commit_cases command next forming committed
      cases tickedToo.symm.trans ticked
      exact ⟨next, rfl, nextAligned⟩

theorem evaluate_returns (command : BacktestCommand α) (run : TickRun α) (forming : FormingBar α) (tick : MarketData α)
    (aligned : run.engine.KeysAligned) :
    ∃ next, run.evaluateForming command forming tick = .ok next ∧ next.engine.KeysAligned := by
  obtain ⟨signal, engine, ticked, nextAligned⟩ := on_forming_bar_tick_returns run.engine
    (forming.toCandle command.symbol command.interval.value false) run.exchange.currentSide aligned rfl
  cases evaluated : run.evaluateForming command forming tick with
  | error raised =>
      simp only [evaluateForming, ticked] at evaluated
      cases evaluated
  | ok next =>
      obtain ⟨_, tickedToo, _⟩ := run.evaluate_cases command next forming tick evaluated
      cases tickedToo.symm.trans ticked
      exact ⟨next, rfl, nextAligned⟩

theorem enter_returns (command : BacktestCommand α) (sameBar : FormingBar α → MarketData α → Bool) (run : TickRun α)
    (tick : MarketData α) (aligned : run.engine.KeysAligned) :
    ∃ entered forming, run.enterBar command sameBar tick = .ok (entered, forming) ∧ entered.engine.KeysAligned := by
  unfold enterBar
  cases run.forming with
  | none => exact ⟨run, _, rfl, aligned⟩
  | some held =>
      cases same : sameBar held tick with
      | true => exact ⟨run, held.absorb tick, by simp [same], aligned⟩
      | false =>
          obtain ⟨next, committed, nextAligned⟩ := run.commit_returns command held aligned
          exact ⟨next, _, by simp [same, committed]; rfl, nextAligned⟩

theorem step_returns (sameBar : FormingBar α → MarketData α → Bool) (command : BacktestCommand α) (run : TickRun α)
    (tick : MarketData α) (aligned : run.engine.KeysAligned) :
    ∃ next, run.stepWith sameBar command tick = .ok next ∧ next.engine.KeysAligned := by
  obtain ⟨entered, forming, enters, enteredAligned⟩ := run.enter_returns command sameBar tick aligned
  unfold stepWith
  rw [enters]
  simp only [bind, Except.bind]
  split_ifs
  · exact entered.commit_returns command forming enteredAligned
  · exact entered.evaluate_returns command forming tick enteredAligned

end TickRun

theorem simulate_ticks_replays (command : BacktestCommand α) (totalTicks : ℕ) (ticks : List (MarketData α))
    (result : BacktestResult α) (ran : simulateTicks command totalTicks ticks = .ok result) :
    ∃ exchange run done last, command.exchange = some exchange ∧
      ticks.foldlM (TickRun.tick command) (TickRun.start command exchange) = .ok run ∧ run.flush command = .ok done ∧
      ticks.getLast? = some last ∧ result = done.result command last := by
  cases funded : command.exchange with
  | none =>
      simp only [simulateTicks, funded] at ran
      cases ran
  | some exchange =>
      cases polled : command.poll (TickRun.tick command) "realtime" totalTicks 0 (TickRun.start command exchange) ticks with
      | error stopped =>
          simp only [simulateTicks, funded, polled] at ran
          cases ran
      | ok run =>
          cases flushed : run.flush command with
          | error raised =>
              simp only [simulateTicks, funded, polled, bind, Except.bind, flushed, Except.mapError] at ran
              cases ran
          | ok done =>
              cases ended : ticks.getLast? with
              | none =>
                  simp only [simulateTicks, funded, polled, bind, Except.bind, flushed, Except.mapError, ended] at ran
                  cases ran
              | some last =>
                  simp only [simulateTicks, funded, polled, bind, Except.bind, flushed, Except.mapError, ended] at ran
                  cases ran
                  exact ⟨exchange, run, done, last, rfl, command.poll_folds _ _ _ _ _ _ _ polled, flushed, rfl, rfl⟩

theorem simulate_ticks_returns (command : BacktestCommand α) (totalTicks : ℕ) (ticks : List (MarketData α))
    (exchange : PaperExchange α) (funded : command.exchange = some exchange) (nonempty : ticks ≠ [])
    (uncancelled : ∀ processed, command.cancellationRequested processed = false) :
    ∃ result, simulateTicks command totalTicks ticks = .ok result := by
  obtain ⟨run, folded, aligned⟩ := Streaming.fold_returns (TickRun.tick command) (fun run => run.engine.KeysAligned)
    (fun run tick aligned => run.step_returns FormingBar.contains command tick aligned) (TickRun.start command exchange)
    ticks (engine_build_aligned command.strategy)
  have polled := command.poll_uncancelled (TickRun.tick command) "realtime" totalTicks 0 _ run ticks uncancelled folded
  obtain ⟨done, flushed⟩ : ∃ done, run.flush command = .ok done := by
    unfold TickRun.flush
    cases run.forming with
    | none => exact ⟨run, rfl⟩
    | some forming =>
        obtain ⟨done, committed, _⟩ := run.commit_returns command forming aligned
        exact ⟨done, committed⟩
  obtain ⟨last, ended⟩ : ∃ last, ticks.getLast? = some last :=
    Option.isSome_iff_exists.mp (by simpa using nonempty)
  refine ⟨done.result command last, ?_⟩
  simp only [simulateTicks, funded, polled, bind, Except.bind, flushed, Except.mapError, ended]
  rfl

end Sagittarius
