import Sagittarius.Backtest.BacktestCommand

set_option autoImplicit false

namespace Sagittarius

variable {α : Type} [PyFloat α]

structure StaticRun (α : Type) [PyFloat α] where
  engine : StrategyEngine α
  exchange : PaperExchange α
  pendingSignal : Option (Signal α)
  equityCurve : EquityCurve α

namespace StaticRun

def start (command : BacktestCommand α) (exchange : PaperExchange α) : StaticRun α where
  engine := StrategyEngine.build command.strategy
  exchange := exchange
  pendingSignal := none
  equityCurve := []

def filled (run : StaticRun α) (candle : MarketData α) : PaperExchange α :=
  run.exchange.fillAny run.pendingSignal candle.openPrice candle.openTime

def checked (run : StaticRun α) (candle : MarketData α) : PaperExchange α :=
  ((run.filled candle).checkIntrabarStops candle.highPrice candle.lowPrice candle.closeTime).2

def bar (run : StaticRun α) (candle : MarketData α) : Except PyError (StaticRun α) := do
  let exchange := run.checked candle
  let (pendingSignal, engine) ← run.engine.onTick candle exchange.currentSide
  let equityCurve := run.equityCurve ++ [(candle.closeTime, exchange.equity candle.closePrice)]
  return { engine, exchange, pendingSignal, equityCurve }

def replay (run : StaticRun α) (klines : List (MarketData α)) : Except PyError (StaticRun α) := klines.foldlM bar run

end StaticRun

def StaticRun.result (run : StaticRun α) (command : BacktestCommand α) (last : MarketData α) : BacktestResult α :=
  let closed := (run.exchange.forceClose last.closePrice last.closeTime).2
  BacktestResult.compute command.symbol command.initialBalance closed.balance closed.trades run.equityCurve

def simulate (command : BacktestCommand α) (phase : String) (phaseBarCount completedBefore totalBars : ℕ)
    (klines : List (MarketData α)) : Except SimulationStop (BacktestResult α) :=
  match command.exchange with
  | none => .error .accountRefused
  | some exchange => do
      let run ← command.poll StaticRun.bar phase totalBars completedBefore (StaticRun.start command exchange) klines
      match klines.getLast? with
      | none => throw (.emptyStream phase phaseBarCount)
      | some last => return run.result command last

def roundHalfEven (value : α) : ℤ :=
  let below := PyFloat.toInt value
  let fraction := value - PyFloat.ofInt below
  let half : α := PyFloat.literal (1 / 2)
  if fraction < half then below
  else if half < fraction then below + 1
  else if below % 2 = 0 then below else below + 1

def defaultInSampleRatio : α := PyFloat.literal (7 / 10)

def splitCountForOutOfSample (total : ℕ) (inSampleRatio : α) : ℕ × ℕ :=
  let splitIndex := (roundHalfEven (PyFloat.ofInt total * inSampleRatio)).toNat
  (splitIndex, total - splitIndex)

structure OutOfSampleValidation (α : Type) where
  inSample : BacktestResult α
  outOfSample : BacktestResult α
  inSampleRatio : α

structure StaticBacktest (α : Type) where
  full : BacktestResult α
  outOfSample : Option (OutOfSampleValidation α)

def streamKlines (rows : List (MarketData α)) (offset limit : ℕ) : List (MarketData α) := (rows.drop offset).take limit

def runStaticBacktest (command : BacktestCommand α) (rows : List (MarketData α)) :
    Except SimulationStop (Option (StaticBacktest α)) :=
  let totalCount := command.limit.elim rows.length (min · rows.length)
  if totalCount = 0 then .ok none
  else
    let (inSampleCount, outOfSampleCount) := splitCountForOutOfSample totalCount (defaultInSampleRatio : α)
    if inSampleCount ≠ 0 ∧ outOfSampleCount ≠ 0 then do
      let totalBars := totalCount * 2
      let inSample ← simulate command "in_sample" inSampleCount 0 totalBars (streamKlines rows 0 inSampleCount)
      let outOfSample ← simulate command "out_of_sample" outOfSampleCount inSampleCount totalBars
        (streamKlines rows inSampleCount outOfSampleCount)
      let full ← simulate command "full" totalCount (inSampleCount + outOfSampleCount) totalBars
        (streamKlines rows 0 totalCount)
      return some { full, outOfSample := some { inSample, outOfSample, inSampleRatio := defaultInSampleRatio } }
    else do
      let full ← simulate command "full" totalCount 0 totalCount (streamKlines rows 0 totalCount)
      return some { full, outOfSample := none }

namespace StaticRun

theorem bar_cases (run next : StaticRun α) (candle : MarketData α) (stepped : run.bar candle = .ok next) :
    run.engine.onTick candle (run.checked candle).currentSide = .ok (next.pendingSignal, next.engine) ∧
      next.exchange = run.checked candle ∧
      next.equityCurve = run.equityCurve ++ [(candle.closeTime, (run.checked candle).equity candle.closePrice)] := by
  cases ticked : run.engine.onTick candle (run.checked candle).currentSide with
  | error raised =>
      simp only [bar, ticked] at stepped
      cases stepped
  | ok result =>
      simp only [bar, ticked] at stepped
      cases stepped
      exact ⟨rfl, rfl, rfl⟩

theorem bar_returns (run : StaticRun α) (candle : MarketData α) (aligned : run.engine.KeysAligned) :
    ∃ next, run.bar candle = .ok next ∧ next.engine.KeysAligned := by
  obtain ⟨signal, engine, ticked, nextAligned⟩ :=
    on_tick_returns run.engine candle (run.checked candle).currentSide aligned
  have stepped : run.bar candle = .ok {
      engine
      exchange := run.checked candle
      pendingSignal := signal
      equityCurve := run.equityCurve ++ [(candle.closeTime, (run.checked candle).equity candle.closePrice)] } := by
    simp only [bar, ticked]
    rfl
  exact ⟨_, stepped, nextAligned⟩

end StaticRun

theorem simulate_replays (command : BacktestCommand α) (phase : String) (phaseBarCount completedBefore totalBars : ℕ)
    (klines : List (MarketData α)) (result : BacktestResult α)
    (ran : simulate command phase phaseBarCount completedBefore totalBars klines = .ok result) :
    ∃ exchange run last, command.exchange = some exchange ∧
      (StaticRun.start command exchange).replay klines = .ok run ∧ klines.getLast? = some last ∧
      result = run.result command last := by
  cases funded : command.exchange with
  | none =>
      simp only [simulate, funded] at ran
      cases ran
  | some exchange =>
      cases polled : command.poll StaticRun.bar phase totalBars completedBefore (StaticRun.start command exchange) klines with
      | error stopped =>
          simp only [simulate, funded, polled] at ran
          cases ran
      | ok run =>
          cases ended : klines.getLast? with
          | none =>
              simp only [simulate, funded, polled, ended] at ran
              cases ran
          | some last =>
              simp only [simulate, funded, polled, ended] at ran
              cases ran
              exact ⟨exchange, run, last, rfl, command.poll_folds _ _ _ _ _ _ _ polled, rfl, rfl⟩

theorem simulate_returns (command : BacktestCommand α) (phase : String) (phaseBarCount completedBefore totalBars : ℕ)
    (klines : List (MarketData α)) (exchange : PaperExchange α) (funded : command.exchange = some exchange)
    (nonempty : klines ≠ []) (uncancelled : ∀ processed, command.cancellationRequested processed = false) :
    ∃ result, simulate command phase phaseBarCount completedBefore totalBars klines = .ok result := by
  obtain ⟨run, replayed, _⟩ := Streaming.fold_returns StaticRun.bar (fun run => run.engine.KeysAligned)
    (fun run candle aligned => run.bar_returns candle aligned) (StaticRun.start command exchange) klines
    (engine_build_aligned command.strategy)
  have polled := command.poll_uncancelled StaticRun.bar phase totalBars completedBefore (StaticRun.start command exchange)
    run klines uncancelled replayed
  obtain ⟨last, ended⟩ : ∃ last, klines.getLast? = some last :=
    Option.isSome_iff_exists.mp (by simpa using nonempty)
  refine ⟨run.result command last, ?_⟩
  simp only [simulate, funded, polled, ended]
  rfl

end Sagittarius
