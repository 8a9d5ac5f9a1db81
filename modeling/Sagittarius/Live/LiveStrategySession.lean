import Sagittarius.Live.StrategyEngine

set_option autoImplicit false

namespace Sagittarius

variable {α : Type} [PyFloat α]

def supportedLiveIntervals : List String := ["1m", "3m", "5m", "15m", "30m", "1h", "4h", "1d"]

-- `choice` stands for the key and the parameters together, once the registry
-- has accepted them.
structure LiveStrategyConfig (α : Type) [PyFloat α] where
  choice : StrategyChoice α
  symbol : String
  interval : String
  sizingPercent : α
  leverage : α
  sizingInRange : PyFloat.literal (1 / 10) ≤ sizingPercent ∧ sizingPercent ≤ PyFloat.literal 100
  leverageInRange : PyFloat.literal 1 ≤ leverage ∧ leverage ≤ PyFloat.literal 125
  intervalSupported : interval = "" ∨ interval ∈ supportedLiveIntervals

def LiveStrategyConfig.isComplete (config : LiveStrategyConfig α) : Bool :=
  config.choice.key != "" && config.symbol != "" && config.interval != ""

def LiveStrategyConfig.covers (config : LiveStrategyConfig α) (marketData : MarketData α) : Bool :=
  marketData.symbol == config.symbol && marketData.interval == config.interval

structure ArmedStrategy (α : Type) [PyFloat α] where
  config : LiveStrategyConfig α
  engine : StrategyEngine α

structure LiveStrategySession (α : Type) [PyFloat α] where
  armed : Option (ArmedStrategy α) := none
  generation : ℕ := 0

namespace LiveStrategySession

def isArmed (session : LiveStrategySession α) : Bool := session.armed.isSome

def arm (session : LiveStrategySession α) (config : LiveStrategyConfig α) :
    Except PyError (LiveStrategySession α) :=
  if config.isComplete then
    .ok { armed := some { config, engine := .build config.choice }, generation := session.generation + 1 }
  else
    .error (.valueError ("A live strategy needs a strategy key, a symbol and an interval; got key=" ++
      pyRepr config.choice.key ++ " symbol=" ++ pyRepr config.symbol ++ " interval=" ++ pyRepr config.interval ++ "."))

def disarm (session : LiveStrategySession α) : LiveStrategySession α where
  armed := none
  generation := session.generation + 1

-- The signal returned is the one handed to `LiveTradingCoordinator.handle`.
def dispatchTick (session : LiveStrategySession α) (marketData : MarketData α) :
    Except PyError (Option (Signal α) × LiveStrategySession α) :=
  match session.armed with
  | none => .ok (none, session)
  | some armed =>
      if armed.config.covers marketData then do
        let (signal, engine) ← armed.engine.onTick marketData
        return (signal, { session with armed := some { armed with engine } })
      else .ok (none, session)

end LiveStrategySession

def handleTicks (session : LiveStrategySession α) (events : List (MarketData α)) :
    Except PyError (List (Signal α) × LiveStrategySession α) :=
  Streaming.feed LiveStrategySession.dispatchTick session events

def armedOn (config : LiveStrategyConfig α) (generation : ℕ) (engine : StrategyEngine α) : LiveStrategySession α where
  armed := some { config, engine }
  generation := generation

theorem dispatch_covered (config : LiveStrategyConfig α) (generation : ℕ) (engine : StrategyEngine α)
    (marketData : MarketData α) (covered : config.covers marketData = true) :
    (armedOn config generation engine).dispatchTick marketData =
      (fun result => (result.1, armedOn config generation result.2)) <$> engine.onTick marketData := by
  simp only [LiveStrategySession.dispatchTick, armedOn, if_pos covered, map_eq_pure_bind]

theorem dispatch_other (config : LiveStrategyConfig α) (generation : ℕ) (engine : StrategyEngine α)
    (marketData : MarketData α) (other : config.covers marketData = false) :
    (armedOn config generation engine).dispatchTick marketData = .ok (none, armedOn config generation engine) := by
  simp [LiveStrategySession.dispatchTick, armedOn, other]

def LiveStrategySession.Aligned (session : LiveStrategySession α) : Prop :=
  ∀ armed, session.armed = some armed → armed.engine.KeysAligned

theorem arm_aligned (session next : LiveStrategySession α) (config : LiveStrategyConfig α)
    (armed : session.arm config = .ok next) : next.Aligned := by
  unfold LiveStrategySession.arm at armed
  split_ifs at armed
  cases armed
  rintro other isArmed
  cases isArmed
  exact engine_build_aligned config.choice

theorem dispatch_tick_returns (session : LiveStrategySession α) (marketData : MarketData α)
    (aligned : session.Aligned) :
    ∃ signal next, session.dispatchTick marketData = .ok (signal, next) ∧ next.Aligned := by
  obtain ⟨armed, generation⟩ := session
  cases armed with
  | none => exact ⟨none, _, rfl, aligned⟩
  | some armed =>
      cases covered : armed.config.covers marketData with
      | false => exact ⟨none, _, dispatch_other armed.config generation armed.engine marketData covered, aligned⟩
      | true =>
          obtain ⟨signal, engine, ticked, nextAligned⟩ :=
            on_tick_returns armed.engine marketData none (aligned armed rfl)
          refine ⟨signal, armedOn armed.config generation engine, ?_, fun other isArmed => ?_⟩
          · have dispatched := dispatch_covered armed.config generation armed.engine marketData covered
            rw [ticked] at dispatched
            exact dispatched
          · cases isArmed
            exact nextAligned

def LiveStrategyConfig.closedCandle (config : LiveStrategyConfig α) (marketData : MarketData α) : Bool :=
  marketData.isClosed && config.covers marketData

theorem handle_ticks_commit_closed_candles (config : LiveStrategyConfig α) (generation : ℕ) (engine : StrategyEngine α)
    (events : List (MarketData α))
    (noneForming : ∀ event ∈ events, config.covers event = true → event.isClosed = true) :
    handleTicks (armedOn config generation engine) events =
      (fun result => (result.1, armedOn config generation result.2)) <$>
        engine.runBatch (events.filter config.closedCandle) := by
  refine Streaming.feed_filter LiveStrategySession.dispatchTick (fun engine candle => engine.onTick candle)
    (armedOn config generation) config.closedCandle (fun event => config.covers event = true → event.isClosed = true)
    ?_ ?_ engine events noneForming
  · intro engine event closes skipped
    apply dispatch_other
    cases covered : config.covers event with
    | false => rfl
    | true => simp [LiveStrategyConfig.closedCandle, covered, closes covered] at skipped
  · intro engine event _ kept
    apply dispatch_covered
    simp only [LiveStrategyConfig.closedCandle, Bool.and_eq_true] at kept
    exact kept.2

def flatBar (symbol : String) (minute : ℤ) (price : ℚ) (isClosed : Bool) : MarketData ℚ where
  symbol := symbol
  interval := "1m"
  openTime := minute * 60000000
  openPrice := price
  highPrice := price
  lowPrice := price
  closePrice := price
  volume := 1
  closeTime := minute * 60000000 + 59999000
  quoteAssetVolume := price
  numberOfTrades := 1
  takerBuyBaseAssetVolume := 1 / 2
  takerBuyQuoteAssetVolume := price / 2
  isClosed := isClosed

def crossoverConfig : LiveStrategyConfig ℚ where
  choice := .emaCrossover { fastPeriod := 1, slowPeriod := 2 }
  symbol := "BTCUSDT"
  interval := "1m"
  sizingPercent := 20
  leverage := 1
  sizingInRange := by decide +kernel
  leverageInRange := by decide +kernel
  intervalSupported := by decide

theorem handle_ticks_commit_closed_candles_mixed :
    handleTicks (armedOn crossoverConfig 1 (.build crossoverConfig.choice))
        [flatBar "BTCUSDT" 0 10 true, flatBar "ETHUSDT" 1 7 false, flatBar "BTCUSDT" 1 8 true] =
      (fun result => (result.1, armedOn crossoverConfig 1 result.2)) <$>
        (StrategyEngine.build crossoverConfig.choice).runBatch
          [flatBar "BTCUSDT" 0 10 true, flatBar "BTCUSDT" 1 8 true] :=
  handle_ticks_commit_closed_candles crossoverConfig 1 (.build crossoverConfig.choice)
    [flatBar "BTCUSDT" 0 10 true, flatBar "ETHUSDT" 1 7 false, flatBar "BTCUSDT" 1 8 true] (by decide +kernel)

-- The forming update of the third minute is committed and crosses the lines:
-- a BUY no closed candle has asked for.
theorem handle_ticks_commit_forming_candle :
    ¬ ∀ events : List (MarketData ℚ),
      handleTicks (armedOn crossoverConfig 1 (.build crossoverConfig.choice)) events =
        (fun result => (result.1, armedOn crossoverConfig 1 result.2)) <$>
          (StrategyEngine.build crossoverConfig.choice).runBatch (events.filter crossoverConfig.closedCandle) := by
  intro claimed
  have same := congrArg (Except.map Prod.fst) (claimed
    [flatBar "BTCUSDT" 0 10 true, flatBar "BTCUSDT" 1 8 true, flatBar "BTCUSDT" 2 12 false])
  revert same
  decide +kernel

end Sagittarius
