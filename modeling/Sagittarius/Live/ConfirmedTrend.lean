import Sagittarius.Domain.IndicatorHistory
import Sagittarius.Live.FormingBars
import Sagittarius.Strategies.TrendConfirmation

set_option autoImplicit false

namespace Sagittarius

variable {α : Type} [PyFloat α]

namespace EmaTrendPullbackStrategy

theorem ema_long_positive (inputs : EmaTrendPullbackInputs α) : 0 < inputs.emaLongLen := by
  have declared := inputs.emaLongLenDeclared
  omega

theorem ema_entry_positive (inputs : EmaTrendPullbackInputs α) : 0 < inputs.emaEntryLen := by
  have declared := inputs.emaEntryLenDeclared
  omega

def longEma (inputs : EmaTrendPullbackInputs α) : EMA α := .build inputs.emaLongLen (ema_long_positive inputs)

def entryEma (inputs : EmaTrendPullbackInputs α) : EMA α := .build inputs.emaEntryLen (ema_entry_positive inputs)

def placementAt (inputs : EmaTrendPullbackInputs α) (earlier : List (MarketData α)) (candle : MarketData α) :
    Option (Confirming.Placement TrendSide) :=
  match (longEma inputs).reading (candleCloses (earlier ++ [candle])), (entryEma inputs).reading (candleCloses (earlier ++ [candle])) with
  | some emaLong, some _ => some (placement inputs candle emaLong)
  | _, _ => none

def placements (inputs : EmaTrendPullbackInputs α) (candles : List (MarketData α)) :
    List (Confirming.Placement TrendSide) := Streaming.observations (placementAt inputs) [] candles

theorem placements_append (inputs : EmaTrendPullbackInputs α) (candles : List (MarketData α)) (candle : MarketData α) :
    placements inputs (candles ++ [candle]) = placements inputs candles ++ (placementAt inputs candles candle).toList :=
  Streaming.observations_append (placementAt inputs) [] candles candle

theorem placements_length (inputs : EmaTrendPullbackInputs α) (candles : List (MarketData α)) :
    (placements inputs candles).length ≤ candles.length := Streaming.observations_length (placementAt inputs) [] candles

def emas (inputs : EmaTrendPullbackInputs α) (values : List α) : List (String × Indicator α) :=
  emasHolding [(emaLongKey, longEma inputs), (emaEntryKey, entryEma inputs)] values

-- The state that the closed candles alone determine, forming ticks or not.
structure FollowsTrend (inputs : EmaTrendPullbackInputs α) (candles : List (MarketData α)) (engine : StrategyEngine α) :
    Prop where
  indicators : engine.indicators = emas inputs (candleCloses candles)
  commits : ∃ strategy, engine.strategy = .emaTrendConfirmPullback strategy ∧ strategy.inputs = inputs ∧
    strategy.CommitsTally (placements inputs candles)

theorem build_follows (inputs : EmaTrendPullbackInputs α) :
    FollowsTrend inputs [] (StrategyEngine.build (.emaTrendConfirmPullback inputs)) := by
  refine ⟨?_, setup inputs, rfl, rfl, setup_commits inputs⟩
  have long := EMA.feed_holding (longEma inputs) ⟨rfl, rfl⟩ []
  have entry := EMA.feed_holding (entryEma inputs) ⟨rfl, rfl⟩ []
  change _ = [(emaLongKey, Indicator.ema ((longEma inputs).holding [])), (emaEntryKey, .ema ((entryEma inputs).holding []))]
  rw [← long, ← entry]
  rfl

theorem updated_readings (inputs : EmaTrendPullbackInputs α) (earlier : List (MarketData α)) (candle : MarketData α) :
    StrategyEngine.updateIndicators (emas inputs (candleCloses earlier)) candle =
      (emaReadings [(emaLongKey, longEma inputs), (emaEntryKey, entryEma inputs)] (candleCloses (earlier ++ [candle])),
        emas inputs (candleCloses (earlier ++ [candle]))) := by
  rw [candle_closes_append]
  exact update_emas [(emaLongKey, longEma inputs), (emaEntryKey, entryEma inputs)] (candleCloses earlier) candle

theorem peeked_readings (inputs : EmaTrendPullbackInputs α) (earlier : List (MarketData α)) (candle : MarketData α)
    (readings : Readings α) (peeked : StrategyEngine.peekIndicators (emas inputs (candleCloses earlier)) candle = some readings) :
    emaReadings [(emaLongKey, longEma inputs), (emaEntryKey, entryEma inputs)] (candleCloses (earlier ++ [candle])) =
      some readings := by
  rw [candle_closes_append]
  exact peek_emas [(emaLongKey, longEma inputs), (emaEntryKey, entryEma inputs)] (candleCloses earlier) candle readings peeked

theorem readings_some (inputs : EmaTrendPullbackInputs α) (values : List α) (readings : Readings α)
    (ready : emaReadings [(emaLongKey, longEma inputs), (emaEntryKey, entryEma inputs)] values = some readings) :
    ∃ emaLong emaEntry, (longEma inputs).reading values = some emaLong ∧ (entryEma inputs).reading values = some emaEntry ∧
      readings = [(emaLongKey, .number emaLong), (emaEntryKey, .number emaEntry)] := by
  simp only [emaReadings, List.mapM_cons, List.mapM_nil, Option.bind_eq_bind, Option.bind_eq_some_iff,
    Option.map_eq_some_iff, Option.pure_def, Option.some.injEq] at ready
  obtain ⟨_, ⟨emaLong, longRead, rfl⟩, _, ⟨_, ⟨emaEntry, entryRead, rfl⟩, _, rfl, rfl⟩, rfl⟩ := ready
  exact ⟨emaLong, emaEntry, longRead, entryRead, rfl⟩

theorem placement_unready (inputs : EmaTrendPullbackInputs α) (earlier : List (MarketData α)) (candle : MarketData α)
    (unready : emaReadings [(emaLongKey, longEma inputs), (emaEntryKey, entryEma inputs)] (candleCloses (earlier ++ [candle])) =
      none) : placementAt inputs earlier candle = none := by
  rw [placementAt]
  cases longRead : (longEma inputs).reading (candleCloses (earlier ++ [candle])) with
  | none => rfl
  | some emaLong =>
      cases entryRead : (entryEma inputs).reading (candleCloses (earlier ++ [candle])) with
      | none => rfl
      | some emaEntry =>
          simp only [emaReadings, List.mapM_cons, longRead, entryRead] at unready
          cases unready

-- An entry follows the last run, the bar that is evaluated counted in.
def EntersConfirmed (inputs : EmaTrendPullbackInputs α) (candles : List (MarketData α)) (candle : MarketData α)
    (signal : Signal α) : Prop :=
  ∃ bar, placementAt inputs candles candle = some bar ∧
    (signal.action = .buy → Confirming.LastRun inputs.tickConfirm .up (placements inputs candles ++ [bar])) ∧
    (signal.action = .short → Confirming.LastRun inputs.tickConfirm .down (placements inputs candles ++ [bar]))

theorem placement_at_read (inputs : EmaTrendPullbackInputs α) (earlier : List (MarketData α)) (candle : MarketData α)
    (emaLong emaEntry : α) (longRead : (longEma inputs).reading (candleCloses (earlier ++ [candle])) = some emaLong)
    (entryRead : (entryEma inputs).reading (candleCloses (earlier ++ [candle])) = some emaEntry) :
    placementAt inputs earlier candle = some (placement inputs candle emaLong) := by
  rw [placementAt, longRead, entryRead]

theorem evaluates_tally (strategy : EmaTrendPullbackStrategy α) (candles : List (MarketData α)) (candle : MarketData α)
    (side : Option PositionSide) (emaLong emaEntry : α)
    (commits : strategy.CommitsTally (placements strategy.inputs candles))
    (exact : CountsExactly α (candles.length + 1))
    (placed : placementAt strategy.inputs candles candle = some (placement strategy.inputs candle emaLong)) :
    ∃ signal next, (Strategy.emaTrendConfirmPullback strategy).evaluate
          { candle, indicators := [(emaLongKey, .number emaLong), (emaEntryKey, .number emaEntry)],
            currentPositionSide := side } = .ok (signal, .emaTrendConfirmPullback next) ∧
      next.inputs = strategy.inputs ∧
      next.CommitsTally (if candle.isClosed then placements strategy.inputs (candles ++ [candle])
        else placements strategy.inputs candles) ∧
      EntersConfirmed strategy.inputs candles candle signal := by
  let context : StrategyContext α :=
    { candle, indicators := [(emaLongKey, .number emaLong), (emaEntryKey, .number emaEntry)], currentPositionSide := side }
  have counted : CountsExactly α ((placements strategy.inputs candles).length + 1) := fun z low high =>
    exact z low (high.trans (by have bounded := placements_length strategy.inputs candles; omega))
  have decided := strategy.decide_spec emaLong emaEntry context rfl rfl
  obtain ⟨inputs, commit⟩ := strategy.entry_conditions_commit _ emaLong emaEntry context commits counted
  have confirmed := congrArg Prod.fst (strategy.update_trend_tally _ emaLong context commits counted)
  generalize (strategy.updateTrendConfirmation (touchesLong strategy.inputs context.candle emaLong)
    context.candle.closePrice emaLong context).1 = trend at decided confirmed
  obtain ⟨buys, shorts⟩ := strategy.decision_buys trend emaLong emaEntry context
  have positive : 0 < strategy.inputs.tickConfirm := strategy.inputs.tickConfirmDeclared.1
  refine ⟨(strategy.decision trend emaLong emaEntry context).signal candle,
    (strategy.entryConditions emaLong emaEntry context).2, ?_, inputs, ?_, placement strategy.inputs candle emaLong,
    placed, fun bought => ?_, fun shorted => ?_⟩
  · rw [Strategy.evaluate, Strategy.decide, decided]
    rfl
  · rw [placements_append, placed]
    exact commit
  · have up := buys bought
    rw [confirmed] at up
    exact (Confirming.confirmed_iff _ positive _ _).mp ((code_up_iff _).mp up)
  · have down := shorts shorted
    rw [confirmed] at down
    exact (Confirming.confirmed_iff _ positive _ _).mp ((code_down_iff _).mp down)

theorem answer_follows (inputs : EmaTrendPullbackInputs α) (candles : List (MarketData α)) (engine : StrategyEngine α)
    (call : EngineCall α) (follows : FollowsTrend inputs candles engine) (exact : CountsExactly α (candles.length + 1)) :
    ∃ signal next, engine.answer call = .ok (signal, next) ∧
      FollowsTrend inputs (candles ++ call.closedCandle.toList) next ∧
      ∀ emitted, signal = some emitted → EntersConfirmed inputs candles call.candle emitted := by
  obtain ⟨strategy, same, rfl, commits⟩ := follows.commits
  have emits : ∀ signal emitted : Signal α, StrategyEngine.actionable signal = some emitted → emitted = signal := by
    intro signal emitted acts
    rw [StrategyEngine.actionable] at acts
    split_ifs at acts
    exact (Option.some.inj acts).symm
  cases call with
  | onTick candle side closed =>
      have updated := updated_readings strategy.inputs candles candle
      rw [← follows.indicators] at updated
      change ∃ signal next, engine.onTick candle side = .ok (signal, next) ∧
        FollowsTrend strategy.inputs (candles ++ [candle]) next ∧ _
      rw [StrategyEngine.onTick, updated]
      cases read : emaReadings [(emaLongKey, longEma strategy.inputs), (emaEntryKey, entryEma strategy.inputs)]
          (candleCloses (candles ++ [candle])) with
      | none =>
          have unplaced := placement_unready strategy.inputs candles candle read
          refine ⟨none, { engine with indicators := emas strategy.inputs (candleCloses (candles ++ [candle])) }, rfl,
            ⟨rfl, strategy, same, rfl, ?_⟩, nofun⟩
          rw [placements_append, unplaced]
          simpa using commits
      | some readings =>
          obtain ⟨emaLong, emaEntry, longRead, entryRead, rfl⟩ := readings_some strategy.inputs _ readings read
          obtain ⟨signal, next, evaluated, inputs, commit, enters⟩ := evaluates_tally strategy candles candle side
            emaLong emaEntry commits exact (placement_at_read _ candles candle emaLong emaEntry longRead entryRead)
          rw [if_pos closed] at commit
          refine ⟨StrategyEngine.actionable signal,
            { indicators := emas strategy.inputs (candleCloses (candles ++ [candle]))
              strategy := .emaTrendConfirmPullback next }, ?_, ⟨rfl, next, rfl, inputs, commit⟩, ?_⟩
          · simp only [same, evaluated]
            rfl
          · intro emitted acts
            rw [emits signal emitted acts]
            exact enters
  | onFormingBarTick candle side forming =>
      change ∃ signal next, engine.onFormingBarTick candle side = .ok (signal, next) ∧
        FollowsTrend strategy.inputs (candles ++ []) next ∧ _
      rw [List.append_nil, StrategyEngine.onFormingBarTick, if_neg (by simp [forming]), follows.indicators]
      cases peeked : StrategyEngine.peekIndicators (emas strategy.inputs (candleCloses candles)) candle with
      | none => exact ⟨none, engine, rfl, follows, nofun⟩
      | some readings =>
          obtain ⟨emaLong, emaEntry, longRead, entryRead, rfl⟩ := readings_some strategy.inputs _ readings
            (peeked_readings strategy.inputs candles candle readings peeked)
          obtain ⟨signal, next, evaluated, inputs, commit, enters⟩ := evaluates_tally strategy candles candle side
            emaLong emaEntry commits exact (placement_at_read _ candles candle emaLong emaEntry longRead entryRead)
          rw [if_neg (by simp [forming])] at commit
          refine ⟨StrategyEngine.actionable signal, { engine with strategy := .emaTrendConfirmPullback next }, ?_,
            ⟨follows.indicators, next, rfl, inputs, commit⟩, ?_⟩
          · simp only [same, evaluated, follows.indicators]
            rfl
          · intro emitted acts
            rw [emits signal emitted acts]
            exact enters

theorem run_follows (inputs : EmaTrendPullbackInputs α) (calls : List (EngineCall α))
    (exact : CountsExactly α (calls.length + 1)) :
    ∃ engine, Interleaving.run StrategyEngine.move (.build (.emaTrendConfirmPullback inputs)) calls = some engine ∧
      FollowsTrend inputs (closedCandles calls) engine := by
  refine StrategyEngine.run_tracks (FollowsTrend inputs) calls.length ?_ calls [] _ (by simp) (build_follows inputs)
  intro candles engine call short follows
  have counts : CountsExactly α (candles.length + 1) := fun z low high => exact z low (by omega)
  obtain ⟨signal, next, answered, followsNext, _⟩ := answer_follows inputs candles engine call follows counts
  exact ⟨signal, next, answered, followsNext⟩

end EmaTrendPullbackStrategy

theorem rational_counts_exactly (limit : ℕ) : CountsExactly ℚ limit := by
  intro z low high
  change (if (z : ℚ) < 0 then ⌈(z : ℚ)⌉ else ⌊(z : ℚ)⌋) = z
  split_ifs
  · exact Int.ceil_intCast z
  · exact Int.floor_intCast z

-- After any calls the counters are the fold of the trend rule over the closed
-- candles, and the next call enters only on a confirmed trend.
theorem trend_counts_closed_bars (inputs : EmaTrendPullbackInputs α) (calls : List (EngineCall α))
    (exact : CountsExactly α (calls.length + 1)) :
    ∃ engine strategy,
      Interleaving.run StrategyEngine.move (.build (.emaTrendConfirmPullback inputs)) calls = some engine ∧
        engine.strategy = .emaTrendConfirmPullback strategy ∧ strategy.inputs = inputs ∧
        strategy.CommitsTally (EmaTrendPullbackStrategy.placements inputs (closedCandles calls)) ∧
        ∀ call signal next, engine.answer call = .ok (some signal, next) →
          EmaTrendPullbackStrategy.EntersConfirmed inputs (closedCandles calls) call.candle signal := by
  obtain ⟨engine, ran, follows⟩ := EmaTrendPullbackStrategy.run_follows inputs calls exact
  obtain ⟨strategy, same, keeps, commits⟩ := follows.commits
  have closed : (closedCandles calls).length ≤ calls.length := List.length_filterMap_le _ _
  refine ⟨engine, strategy, ran, same, keeps, commits, fun call signal next answered => ?_⟩
  obtain ⟨emitted, after, answeredToo, _, enters⟩ := EmaTrendPullbackStrategy.answer_follows inputs (closedCandles calls)
    engine call follows fun z low high => exact z low (by omega)
  rw [answered] at answeredToo
  cases answeredToo
  exact enters signal rfl

theorem ten_declared : 10 ≤ 10 ∧ 10 ≤ 500 := by decide

theorem three_declared : 1 ≤ 3 ∧ 3 ≤ 20 := by decide

theorem touch_default_declared : FloatInput 0 0 5 (PyFloat.literal 0 : ℚ) := float_default_declared 0 0 5

theorem pullback_default_declared : FloatInput (2 / 10) (1 / 10) 3 (PyFloat.literal (2 / 10) : ℚ) :=
  float_default_declared (2 / 10) (1 / 10) 3

theorem profit_default_declared : FloatInput 2 (1 / 2) 20 (PyFloat.literal 2 : ℚ) := float_default_declared 2 (1 / 2) 20

def threeBarTrend : EmaTrendPullbackInputs ℚ where
  emaLongLen := 10
  tickConfirm := 3
  emaEntryLen := 10
  emaLongLenDeclared := ten_declared
  tickConfirmDeclared := three_declared
  touchSensitivityDeclared := touch_default_declared
  emaEntryLenDeclared := ten_declared
  pullbackSensitivityDeclared := pullback_default_declared
  takeProfitPercentDeclared := profit_default_declared

-- Both averages are ready on the tenth bar. Three bars close above the long one
-- after it, with forming ticks below it before each.
def risingCalls : List (EngineCall ℚ) :=
  [closedCall 0 100, closedCall 1 100, closedCall 2 100, closedCall 3 100, closedCall 4 100, closedCall 5 100,
    closedCall 6 100, closedCall 7 100, closedCall 8 100, closedCall 9 100, formingCall 10 50, closedCall 10 110,
    formingCall 11 50, formingCall 11 130, closedCall 11 120, formingCall 12 50, closedCall 12 130]

theorem rising_placements : EmaTrendPullbackStrategy.placements threeBarTrend (closedCandles risingCalls) =
    [.reset, .on .up, .on .up, .on .up] := by decide +kernel

theorem trend_counts_between_ticks :
    ∃ engine strategy,
      Interleaving.run StrategyEngine.move (.build (.emaTrendConfirmPullback threeBarTrend)) risingCalls = some engine ∧
        engine.strategy = .emaTrendConfirmPullback strategy ∧
        strategy.trendSide.committed 0 = some 1 ∧ strategy.consecutiveBars.committed 0 = some 3 ∧
        strategy.confirmedTrend.committed 0 = some 1 ∧
        ∀ call signal next, engine.answer call = .ok (some signal, next) →
          EmaTrendPullbackStrategy.EntersConfirmed threeBarTrend (closedCandles risingCalls) call.candle signal := by
  obtain ⟨engine, strategy, ran, same, keeps, commits, enters⟩ :=
    trend_counts_closed_bars threeBarTrend risingCalls (rational_counts_exactly (risingCalls.length + 1))
  rw [rising_placements] at commits
  have needed : strategy.inputs.tickConfirm = 3 := by rw [keeps]; rfl
  obtain ⟨side, count, confirmed⟩ := commits
  rw [needed] at side count confirmed
  exact ⟨engine, strategy, ran, same, side.trans (by decide +kernel), count.trans (by decide +kernel),
    confirmed.trans (by decide +kernel), enters⟩

end Sagittarius
