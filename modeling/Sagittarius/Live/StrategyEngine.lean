import Sagittarius.Domain.IndicatorHistory
import Sagittarius.Library.Stream
import Sagittarius.Strategies.Registry

set_option autoImplicit false

namespace Sagittarius

variable {α : Type} [PyFloat α]

structure StrategyEngine (α : Type) [PyFloat α] where
  indicators : List (String × Indicator α)
  strategy : Strategy α

namespace StrategyEngine

def build (choice : StrategyChoice α) : StrategyEngine α where
  indicators := choice.create.buildIndicators
  strategy := choice.create

-- Every indicator is updated, whether or not an earlier one is ready.
def updateIndicators (indicators : List (String × Indicator α)) (candle : MarketData α) :
    Option (Readings α) × List (String × Indicator α) :=
  (indicators.mapM fun entry => (entry.2.update candle.closePrice).1.map (Prod.mk entry.1),
    indicators.map fun entry => (entry.1, (entry.2.update candle.closePrice).2))

def actionable (signal : Signal α) : Option (Signal α) :=
  if signal.action = .hold then none else some signal

-- `_process_one`. A signal is returned exactly when it is published as a
-- SignalGeneratedEvent.
def onTick (engine : StrategyEngine α) (candle : MarketData α) (currentPositionSide : Option PositionSide := none) :
    Except PyError (Option (Signal α) × StrategyEngine α) :=
  match updateIndicators engine.indicators candle with
  | (none, indicators) => .ok (none, { engine with indicators })
  | (some readings, indicators) => do
      let (signal, strategy) ← engine.strategy.evaluate { candle, indicators := readings, currentPositionSide }
      return (actionable signal, { indicators, strategy })

def peekIndicators (indicators : List (String × Indicator α)) (candle : MarketData α) : Option (Readings α) :=
  indicators.mapM fun entry => (entry.2.peekProvisional candle.closePrice).map (Prod.mk entry.1)

def onFormingBarTick (engine : StrategyEngine α) (formingCandle : MarketData α)
    (currentPositionSide : Option PositionSide := none) : Except PyError (Option (Signal α) × StrategyEngine α) :=
  if formingCandle.isClosed then
    .error (.valueError ("on_forming_bar_tick() requires an open (is_closed=False) candle — " ++
      "a closed candle belongs on on_tick()."))
  else
    match peekIndicators engine.indicators formingCandle with
    | none => .ok (none, engine)
    | some readings => do
        let (signal, strategy) ← engine.strategy.evaluate
          { candle := formingCandle, indicators := readings, currentPositionSide }
        return (actionable signal, { engine with strategy })

def runBatch (engine : StrategyEngine α) (candles : List (MarketData α)) :
    Except PyError (List (Signal α) × StrategyEngine α) :=
  Streaming.feed (fun engine candle => engine.onTick candle) engine candles

omit [PyFloat α] in
theorem actionable_none (signal : Signal α) : actionable signal = none ↔ signal.action = .hold := by
  unfold actionable
  split_ifs with held
  · exact iff_of_true rfl held
  · exact iff_of_false (by simp) held

omit [PyFloat α] in
theorem actionable_not_hold (signal emitted : Signal α) (emits : actionable signal = some emitted) :
    emitted.action ≠ .hold := by
  unfold actionable at emits
  split at emits
  · cases emits
  · cases emits
    assumption

end StrategyEngine

def Strategy.declares : Strategy α → List (String × IndicatorKind)
  | .emaCrossover _ => [(EmaCrossoverStrategy.fastKey, .ema), (EmaCrossoverStrategy.slowKey, .ema)]
  | .multiEmaTrendFollower _ =>
      [(MultiEmaTrendFollowerStrategy.fastKey, .ema), (MultiEmaTrendFollowerStrategy.midFastKey, .ema),
        (MultiEmaTrendFollowerStrategy.midSlowKey, .ema), (MultiEmaTrendFollowerStrategy.slowKey, .ema)]
  | .supportResistance _ =>
      [(SupportResistanceStrategy.srKey, .supportResistance), (SupportResistanceStrategy.trendEmaKey, .ema)]
  | .emaTrendConfirmPullback _ =>
      [(EmaTrendPullbackStrategy.emaLongKey, .ema), (EmaTrendPullbackStrategy.emaEntryKey, .ema)]
  | .longTermTrendZone _ => [(LongTermTrendZoneStrategy.trendEmaKey, .ema)]
  | .volumeSpikeFlow _ => [(VolumeSpikeFlowStrategy.trendEmaKey, .ema)]

def StrategyEngine.KeysAligned (engine : StrategyEngine α) : Prop :=
  engine.indicators.map (fun entry => (entry.1, entry.2.kind)) = engine.strategy.declares

def Reads (readings : Readings α) (declared : List (String × IndicatorKind)) : Prop :=
  readings.map (fun entry => (entry.1, entry.2.kind)) = declared

theorem engine_build_aligned (choice : StrategyChoice α) : (StrategyEngine.build choice).KeysAligned := by
  cases choice <;> rfl

omit [PyFloat α] in
theorem reads_lookup (readings : Readings α) (declared : List (String × IndicatorKind)) (key : String)
    (kind : IndicatorKind) (reads : Reads readings declared) (asked : declared.lookup key = some kind) :
    ∃ value, readings.lookup key = some value ∧ value.kind = kind := by
  subst reads
  induction readings with
  | nil => cases asked
  | cons entry rest ih =>
      obtain ⟨name, reading⟩ := entry
      simp only [List.map_cons, List.lookup_cons] at asked ⊢
      cases same : key == name with
      | true =>
          rw [same] at asked
          exact ⟨reading, rfl, Option.some.inj asked⟩
      | false =>
          rw [same] at asked
          exact ih asked

omit [PyFloat α] in
theorem reads_number (context : StrategyContext α) (declared : List (String × IndicatorKind)) (key : String)
    (reads : Reads context.indicators declared) (asked : declared.lookup key = some .ema) :
    ∃ value, context.number key = .ok value := by
  obtain ⟨reading, found, isNumber⟩ := reads_lookup context.indicators declared key .ema reads asked
  cases reading with
  | number value => exact ⟨value, by simp [StrategyContext.number, found]⟩
  | levels value => cases isNumber

omit [PyFloat α] in
theorem reads_levels (context : StrategyContext α) (declared : List (String × IndicatorKind)) (key : String)
    (reads : Reads context.indicators declared) (asked : declared.lookup key = some .supportResistance) :
    ∃ value, context.levels key = .ok value := by
  obtain ⟨reading, found, isLevels⟩ := reads_lookup context.indicators declared key .supportResistance reads asked
  cases reading with
  | number value => cases isLevels
  | levels value => exact ⟨value, by simp [StrategyContext.levels, found]⟩

theorem ema_crossover_returns (strategy : EmaCrossoverStrategy α) (context : StrategyContext α)
    (reads : Reads context.indicators (Strategy.emaCrossover strategy).declares) :
    ∃ result, strategy.decide context = .ok result := by
  obtain ⟨fast, fastRead⟩ := reads_number context _ EmaCrossoverStrategy.fastKey reads rfl
  obtain ⟨slow, slowRead⟩ := reads_number context _ EmaCrossoverStrategy.slowKey reads rfl
  simp only [EmaCrossoverStrategy.decide, fastRead, slowRead, bind, Except.bind, pure, Except.pure]
  split_ifs <;> exact ⟨_, rfl⟩

theorem multi_ema_returns (strategy : MultiEmaTrendFollowerStrategy α) (context : StrategyContext α)
    (reads : Reads context.indicators (Strategy.multiEmaTrendFollower strategy).declares) :
    ∃ result, strategy.decide context = .ok result := by
  obtain ⟨fast, fastRead⟩ := reads_number context _ MultiEmaTrendFollowerStrategy.fastKey reads rfl
  obtain ⟨midFast, midFastRead⟩ := reads_number context _ MultiEmaTrendFollowerStrategy.midFastKey reads rfl
  obtain ⟨midSlow, midSlowRead⟩ := reads_number context _ MultiEmaTrendFollowerStrategy.midSlowKey reads rfl
  obtain ⟨slow, slowRead⟩ := reads_number context _ MultiEmaTrendFollowerStrategy.slowKey reads rfl
  simp only [MultiEmaTrendFollowerStrategy.decide, fastRead, midFastRead, midSlowRead, slowRead, bind, Except.bind,
    pure, Except.pure]
  split_ifs <;> exact ⟨_, rfl⟩

theorem support_resistance_returns (strategy : SupportResistanceStrategy α) (context : StrategyContext α)
    (reads : Reads context.indicators (Strategy.supportResistance strategy).declares) :
    ∃ result, strategy.decide context = .ok result := by
  obtain ⟨sr, srRead⟩ := reads_levels context _ SupportResistanceStrategy.srKey reads rfl
  obtain ⟨trendEma, trendRead⟩ := reads_number context _ SupportResistanceStrategy.trendEmaKey reads rfl
  simp only [SupportResistanceStrategy.decide, srRead, trendRead, bind, Except.bind, pure, Except.pure]
  split_ifs <;> exact ⟨_, rfl⟩

theorem ema_trend_pullback_returns (strategy : EmaTrendPullbackStrategy α) (context : StrategyContext α)
    (reads : Reads context.indicators (Strategy.emaTrendConfirmPullback strategy).declares) :
    ∃ result, strategy.decide context = .ok result := by
  obtain ⟨emaLong, longRead⟩ := reads_number context _ EmaTrendPullbackStrategy.emaLongKey reads rfl
  obtain ⟨emaEntry, entryRead⟩ := reads_number context _ EmaTrendPullbackStrategy.emaEntryKey reads rfl
  simp only [EmaTrendPullbackStrategy.decide, longRead, entryRead, bind, Except.bind, pure, Except.pure]
  split_ifs
  · exact ⟨_, rfl⟩
  · exact ⟨_, rfl⟩
  · cases context.currentPositionSide with
    | none => exact ⟨_, rfl⟩
    | some side => cases side <;> exact ⟨_, rfl⟩
  · exact ⟨_, rfl⟩

theorem long_term_trend_zone_returns (strategy : LongTermTrendZoneStrategy α) (context : StrategyContext α)
    (reads : Reads context.indicators (Strategy.longTermTrendZone strategy).declares) :
    ∃ result, strategy.decide context = .ok result := by
  obtain ⟨trendEma, trendRead⟩ := reads_number context _ LongTermTrendZoneStrategy.trendEmaKey reads rfl
  simp only [LongTermTrendZoneStrategy.decide, trendRead, bind, Except.bind, pure, Except.pure]
  split_ifs <;> exact ⟨_, rfl⟩

theorem volume_spike_flow_returns (strategy : VolumeSpikeFlowStrategy α) (context : StrategyContext α)
    (reads : Reads context.indicators (Strategy.volumeSpikeFlow strategy).declares) :
    ∃ result, strategy.decide context = .ok result := by
  obtain ⟨trendEma, trendRead⟩ := reads_number context _ VolumeSpikeFlowStrategy.trendEmaKey reads rfl
  simp only [VolumeSpikeFlowStrategy.decide, trendRead, bind, Except.bind, pure, Except.pure]
  split
  · exact ⟨_, rfl⟩
  · split_ifs
    · exact ⟨_, rfl⟩
    · split <;> exact ⟨_, rfl⟩

theorem strategy_decide_returns (strategy : Strategy α) (context : StrategyContext α)
    (reads : Reads context.indicators strategy.declares) :
    ∃ decision next, strategy.decide context = .ok (decision, next) ∧ next.declares = strategy.declares := by
  cases strategy with
  | emaCrossover strategy =>
      obtain ⟨result, decided⟩ := ema_crossover_returns strategy context reads
      exact ⟨result.1, .emaCrossover result.2, by rw [Strategy.decide, decided]; rfl, rfl⟩
  | multiEmaTrendFollower strategy =>
      obtain ⟨result, decided⟩ := multi_ema_returns strategy context reads
      exact ⟨result.1, .multiEmaTrendFollower result.2, by rw [Strategy.decide, decided]; rfl, rfl⟩
  | supportResistance strategy =>
      obtain ⟨result, decided⟩ := support_resistance_returns strategy context reads
      exact ⟨result.1, .supportResistance result.2, by rw [Strategy.decide, decided]; rfl, rfl⟩
  | emaTrendConfirmPullback strategy =>
      obtain ⟨result, decided⟩ := ema_trend_pullback_returns strategy context reads
      exact ⟨result.1, .emaTrendConfirmPullback result.2, by rw [Strategy.decide, decided]; rfl, rfl⟩
  | longTermTrendZone strategy =>
      obtain ⟨result, decided⟩ := long_term_trend_zone_returns strategy context reads
      exact ⟨result.1, .longTermTrendZone result.2, by rw [Strategy.decide, decided]; rfl, rfl⟩
  | volumeSpikeFlow strategy =>
      obtain ⟨result, decided⟩ := volume_spike_flow_returns strategy context reads
      exact ⟨result.1, .volumeSpikeFlow result.2, by rw [Strategy.decide, decided]; rfl, rfl⟩

theorem update_indicators_kinds (indicators : List (String × Indicator α)) (candle : MarketData α) :
    (StrategyEngine.updateIndicators indicators candle).2.map (fun entry => (entry.1, entry.2.kind)) =
      indicators.map (fun entry => (entry.1, entry.2.kind)) := by
  simp [StrategyEngine.updateIndicators]

omit [PyFloat α] in
theorem gathered_reads (reading : Indicator α → Option (IndicatorValue α))
    (kinds : ∀ indicator value, reading indicator = some value → value.kind = indicator.kind)
    (indicators : List (String × Indicator α)) (readings : Readings α)
    (ready : (indicators.mapM fun entry => (reading entry.2).map (Prod.mk entry.1)) = some readings) :
    Reads readings (indicators.map (fun entry => (entry.1, entry.2.kind))) := by
  induction indicators generalizing readings with
  | nil =>
      cases ready
      rfl
  | cons entry rest ih =>
      simp only [List.mapM_cons, Option.bind_eq_bind, Option.bind_eq_some_iff,
        Option.map_eq_some_iff, Option.pure_def, Option.some.injEq] at ready
      obtain ⟨named, ⟨value, isReady, rfl⟩, others, othersReady, rfl⟩ := ready
      have kind := kinds entry.2 value isReady
      have rest := ih others othersReady
      simp only [Reads, List.map_cons] at rest ⊢
      rw [kind, rest]

def emasHolding (entries : List (String × EMA α)) (values : List α) : List (String × Indicator α) :=
  entries.map fun entry => (entry.1, .ema (entry.2.holding values))

def emaReadings (entries : List (String × EMA α)) (values : List α) : Option (Readings α) :=
  entries.mapM fun entry => (entry.2.reading values).map fun value => (entry.1, .number value)

theorem update_emas (entries : List (String × EMA α)) (values : List α) (candle : MarketData α) :
    StrategyEngine.updateIndicators (emasHolding entries values) candle =
      (emaReadings entries (values ++ [candle.closePrice]), emasHolding entries (values ++ [candle.closePrice])) := by
  rw [StrategyEngine.updateIndicators]
  refine Prod.ext ?_ ?_
  · simp only [emaReadings, emasHolding, List.mapM_map, Function.comp_def, Indicator.update, EMA.update_holding,
      Option.map_map]
  · simp only [emasHolding, List.map_map, Function.comp_def, Indicator.update, EMA.update_holding]

theorem peek_emas (entries : List (String × EMA α)) (values : List α) (candle : MarketData α) (readings : Readings α)
    (peeked : StrategyEngine.peekIndicators (emasHolding entries values) candle = some readings) :
    emaReadings entries (values ++ [candle.closePrice]) = some readings := by
  simp only [StrategyEngine.peekIndicators, emasHolding, List.mapM_map, Function.comp_def, Indicator.peekProvisional,
    EMA.peek_holding, Option.map_map] at peeked
  rw [emaReadings]
  induction entries generalizing readings with
  | nil => exact peeked
  | cons entry rest ih =>
      simp only [List.mapM_cons, Option.bind_eq_bind, Option.bind_eq_some_iff, Option.pure_def] at peeked ⊢
      obtain ⟨first, firstRead, others, othersRead, whole⟩ := peeked
      refine ⟨first, ?_, others, ih others othersRead, whole⟩
      by_cases short : values.length < entry.2.period
      · rw [if_pos short] at firstRead
        cases firstRead
      · rw [if_neg short] at firstRead
        exact firstRead

theorem update_indicators_reads (indicators : List (String × Indicator α)) (candle : MarketData α)
    (readings : Readings α) (ready : (StrategyEngine.updateIndicators indicators candle).1 = some readings) :
    Reads readings (indicators.map (fun entry => (entry.1, entry.2.kind))) :=
  gathered_reads (fun indicator => (indicator.update candle.closePrice).1)
    (fun indicator => indicator_reading_kind indicator candle.closePrice) indicators readings ready

theorem peek_indicators_reads (indicators : List (String × Indicator α)) (candle : MarketData α)
    (readings : Readings α) (ready : StrategyEngine.peekIndicators indicators candle = some readings) :
    Reads readings (indicators.map (fun entry => (entry.1, entry.2.kind))) :=
  gathered_reads (fun indicator => indicator.peekProvisional candle.closePrice)
    (fun indicator => indicator_peek_kind indicator candle.closePrice) indicators readings ready

theorem on_tick_returns (engine : StrategyEngine α) (candle : MarketData α) (side : Option PositionSide)
    (aligned : engine.KeysAligned) :
    ∃ signal next, engine.onTick candle side = .ok (signal, next) ∧ next.KeysAligned := by
  have kinds := update_indicators_kinds engine.indicators candle
  unfold StrategyEngine.onTick
  generalize updated : StrategyEngine.updateIndicators engine.indicators candle = result at kinds
  obtain ⟨readings, indicators⟩ := result
  cases readings with
  | none => exact ⟨none, { engine with indicators }, rfl, kinds.trans aligned⟩
  | some readings =>
      have reads : Reads readings engine.strategy.declares := by
        rw [← aligned]
        exact update_indicators_reads engine.indicators candle readings (by rw [updated])
      obtain ⟨decision, strategy, decided, declares⟩ :=
        strategy_decide_returns engine.strategy { candle, indicators := readings, currentPositionSide := side } reads
      refine ⟨StrategyEngine.actionable (decision.signal candle), { indicators, strategy }, ?_, ?_⟩
      · simp only [Strategy.evaluate, decided, bind, Except.bind, pure, Except.pure]
      · exact (kinds.trans aligned).trans declares.symm

theorem on_forming_bar_tick_returns (engine : StrategyEngine α) (candle : MarketData α) (side : Option PositionSide)
    (aligned : engine.KeysAligned) (forming : candle.isClosed = false) :
    ∃ signal next, engine.onFormingBarTick candle side = .ok (signal, next) ∧ next.KeysAligned := by
  unfold StrategyEngine.onFormingBarTick
  rw [if_neg (by simp [forming])]
  cases ready : StrategyEngine.peekIndicators engine.indicators candle with
  | none => exact ⟨none, engine, rfl, aligned⟩
  | some readings =>
      have reads : Reads readings engine.strategy.declares := by
        rw [← aligned]
        exact peek_indicators_reads engine.indicators candle readings ready
      obtain ⟨decision, strategy, decided, declares⟩ :=
        strategy_decide_returns engine.strategy { candle, indicators := readings, currentPositionSide := side } reads
      refine ⟨StrategyEngine.actionable (decision.signal candle), { engine with strategy }, ?_, ?_⟩
      · simp only [Strategy.evaluate, decided, bind, Except.bind, pure, Except.pure]
      · exact aligned.trans declares.symm

theorem on_tick_acts (engine next : StrategyEngine α) (candle : MarketData α) (side : Option PositionSide)
    (signal : Signal α) (ticked : engine.onTick candle side = .ok (some signal, next)) : signal.action ≠ .hold := by
  unfold StrategyEngine.onTick at ticked
  split at ticked
  · cases ticked
  · rename_i readings indicators _
    cases evaluated : engine.strategy.evaluate { candle, indicators := readings, currentPositionSide := side } with
    | error raised =>
        rw [evaluated] at ticked
        cases ticked
    | ok result =>
        rw [evaluated] at ticked
        obtain ⟨emits, _⟩ := Prod.mk.inj (Except.ok.inj ticked)
        exact StrategyEngine.actionable_not_hold result.1 signal emits

end Sagittarius
