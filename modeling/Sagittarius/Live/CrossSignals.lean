import Sagittarius.Live.FormingBars
import Sagittarius.Strategies.TrendConfirmation

set_option autoImplicit false

namespace Sagittarius

variable {α : Type} [PyFloat α]

abbrev LineValues (α : Type) := α × α

def crossing (before : Option (LineValues α)) (now : LineValues α) : Option SignalAction :=
  match before with
  | none => none
  | some (aPrev, bPrev) =>
      if aPrev < bPrev ∧ now.2 < now.1 then some .buy
      else if bPrev < aPrev ∧ now.1 < now.2 then some .sell
      else none

def isLevel (lines : LineValues α) : Bool := !decide (lines.1 < lines.2) && !decide (lines.2 < lines.1)

def lastSided (bars : List (LineValues α)) : Option (LineValues α) := bars.reverse.find? fun lines => !isLevel lines

theorem crossing_level (before now : LineValues α) (level : isLevel before = true) : crossing (some before) now = none := by
  rw [isLevel, Bool.and_eq_true, Bool.not_eq_true', Bool.not_eq_true', decide_eq_false_iff_not,
    decide_eq_false_iff_not] at level
  obtain ⟨notBelow, notAbove⟩ := level
  change (if before.1 < before.2 ∧ now.2 < now.1 then some SignalAction.buy
    else if before.2 < before.1 ∧ now.1 < now.2 then some .sell else none) = none
  rw [if_neg fun both => notBelow both.1, if_neg fun both => notAbove both.1]

-- Looking one bar back misses the changes that pass through a level bar, and
-- no others.
theorem crossing_last (bars : List (LineValues α)) (now : LineValues α) :
    crossing bars.getLast? now = if bars.getLast?.any isLevel then none else crossing (lastSided bars) now := by
  cases bars using List.reverseRecOn with
  | nil => rfl
  | append_singleton earlier last _ =>
      rw [List.getLast?_concat, Option.any_some]
      by_cases level : isLevel last = true
      · rw [if_pos level, crossing_level last now level]
      · rw [if_neg level, lastSided, List.reverse_append]
        simp [level]

def committedLines (a b : Series α) : Option (LineValues α) := do
  let aPrev ← a.committed 0
  let bPrev ← b.committed 0
  return (aPrev, bPrev)

omit [PyFloat α] in
theorem track_item (series : Series α) (value : Option α) (context : StrategyContext α) :
    (track series value context).item 0 = value ∧ (track series value context).item 1 = series.committed 0 := by
  by_cases closed : context.candle.isClosed = true
  · rw [track, if_pos closed]
    refine ⟨series.push_committed value, ?_⟩
    have comparable := series.comparable
    have room : 1 < series.history := comparable
    simp [Series.item, Series.push, Series.committed, room]
  · rw [track, if_neg closed]
    exact ⟨rfl, rfl⟩

omit [PyFloat α] in
theorem pair_tracked (a b : Series α) (aNow bNow : α) (context : StrategyContext α) :
    Series.pair (track a (some aNow) context) (track b (some bNow) context) =
      (committedLines a b).map fun before => (aNow, bNow, before.1, before.2) := by
  rw [Series.pair, (track_item a _ context).1, (track_item a _ context).2, (track_item b _ context).1,
    (track_item b _ context).2, committedLines]
  cases a.committed 0 with
  | none => rfl
  | some aPrev =>
      cases b.committed 0 with
      | none => rfl
      | some bPrev => rfl

theorem checks_crossing (a b : Series α) (aNow bNow : α) (context : StrategyContext α) (above below : Decision α)
    (buys : above.action = .buy) (sells : below.action = .sell) :
    let aNext := track a (some aNow) context
    let bNext := track b (some bNow) context
    (StrategyEngine.actionable ((if aNext.crossedAbove bNext then above
        else if aNext.crossedBelow bNext then below else Decision.hold).signal context.candle)).map (·.action) =
      crossing (committedLines a b) (aNow, bNow) := by
  intro aNext bNext
  rw [Series.crossedAbove, Series.crossedBelow, pair_tracked]
  cases committedLines a b with
  | none => rfl
  | some before =>
      simp only [Option.map_some, crossing, Bool.and_eq_true, decide_eq_true_eq]
      by_cases up : before.1 < before.2 ∧ bNow < aNow
      · rw [if_pos up, if_pos up, StrategyEngine.actionable, if_neg (by simp [Decision.signal, buys])]
        exact congrArg some buys
      · rw [if_neg up, if_neg up]
        by_cases down : before.2 < before.1 ∧ aNow < bNow
        · rw [if_pos down, if_pos down, StrategyEngine.actionable, if_neg (by simp [Decision.signal, sells])]
          exact congrArg some sells
        · rw [if_neg down, if_neg down]
          rfl

def EmaCrossoverStrategy.fastEma (inputs : EmaCrossoverInputs) : EMA α := .build inputs.fastPeriod inputs.fastDeclared

def EmaCrossoverStrategy.slowEma (inputs : EmaCrossoverInputs) : EMA α := .build inputs.slowPeriod inputs.slowDeclared

theorem trend_ema_positive (inputs : LongTermTrendZoneInputs) : 0 < inputs.trendEmaLen := by
  have declared := inputs.trendEmaLenDeclared
  omega

def LongTermTrendZoneStrategy.trendEma (inputs : LongTermTrendZoneInputs) : EMA α :=
  .build inputs.trendEmaLen (trend_ema_positive inputs)

theorem EmaCrossoverStrategy.decide_checks (strategy : EmaCrossoverStrategy α) (context : StrategyContext α)
    (fast slow : α) (fastRead : context.number fastKey = .ok fast) (slowRead : context.number slowKey = .ok slow) :
    strategy.decide context =
      let fastSeries := track strategy.fastSeries (some fast) context
      let slowSeries := track strategy.slowSeries (some slow) context
      .ok (if fastSeries.crossedAbove slowSeries then .buy (strategy.name ++ " crossed above")
        else if fastSeries.crossedBelow slowSeries then .sell (strategy.name ++ " crossed below")
        else .hold, { strategy with fastSeries, slowSeries }) := by
  simp only [EmaCrossoverStrategy.decide, fastRead, slowRead, bind, Except.bind, pure, Except.pure]
  split_ifs <;> rfl

theorem LongTermTrendZoneStrategy.decide_checks (strategy : LongTermTrendZoneStrategy α) (context : StrategyContext α)
    (trendEma : α) (trendRead : context.number trendEmaKey = .ok trendEma) :
    strategy.decide context =
      let priceSeries := track strategy.priceSeries (some context.candle.closePrice) context
      let emaSeries := track strategy.emaSeries (some trendEma) context
      .ok (if priceSeries.crossedAbove emaSeries then .buy "Price crossed above the long-term trend EMA"
        else if priceSeries.crossedBelow emaSeries then .sell "Price crossed below the long-term trend EMA"
        else .hold, { strategy with priceSeries, emaSeries }) := by
  simp only [LongTermTrendZoneStrategy.decide, trendRead, bind, Except.bind, pure, Except.pure]
  split_ifs <;> rfl

-- The strategies whose signals are the crosses of one pair of lines.
inductive CrossingStrategy
  | emaCrossover (inputs : EmaCrossoverInputs)
  | longTermTrendZone (inputs : LongTermTrendZoneInputs)

namespace CrossingStrategy

def choice : CrossingStrategy → StrategyChoice α
  | .emaCrossover inputs => .emaCrossover inputs
  | .longTermTrendZone inputs => .longTermTrendZone inputs

def averages : CrossingStrategy → List (String × EMA α)
  | .emaCrossover inputs =>
      [(EmaCrossoverStrategy.fastKey, EmaCrossoverStrategy.fastEma inputs),
        (EmaCrossoverStrategy.slowKey, EmaCrossoverStrategy.slowEma inputs)]
  | .longTermTrendZone inputs => [(LongTermTrendZoneStrategy.trendEmaKey, LongTermTrendZoneStrategy.trendEma inputs)]

def strategyWith (crossingStrategy : CrossingStrategy) (a b : Series α) : Strategy α :=
  match crossingStrategy with
  | .emaCrossover inputs => .emaCrossover { inputs, fastSeries := a, slowSeries := b }
  | .longTermTrendZone inputs => .longTermTrendZone { inputs, priceSeries := a, emaSeries := b }

def linesAt (crossingStrategy : CrossingStrategy) (earlier : List (MarketData α)) (candle : MarketData α) :
    Option (LineValues α) :=
  let closes := candleCloses (earlier ++ [candle])
  match crossingStrategy with
  | .emaCrossover inputs => do
      let fast ← (EmaCrossoverStrategy.fastEma inputs).reading closes
      let slow ← (EmaCrossoverStrategy.slowEma inputs).reading closes
      return (fast, slow)
  | .longTermTrendZone inputs => do
      let trendEma ← (LongTermTrendZoneStrategy.trendEma inputs).reading closes
      return (candle.closePrice, trendEma)

def linesOver (crossingStrategy : CrossingStrategy) (candles : List (MarketData α)) : List (LineValues α) :=
  Streaming.observations crossingStrategy.linesAt [] candles

theorem lines_unready (crossingStrategy : CrossingStrategy) (earlier : List (MarketData α)) (candle : MarketData α)
    (unready : emaReadings crossingStrategy.averages (candleCloses (earlier ++ [candle])) = none) :
    crossingStrategy.linesAt earlier candle = none := by
  cases crossingStrategy with
  | emaCrossover inputs =>
      rw [averages, emaReadings] at unready
      rw [linesAt]
      cases fastRead : (EmaCrossoverStrategy.fastEma inputs).reading (candleCloses (earlier ++ [candle])) with
      | none => rfl
      | some fast =>
          cases slowRead : (EmaCrossoverStrategy.slowEma inputs).reading (candleCloses (earlier ++ [candle])) with
          | none => rfl
          | some slow => simp [fastRead, slowRead] at unready
  | longTermTrendZone inputs =>
      rw [averages, emaReadings] at unready
      rw [linesAt]
      cases trendRead : (LongTermTrendZoneStrategy.trendEma inputs).reading (candleCloses (earlier ++ [candle])) with
      | none => rfl
      | some trendEma => simp [trendRead] at unready

theorem evaluates_crossing (crossingStrategy : CrossingStrategy) (a b : Series α) (earlier : List (MarketData α))
    (candle : MarketData α) (side : Option PositionSide) (readings : Readings α)
    (ready : emaReadings crossingStrategy.averages (candleCloses (earlier ++ [candle])) = some readings) :
    let context : StrategyContext α := { candle, indicators := readings, currentPositionSide := side }
    ∃ lines signal, crossingStrategy.linesAt earlier candle = some lines ∧
      (crossingStrategy.strategyWith a b).evaluate context = .ok (signal,
        crossingStrategy.strategyWith (track a (some lines.1) context) (track b (some lines.2) context)) ∧
      (StrategyEngine.actionable signal).map (·.action) = crossing (committedLines a b) lines := by
  intro context
  cases crossingStrategy with
  | emaCrossover inputs =>
      simp only [averages, emaReadings, List.mapM_cons, List.mapM_nil, Option.bind_eq_bind, Option.bind_eq_some_iff,
        Option.map_eq_some_iff, Option.pure_def, Option.some.injEq] at ready
      obtain ⟨_, ⟨fast, fastRead, rfl⟩, _, ⟨_, ⟨slow, slowRead, rfl⟩, _, rfl, rfl⟩, rfl⟩ := ready
      have decided := EmaCrossoverStrategy.decide_checks ⟨inputs, a, b⟩ context fast slow rfl rfl
      refine ⟨(fast, slow), _, ?_, ?_, checks_crossing a b fast slow context
        (.buy (EmaCrossoverStrategy.name ⟨inputs, a, b⟩ ++ " crossed above"))
        (.sell (EmaCrossoverStrategy.name ⟨inputs, a, b⟩ ++ " crossed below")) rfl rfl⟩
      · rw [linesAt, fastRead, slowRead]
        rfl
      · rw [strategyWith, Strategy.evaluate, Strategy.decide, decided]
        rfl
  | longTermTrendZone inputs =>
      simp only [averages, emaReadings, List.mapM_cons, List.mapM_nil, Option.bind_eq_bind, Option.bind_eq_some_iff,
        Option.map_eq_some_iff, Option.pure_def, Option.some.injEq] at ready
      obtain ⟨_, ⟨trendEma, trendRead, rfl⟩, _, rfl, rfl⟩ := ready
      have decided := LongTermTrendZoneStrategy.decide_checks ⟨inputs, a, b⟩ context trendEma rfl
      refine ⟨(candle.closePrice, trendEma), _, ?_, ?_, checks_crossing a b candle.closePrice trendEma context
        (.buy "Price crossed above the long-term trend EMA") (.sell "Price crossed below the long-term trend EMA")
        rfl rfl⟩
      · rw [linesAt, trendRead]
        rfl
      · rw [strategyWith, Strategy.evaluate, Strategy.decide, decided]
        rfl

-- The averages hold every close, the series end with the last lines.
structure FollowsLines (crossingStrategy : CrossingStrategy) (candles : List (MarketData α)) (engine : StrategyEngine α) :
    Prop where
  indicators : engine.indicators = emasHolding crossingStrategy.averages (candleCloses candles)
  tracks : ∃ a b, engine.strategy = crossingStrategy.strategyWith a b ∧
    committedLines a b = (crossingStrategy.linesOver candles).getLast?

theorem build_follows (crossingStrategy : CrossingStrategy) :
    FollowsLines crossingStrategy [] (StrategyEngine.build (α := α) crossingStrategy.choice) := by
  cases crossingStrategy with
  | emaCrossover inputs =>
      refine ⟨?_, .fresh, .fresh, rfl, rfl⟩
      have fast := EMA.feed_holding (EmaCrossoverStrategy.fastEma (α := α) inputs) ⟨rfl, rfl⟩ []
      have slow := EMA.feed_holding (EmaCrossoverStrategy.slowEma (α := α) inputs) ⟨rfl, rfl⟩ []
      rw [candleCloses, List.map_nil, averages, emasHolding, List.map_cons, List.map_cons, List.map_nil, ← fast, ← slow]
      rfl
  | longTermTrendZone inputs =>
      refine ⟨?_, .fresh, .fresh, rfl, rfl⟩
      have trend := EMA.feed_holding (LongTermTrendZoneStrategy.trendEma (α := α) inputs) ⟨rfl, rfl⟩ []
      rw [candleCloses, List.map_nil, averages, emasHolding, List.map_cons, List.map_nil, ← trend]
      rfl

omit [PyFloat α] in
theorem track_follows (a b : Series α) (lines : LineValues α) (bars : List (LineValues α)) (context : StrategyContext α)
    (follows : committedLines a b = bars.getLast?) :
    committedLines (track a (some lines.1) context) (track b (some lines.2) context) =
      (bars ++ if context.candle.isClosed then [lines] else []).getLast? := by
  rw [committedLines, track_committed, track_committed]
  by_cases closed : context.candle.isClosed = true
  · rw [if_pos closed, if_pos closed, if_pos closed, List.getLast?_concat]
    rfl
  · rw [if_neg closed, if_neg closed, if_neg closed, List.append_nil, ← follows]
    rfl

theorem lines_over_append (crossingStrategy : CrossingStrategy) (candles : List (MarketData α)) (candle : MarketData α) :
    crossingStrategy.linesOver (candles ++ [candle]) =
      crossingStrategy.linesOver candles ++ (crossingStrategy.linesAt candles candle).toList :=
  Streaming.observations_append crossingStrategy.linesAt [] candles candle

theorem on_tick_crosses (crossingStrategy : CrossingStrategy) (candles : List (MarketData α)) (engine : StrategyEngine α)
    (candle : MarketData α) (side : Option PositionSide) (closed : candle.isClosed = true)
    (follows : FollowsLines crossingStrategy candles engine) :
    ∃ signal next, engine.onTick candle side = .ok (signal, next) ∧
      FollowsLines crossingStrategy (candles ++ [candle]) next ∧
      signal.map (·.action) = (crossingStrategy.linesAt candles candle).bind
        (crossing (crossingStrategy.linesOver candles).getLast?) := by
  obtain ⟨a, b, same, committed⟩ := follows.tracks
  rw [StrategyEngine.onTick, follows.indicators, update_emas, ← candle_closes_append]
  cases read : emaReadings crossingStrategy.averages (candleCloses (candles ++ [candle])) with
  | none =>
      have unready := crossingStrategy.lines_unready candles candle read
      refine ⟨none, _, rfl, ⟨rfl, a, b, same, ?_⟩, ?_⟩
      · rw [lines_over_append, unready, Option.toList_none, List.append_nil, committed]
      · rw [unready]
        rfl
  | some readings =>
      obtain ⟨lines, signal, seen, evaluated, crosses⟩ :=
        crossingStrategy.evaluates_crossing a b candles candle side readings read
      let context : StrategyContext α := { candle, indicators := readings, currentPositionSide := side }
      let aNext := track a (some lines.1) context
      let bNext := track b (some lines.2) context
      refine ⟨StrategyEngine.actionable signal,
        { indicators := emasHolding crossingStrategy.averages (candleCloses (candles ++ [candle]))
          strategy := crossingStrategy.strategyWith aNext bNext }, ?_, ⟨rfl, aNext, bNext, rfl, ?_⟩, ?_⟩
      · simp only [same, evaluated]
        rfl
      · rw [track_follows a b lines _ context committed, if_pos closed, lines_over_append, seen]
        rfl
      · rw [crosses, committed, seen]
        rfl

theorem on_forming_crosses (crossingStrategy : CrossingStrategy) (candles : List (MarketData α))
    (engine : StrategyEngine α) (candle : MarketData α) (side : Option PositionSide) (forming : candle.isClosed = false)
    (follows : FollowsLines crossingStrategy candles engine) :
    ∃ signal next, engine.onFormingBarTick candle side = .ok (signal, next) ∧
      FollowsLines crossingStrategy candles next ∧
      ∀ emitted, signal = some emitted → (crossingStrategy.linesAt candles candle).bind
        (crossing (crossingStrategy.linesOver candles).getLast?) = some emitted.action := by
  obtain ⟨a, b, same, committed⟩ := follows.tracks
  have notClosed : ¬ candle.isClosed = true := by simp [forming]
  rw [StrategyEngine.onFormingBarTick, if_neg notClosed, follows.indicators]
  cases peeked : StrategyEngine.peekIndicators (emasHolding crossingStrategy.averages (candleCloses candles)) candle with
  | none => exact ⟨none, engine, rfl, follows, nofun⟩
  | some readings =>
      have read := peek_emas crossingStrategy.averages (candleCloses candles) candle readings peeked
      rw [← candle_closes_append] at read
      obtain ⟨lines, signal, seen, evaluated, crosses⟩ :=
        crossingStrategy.evaluates_crossing a b candles candle side readings read
      let context : StrategyContext α := { candle, indicators := readings, currentPositionSide := side }
      let aNext := track a (some lines.1) context
      let bNext := track b (some lines.2) context
      refine ⟨StrategyEngine.actionable signal, { engine with strategy := crossingStrategy.strategyWith aNext bNext },
        ?_, ⟨follows.indicators, aNext, bNext, rfl, ?_⟩, ?_⟩
      · simp only [same, evaluated, follows.indicators]
        rfl
      · rw [track_follows a b lines _ context committed, if_neg notClosed, List.append_nil]
      · intro emitted acts
        rw [seen, ← committed]
        exact crosses.symm.trans (congrArg (Option.map (·.action)) acts)

theorem run_follows (crossingStrategy : CrossingStrategy) (calls : List (EngineCall α)) :
    ∃ engine, Interleaving.run StrategyEngine.move (.build crossingStrategy.choice) calls = some engine ∧
      FollowsLines crossingStrategy (closedCandles calls) engine := by
  refine StrategyEngine.run_tracks (FollowsLines crossingStrategy) calls.length ?_ calls [] _ (by simp)
    crossingStrategy.build_follows
  intro candles engine call _ follows
  cases call with
  | onTick candle side closed =>
      obtain ⟨signal, next, ticked, followsNext, _⟩ :=
        crossingStrategy.on_tick_crosses candles engine candle side closed follows
      exact ⟨signal, next, ticked, followsNext⟩
  | onFormingBarTick candle side forming =>
      obtain ⟨signal, next, ticked, followsNext, _⟩ :=
        crossingStrategy.on_forming_crosses candles engine candle side forming follows
      refine ⟨signal, next, ticked, ?_⟩
      rw [EngineCall.closedCandle, Option.toList_none, List.append_nil]
      exact followsNext

end CrossingStrategy

-- After any calls a closed bar is signalled exactly when the lines changed sides
-- since the bar before it: a level bar before it hides a change. A forming bar
-- is signalled only if it would be on closing as it stands.
theorem crosses_signalled (crossingStrategy : CrossingStrategy) (calls : List (EngineCall α)) :
    ∃ engine, Interleaving.run StrategyEngine.move (.build crossingStrategy.choice) calls = some engine ∧
      ∀ (candle : MarketData α) (side : Option PositionSide),
        let bars := crossingStrategy.linesOver (closedCandles calls)
        let crossed := (crossingStrategy.linesAt (closedCandles calls) candle).bind fun lines =>
          if bars.getLast?.any isLevel then none else crossing (lastSided bars) lines
        (candle.isClosed = true → ∃ signal next, engine.onTick candle side = .ok (signal, next) ∧
          signal.map (·.action) = crossed) ∧
        (candle.isClosed = false → ∃ signal next, engine.onFormingBarTick candle side = .ok (signal, next) ∧
          ∀ emitted, signal = some emitted → crossed = some emitted.action) := by
  obtain ⟨engine, ran, follows⟩ := crossingStrategy.run_follows calls
  refine ⟨engine, ran, fun candle side => ?_⟩
  have looksBack : crossing (crossingStrategy.linesOver (closedCandles calls)).getLast? = _ :=
    funext fun lines => crossing_last (crossingStrategy.linesOver (closedCandles calls)) lines
  by_cases closed : candle.isClosed = true
  · obtain ⟨signal, next, ticked, _, crosses⟩ :=
      crossingStrategy.on_tick_crosses (closedCandles calls) engine candle side closed follows
    rw [looksBack] at crosses
    exact ⟨fun _ => ⟨signal, next, ticked, crosses⟩, fun forming => absurd closed (by simp [forming])⟩
  · have forming := Bool.eq_false_of_not_eq_true closed
    obtain ⟨signal, next, ticked, _, crosses⟩ :=
      crossingStrategy.on_forming_crosses (closedCandles calls) engine candle side forming follows
    rw [looksBack] at crosses
    exact ⟨fun closedToo => absurd closedToo closed, fun _ => ⟨signal, next, ticked, crosses⟩⟩

theorem one_bar_declared : 1 ≤ 1 := le_refl 1

theorem two_bars_declared : 1 ≤ 2 := by decide

def fastPair : CrossingStrategy := .emaCrossover {
  fastPeriod := 1
  slowPeriod := 2
  fastDeclared := one_bar_declared
  slowDeclared := two_bars_declared }

def actionsOn (crossingStrategy : CrossingStrategy) (calls : List (EngineCall ℚ)) : Except PyError (List (Option SignalAction)) :=
  (fun result => result.1.map (Option.map (·.action))) <$>
    Streaming.feed StrategyEngine.call (.build crossingStrategy.choice) calls

-- The lines are below, level and above on the last three bars: a change of side
-- that no bar signals. Without the level bar it is signalled.
theorem level_bar_hides_cross :
    let bars := fastPair.linesOver (closedCandles [closedCall 0 10, closedCall 1 8, closedCall 2 9])
    (fastPair.linesAt (closedCandles [closedCall 0 10, closedCall 1 8, closedCall 2 9]) (flatBar "BTCUSDT" 3 12 true)).bind
        (crossing (lastSided bars)) = some .buy ∧
      actionsOn fastPair [closedCall 0 10, closedCall 1 8, closedCall 2 9, closedCall 3 12] =
        .ok [none, none, none, none] ∧
      actionsOn fastPair [closedCall 0 10, closedCall 1 8, closedCall 2 12] = .ok [none, none, some .buy] := by
  decide +kernel

end Sagittarius
