import Sagittarius.Library.Turns
import Sagittarius.Live.CrossSignals

set_option autoImplicit false

namespace Sagittarius

variable {α : Type} [PyFloat α]

-- The level lies between what is read of a bar that is stacked and of one that
-- is not.
structure LevelSeparates (α : Type) [PyFloat α] : Prop where
  zeroBelow : (PyFloat.literal 0 : α) < PyFloat.literal (1 / 2)
  oneAbove : (PyFloat.literal (1 / 2) : α) < PyFloat.literal 1
  oneNotBelow : ¬ (PyFloat.literal 1 : α) < PyFloat.literal (1 / 2)
  zeroNotAbove : ¬ (PyFloat.literal (1 / 2) : α) < PyFloat.literal 0

def stackingAction (stacked : Bool) : SignalAction := if stacked then .buy else .sell

def stackingTurn (before : Option Bool) (now : Bool) : Option SignalAction :=
  if before.all (· = now) then none else some (stackingAction now)

namespace MultiEmaTrendFollowerStrategy

def flag (stacked : Bool) : α := PyFloat.literal (if stacked then 1 else 0)

theorem level_items : (stackedLevel : Series α).item 0 = some (PyFloat.literal (1 / 2)) ∧
    (stackedLevel : Series α).item 1 = some (PyFloat.literal (1 / 2)) := ⟨rfl, rfl⟩

theorem flag_pair (stacked : Series α) (now : Bool) (context : StrategyContext α) :
    Series.pair (track stacked (some (flag now)) context) stackedLevel =
      (stacked.committed 0).map fun before => (flag now, PyFloat.literal (1 / 2), before, PyFloat.literal (1 / 2)) := by
  rw [Series.pair, (track_item stacked _ context).1, (track_item stacked _ context).2, level_items.1, level_items.2]
  cases stacked.committed 0 <;> rfl

theorem flag_under (separates : LevelSeparates α) (stacked : Bool) :
    (flag stacked : α) < PyFloat.literal (1 / 2) ↔ stacked = false := by
  cases stacked with
  | false => exact iff_of_true separates.zeroBelow rfl
  | true => exact iff_of_false separates.oneNotBelow (Ne.symm Bool.false_ne_true)

theorem flag_over (separates : LevelSeparates α) (stacked : Bool) :
    PyFloat.literal (1 / 2) < (flag stacked : α) ↔ stacked = true := by
  cases stacked with
  | false => exact iff_of_false separates.zeroNotAbove Bool.false_ne_true
  | true => exact iff_of_true separates.oneAbove rfl

theorem checks_stacking (separates : LevelSeparates α) (stacked : Series α) (before : Option Bool) (now : Bool)
    (context : StrategyContext α) (bought broken : String) (committed : stacked.committed 0 = before.map flag) :
    let next := track stacked (some (flag now)) context
    (StrategyEngine.actionable ((if next.crossedAbove stackedLevel then Decision.buy bought
        else if next.crossedBelow stackedLevel then Decision.sell broken else Decision.hold).signal context.candle)).map
          (·.action) = stackingTurn before now := by
  intro next
  rw [Series.crossedAbove, Series.crossedBelow, flag_pair, committed]
  cases before with
  | none => rfl
  | some before =>
      simp only [Option.map_some, flag_under separates, flag_over separates]
      cases before <;> cases now <;> rfl

def averagesOf (inputs : MultiEmaTrendFollowerInputs) : List (String × EMA α) :=
  [(fastKey, .build inputs.fastPeriod inputs.fastDeclared), (midFastKey, .build inputs.midFastPeriod inputs.midFastDeclared),
    (midSlowKey, .build inputs.midSlowPeriod inputs.midSlowDeclared), (slowKey, .build inputs.slowPeriod inputs.slowDeclared)]

def stackedAt (inputs : MultiEmaTrendFollowerInputs) (earlier : List (MarketData α)) (candle : MarketData α) : Option Bool := do
  let closes := candleCloses (earlier ++ [candle])
  let fast ← (EMA.build inputs.fastPeriod inputs.fastDeclared).reading closes
  let midFast ← (EMA.build inputs.midFastPeriod inputs.midFastDeclared).reading closes
  let midSlow ← (EMA.build inputs.midSlowPeriod inputs.midSlowDeclared).reading closes
  let slow ← (EMA.build inputs.slowPeriod inputs.slowDeclared).reading closes
  return Decidable.decide (midFast < fast) && Decidable.decide (midSlow < midFast) && Decidable.decide (slow < midSlow)

def stackedOver (inputs : MultiEmaTrendFollowerInputs) (candles : List (MarketData α)) : List Bool :=
  Streaming.observations (stackedAt inputs) [] candles

theorem stacked_over_append (inputs : MultiEmaTrendFollowerInputs) (candles : List (MarketData α)) (candle : MarketData α) :
    stackedOver inputs (candles ++ [candle]) = stackedOver inputs candles ++ (stackedAt inputs candles candle).toList :=
  Streaming.observations_append (stackedAt inputs) [] candles candle

theorem stacked_unready (inputs : MultiEmaTrendFollowerInputs) (earlier : List (MarketData α)) (candle : MarketData α)
    (unready : emaReadings (averagesOf inputs) (candleCloses (earlier ++ [candle])) = none) :
    stackedAt inputs earlier candle = none := by
  rw [averagesOf, emaReadings] at unready
  rw [stackedAt]
  cases fastRead : (EMA.build inputs.fastPeriod inputs.fastDeclared : EMA α).reading (candleCloses (earlier ++ [candle])) with
  | none => rfl
  | some fast =>
      cases midFastRead : (EMA.build inputs.midFastPeriod inputs.midFastDeclared : EMA α).reading
          (candleCloses (earlier ++ [candle])) with
      | none => rfl
      | some midFast =>
          cases midSlowRead : (EMA.build inputs.midSlowPeriod inputs.midSlowDeclared : EMA α).reading
              (candleCloses (earlier ++ [candle])) with
          | none => rfl
          | some midSlow =>
              cases slowRead : (EMA.build inputs.slowPeriod inputs.slowDeclared : EMA α).reading
                  (candleCloses (earlier ++ [candle])) with
              | none => rfl
              | some slow => simp [fastRead, midFastRead, midSlowRead, slowRead] at unready

theorem decide_checks (strategy : MultiEmaTrendFollowerStrategy α) (context : StrategyContext α) (fast midFast midSlow slow : α)
    (fastRead : context.number fastKey = .ok fast) (midFastRead : context.number midFastKey = .ok midFast)
    (midSlowRead : context.number midSlowKey = .ok midSlow) (slowRead : context.number slowKey = .ok slow) :
    strategy.decide context =
      let now := Decidable.decide (midFast < fast) && Decidable.decide (midSlow < midFast) && Decidable.decide (slow < midSlow)
      let stacked := track strategy.stacked (some (flag now)) context
      .ok (if stacked.crossedAbove stackedLevel then .buy (strategy.name ++ " fully stacked")
          else if stacked.crossedBelow stackedLevel then .sell (strategy.name ++ " stacking broken")
          else .hold,
        { strategy with
          fast := track strategy.fast (some fast) context
          midFast := track strategy.midFast (some midFast) context
          midSlow := track strategy.midSlow (some midSlow) context
          slow := track strategy.slow (some slow) context
          stacked }) := by
  simp only [MultiEmaTrendFollowerStrategy.decide, fastRead, midFastRead, midSlowRead, slowRead, bind, Except.bind, pure,
    Except.pure, Series.isAbove, (track_item _ _ context).1, flag]
  generalize (Decidable.decide (midFast < fast) && Decidable.decide (midSlow < midFast) &&
    Decidable.decide (slow < midSlow)) = now
  split_ifs <;> rfl

structure FollowsStacking (inputs : MultiEmaTrendFollowerInputs) (candles : List (MarketData α)) (engine : StrategyEngine α) :
    Prop where
  indicators : engine.indicators = emasHolding (averagesOf inputs) (candleCloses candles)
  tracks : ∃ strategy, engine.strategy = .multiEmaTrendFollower strategy ∧ strategy.inputs = inputs ∧
    strategy.stacked.committed 0 = (stackedOver inputs candles).getLast?.map flag

theorem build_follows_stacking (inputs : MultiEmaTrendFollowerInputs) :
    FollowsStacking inputs [] (StrategyEngine.build (α := α) (.multiEmaTrendFollower inputs)) := by
  refine ⟨?_, .setup inputs, rfl, rfl, rfl⟩
  have fast := EMA.feed_holding (EMA.build inputs.fastPeriod inputs.fastDeclared : EMA α) ⟨rfl, rfl⟩ []
  have midFast := EMA.feed_holding (EMA.build inputs.midFastPeriod inputs.midFastDeclared : EMA α) ⟨rfl, rfl⟩ []
  have midSlow := EMA.feed_holding (EMA.build inputs.midSlowPeriod inputs.midSlowDeclared : EMA α) ⟨rfl, rfl⟩ []
  have slow := EMA.feed_holding (EMA.build inputs.slowPeriod inputs.slowDeclared : EMA α) ⟨rfl, rfl⟩ []
  rw [candleCloses, List.map_nil, averagesOf, emasHolding, List.map_cons, List.map_cons, List.map_cons, List.map_cons,
    List.map_nil, ← fast, ← midFast, ← midSlow, ← slow]
  rfl

theorem evaluates_stacking (separates : LevelSeparates α) (strategy : MultiEmaTrendFollowerStrategy α)
    (earlier : List (MarketData α)) (candle : MarketData α) (side : Option PositionSide) (before : Option Bool)
    (readings : Readings α)
    (ready : emaReadings (averagesOf strategy.inputs) (candleCloses (earlier ++ [candle])) = some readings)
    (committed : strategy.stacked.committed 0 = before.map flag) :
    let context : StrategyContext α := { candle, indicators := readings, currentPositionSide := side }
    ∃ now signal next, stackedAt strategy.inputs earlier candle = some now ∧
      (Strategy.multiEmaTrendFollower strategy).evaluate context = .ok (signal, .multiEmaTrendFollower next) ∧
      next.inputs = strategy.inputs ∧ next.stacked = track strategy.stacked (some (flag now)) context ∧
      (StrategyEngine.actionable signal).map (·.action) = stackingTurn before now := by
  intro context
  simp only [averagesOf, emaReadings, List.mapM_cons, List.mapM_nil, Option.bind_eq_bind, Option.bind_eq_some_iff,
    Option.map_eq_some_iff, Option.pure_def, Option.some.injEq] at ready
  obtain ⟨_, ⟨fast, fastRead, rfl⟩, _, ⟨_, ⟨midFast, midFastRead, rfl⟩, _, ⟨_, ⟨midSlow, midSlowRead, rfl⟩, _,
    ⟨_, ⟨slow, slowRead, rfl⟩, _, rfl, rfl⟩, rfl⟩, rfl⟩, rfl⟩ := ready
  have decided := strategy.decide_checks context fast midFast midSlow slow rfl rfl rfl rfl
  let now := Decidable.decide (midFast < fast) && Decidable.decide (midSlow < midFast) && Decidable.decide (slow < midSlow)
  let next : MultiEmaTrendFollowerStrategy α := { strategy with
    fast := track strategy.fast (some fast) context
    midFast := track strategy.midFast (some midFast) context
    midSlow := track strategy.midSlow (some midSlow) context
    slow := track strategy.slow (some slow) context
    stacked := track strategy.stacked (some (flag now)) context }
  refine ⟨now, _, next, ?_, ?_, rfl, rfl, checks_stacking separates strategy.stacked before now context
    (strategy.name ++ " fully stacked") (strategy.name ++ " stacking broken") committed⟩
  · rw [stackedAt, fastRead, midFastRead, midSlowRead, slowRead]
    rfl
  · rw [Strategy.evaluate, Strategy.decide, decided]
    rfl

theorem flag_follows (stacked : Series α) (now : Bool) (bars : List Bool) (context : StrategyContext α)
    (committed : stacked.committed 0 = bars.getLast?.map flag) :
    (track stacked (some (flag now)) context).committed 0 =
      (bars ++ if context.candle.isClosed then [now] else []).getLast?.map flag := by
  rw [track_committed]
  by_cases closed : context.candle.isClosed = true
  · rw [if_pos closed, if_pos closed, List.getLast?_concat]
    rfl
  · rw [if_neg closed, if_neg closed, List.append_nil, committed]

theorem on_tick_stacking (separates : LevelSeparates α) (inputs : MultiEmaTrendFollowerInputs)
    (candles : List (MarketData α)) (engine : StrategyEngine α) (candle : MarketData α) (side : Option PositionSide)
    (closed : candle.isClosed = true) (follows : FollowsStacking inputs candles engine) :
    ∃ signal next, engine.onTick candle side = .ok (signal, next) ∧ FollowsStacking inputs (candles ++ [candle]) next ∧
      signal.map (·.action) = (stackedAt inputs candles candle).bind (stackingTurn (stackedOver inputs candles).getLast?) := by
  obtain ⟨strategy, same, rfl, committed⟩ := follows.tracks
  rw [StrategyEngine.onTick, follows.indicators, update_emas, ← candle_closes_append]
  cases read : emaReadings (averagesOf strategy.inputs) (candleCloses (candles ++ [candle])) with
  | none =>
      have unready := stacked_unready strategy.inputs candles candle read
      refine ⟨none, _, rfl, ⟨rfl, strategy, same, rfl, ?_⟩, ?_⟩
      · rw [stacked_over_append, unready, Option.toList_none, List.append_nil, committed]
      · rw [unready]
        rfl
  | some readings =>
      obtain ⟨now, signal, next, seen, evaluated, kept, flagged, turns⟩ :=
        evaluates_stacking separates strategy candles candle side _ readings read committed
      refine ⟨StrategyEngine.actionable signal,
        { indicators := emasHolding (averagesOf strategy.inputs) (candleCloses (candles ++ [candle]))
          strategy := .multiEmaTrendFollower next }, ?_, ⟨rfl, next, rfl, kept, ?_⟩, ?_⟩
      · simp only [same, evaluated]
        rfl
      · rw [flagged, flag_follows strategy.stacked now _ _ committed, if_pos closed, stacked_over_append, seen]
        rfl
      · rw [turns, seen]
        rfl

theorem on_forming_stacking (separates : LevelSeparates α) (inputs : MultiEmaTrendFollowerInputs)
    (candles : List (MarketData α)) (engine : StrategyEngine α) (candle : MarketData α) (side : Option PositionSide)
    (forming : candle.isClosed = false) (follows : FollowsStacking inputs candles engine) :
    ∃ signal next, engine.onFormingBarTick candle side = .ok (signal, next) ∧ FollowsStacking inputs candles next ∧
      ∀ emitted, signal = some emitted →
        (stackedAt inputs candles candle).bind (stackingTurn (stackedOver inputs candles).getLast?) = some emitted.action := by
  obtain ⟨strategy, same, rfl, committed⟩ := follows.tracks
  have notClosed : ¬ candle.isClosed = true := by simp [forming]
  rw [StrategyEngine.onFormingBarTick, if_neg notClosed, follows.indicators]
  cases peeked : StrategyEngine.peekIndicators (emasHolding (averagesOf strategy.inputs) (candleCloses candles)) candle with
  | none =>
      refine ⟨none, engine, rfl, follows, ?_⟩
      intro emitted acts
      cases acts
  | some readings =>
      have read := peek_emas (averagesOf strategy.inputs) (candleCloses candles) candle readings peeked
      rw [← candle_closes_append] at read
      obtain ⟨now, signal, next, seen, evaluated, kept, flagged, turns⟩ :=
        evaluates_stacking separates strategy candles candle side _ readings read committed
      refine ⟨StrategyEngine.actionable signal, { engine with strategy := .multiEmaTrendFollower next },
        ?_, ⟨follows.indicators, next, rfl, kept, ?_⟩, ?_⟩
      · simp only [same, evaluated, follows.indicators]
        rfl
      · rw [flagged, flag_follows strategy.stacked now _ _ committed, if_neg notClosed, List.append_nil]
      · intro emitted acts
        rw [seen]
        exact turns.symm.trans (congrArg (Option.map (·.action)) acts)

def actionsOf (signals : List (Option (Signal α))) : List SignalAction :=
  signals.filterMap fun signal => signal.map (·.action)

omit [PyFloat α] in
theorem turns_over (stacked : List Bool) (now : Option Bool) :
    (Turning.turns (stacked ++ now.toList)).map stackingAction =
      (Turning.turns stacked).map stackingAction ++ (now.bind (stackingTurn stacked.getLast?)).toList := by
  cases now with
  | none => simp
  | some now =>
      rw [Option.toList_some, Turning.turns_append, Option.bind_some, stackingTurn]
      by_cases same : stacked.getLast?.all (· = now) = true
      · simp [same]
      · simp [same]

theorem feed_stacking (separates : LevelSeparates α) (inputs : MultiEmaTrendFollowerInputs) (calls : List (EngineCall α))
    (candles : List (MarketData α)) (engine : StrategyEngine α) (follows : FollowsStacking inputs candles engine) :
    ∃ signals final, Streaming.feed StrategyEngine.call engine calls = .ok (signals, final) ∧
      FollowsStacking inputs (candles ++ closedCandles calls) final ∧
      (Turning.turns (stackedOver inputs (candles ++ closedCandles calls))).map stackingAction =
        (Turning.turns (stackedOver inputs candles)).map stackingAction ++ actionsOf signals := by
  induction calls generalizing candles engine with
  | nil => exact ⟨[], engine, rfl, by simpa [closedCandles] using follows, by simp [closedCandles, actionsOf]⟩
  | cons call rest ih =>
      rw [Streaming.feed_cons]
      cases call with
      | onTick candle side closed =>
          obtain ⟨signal, next, ticked, nextFollows, turned⟩ :=
            on_tick_stacking separates inputs candles engine candle side closed follows
          obtain ⟨signals, final, fed, finalFollows, acted⟩ := ih (candles ++ [candle]) next nextFollows
          have passed : closedCandles (.onTick candle side closed :: rest) = candle :: closedCandles rest := rfl
          refine ⟨signal :: signals, final, ?_, ?_, ?_⟩
          · have called : engine.call (.onTick candle side closed) = .ok (some signal, next) := by
              rw [StrategyEngine.call, ticked]
              rfl
            simp only [called, bind, Except.bind, fed]
            rfl
          · rw [passed, List.append_cons]
            exact finalFollows
          · rw [passed, List.append_cons, acted, stacked_over_append, turns_over, ← turned, List.append_assoc]
            cases signal <;> rfl
      | onFormingBarTick candle side forming =>
          obtain ⟨signal, next, ticked, nextFollows, _⟩ :=
            on_forming_stacking separates inputs candles engine candle side forming follows
          obtain ⟨signals, final, fed, finalFollows, acted⟩ := ih candles next nextFollows
          refine ⟨signals, final, ?_, finalFollows, acted⟩
          have called : engine.call (.onFormingBarTick candle side forming) = .ok (none, next) := by
            rw [StrategyEngine.call, ticked]
            rfl
          simp only [called, bind, Except.bind, fed]
          rfl

end MultiEmaTrendFollowerStrategy

-- The closed bars of a run are answered by the changes of the stacking and
-- nothing else: the signals alternate, and the last says whether the averages
-- are stacked. A forming bar is signalled only if it would be on closing.
theorem stacking_changes_signalled (separates : LevelSeparates α) (inputs : MultiEmaTrendFollowerInputs)
    (calls : List (EngineCall α)) :
    let stacked := MultiEmaTrendFollowerStrategy.stackedOver inputs (closedCandles calls)
    ∃ signals final,
      Streaming.feed StrategyEngine.call (.build (.multiEmaTrendFollower inputs)) calls = .ok (signals, final) ∧
      MultiEmaTrendFollowerStrategy.actionsOf signals = (Turning.turns stacked).map stackingAction ∧
      (MultiEmaTrendFollowerStrategy.actionsOf signals).IsChain (· ≠ ·) ∧
      (∀ last, (MultiEmaTrendFollowerStrategy.actionsOf signals).getLast? = some last →
        stacked.getLast?.map stackingAction = some last) ∧
      ∀ candle side, candle.isClosed = false → ∃ signal next, final.onFormingBarTick candle side = .ok (signal, next) ∧
        ∀ emitted, signal = some emitted →
          (MultiEmaTrendFollowerStrategy.stackedAt inputs (closedCandles calls) candle).bind
            (stackingTurn stacked.getLast?) = some emitted.action := by
  intro stacked
  obtain ⟨signals, final, fed, follows, acted⟩ := MultiEmaTrendFollowerStrategy.feed_stacking separates inputs calls [] _
    (MultiEmaTrendFollowerStrategy.build_follows_stacking inputs)
  have actions : MultiEmaTrendFollowerStrategy.actionsOf signals = (Turning.turns stacked).map stackingAction := acted.symm
  refine ⟨signals, final, fed, actions, ?_, ?_, ?_⟩
  · rw [actions, List.isChain_map]
    refine (Turning.turns_alternate stacked).imp fun first second differs same => differs ?_
    cases first <;> cases second <;> first | rfl | cases same
  · intro last isLast
    rw [actions, List.getLast?_map, Option.map_eq_some_iff] at isLast
    obtain ⟨turn, turned, rfl⟩ := isLast
    rw [Turning.turns_last stacked turn turned]
    rfl
  · intro candle side forming
    obtain ⟨signal, next, ticked, _, turns⟩ := MultiEmaTrendFollowerStrategy.on_forming_stacking separates inputs
      (closedCandles calls) final candle side forming follows
    exact ⟨signal, next, ticked, turns⟩

theorem three_bars_declared : 1 ≤ 3 := by decide

theorem four_bars_declared : 1 ≤ 4 := by decide

def steepInputs : MultiEmaTrendFollowerInputs where
  fastPeriod := 1
  midFastPeriod := 2
  midSlowPeriod := 3
  slowPeriod := 4
  fastDeclared := one_bar_declared
  midFastDeclared := two_bars_declared
  midSlowDeclared := three_bars_declared
  slowDeclared := four_bars_declared

theorem rat_level_separates : LevelSeparates ℚ := ⟨by norm_num, by norm_num, by norm_num, by norm_num⟩

def risingThenFalling : List (EngineCall ℚ) :=
  [closedCall 0 10, closedCall 1 9, closedCall 2 8, closedCall 3 7, closedCall 4 12, formingCall 5 1, closedCall 5 20,
    closedCall 6 2]

theorem rising_then_falling_signalled :
    ∃ signals final, Streaming.feed StrategyEngine.call (.build (.multiEmaTrendFollower steepInputs)) risingThenFalling =
        .ok (signals, final) ∧ MultiEmaTrendFollowerStrategy.actionsOf signals = [.buy, .sell] := by
  obtain ⟨signals, final, fed, actions, _⟩ := stacking_changes_signalled rat_level_separates steepInputs risingThenFalling
  refine ⟨signals, final, fed, actions.trans ?_⟩
  decide +kernel

end Sagittarius
