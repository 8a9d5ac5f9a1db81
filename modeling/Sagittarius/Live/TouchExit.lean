import Sagittarius.Live.ConfirmedTrend

set_option autoImplicit false

namespace Sagittarius

variable {α : Type} [PyFloat α]

namespace EmaTrendPullbackStrategy

def touchDecision : PositionSide → Decision α
  | .long => .sell "Exit Touch EMA Long"
  | .short => .cover "Exit Touch EMA Long"

def EntersAlong (strategy : EmaTrendPullbackStrategy α) (bars : List (Confirming.Placement TrendSide))
    (candle : MarketData α) (emaLong emaEntry : α) : Prop :=
  ∃ trend, Confirming.LastRun strategy.inputs.tickConfirm trend (bars ++ [placement strategy.inputs candle emaLong]) ∧
    strategy.entersOn candle emaEntry trend = true

theorem decision_exits_iff (strategy : EmaTrendPullbackStrategy α) (confirmed : ℤ) (emaLong emaEntry : α)
    (context : StrategyContext α) (side : PositionSide) (exits : strategy.inputs.enableTouchExit = true)
    (held : context.currentPositionSide = some side)
    (touches : touchesLong strategy.inputs context.candle emaLong = true) :
    strategy.decision confirmed emaLong emaEntry context = touchDecision side ↔
      ¬ (confirmed = trendUp ∧ strategy.entersOn context.candle emaEntry .up = true) ∧
        ¬ (confirmed = trendDown ∧ strategy.entersOn context.candle emaEntry .down = true) := by
  have differs : ∀ decision : Decision α, (decision.action = .buy ∨ decision.action = .short) →
      decision ≠ touchDecision side := by
    intro decision enters same
    subst same
    cases side <;> simp [touchDecision, Decision.sell, Decision.cover] at enters
  rw [decision]
  by_cases long : confirmed = trendUp ∧ strategy.entersOn context.candle emaEntry .up = true
  · rw [if_pos long]
    exact iff_of_false (differs _ (.inl rfl)) fun both => both.1 long
  · rw [if_neg long]
    by_cases short : confirmed = trendDown ∧ strategy.entersOn context.candle emaEntry .down = true
    · rw [if_pos short]
      exact iff_of_false (differs _ (.inr rfl)) fun both => both.2 short
    · rw [if_neg short, if_pos (by rw [exits, touches]; rfl), held]
      refine iff_of_true ?_ ⟨long, short⟩
      cases side <;> rfl

theorem enters_along_iff (strategy : EmaTrendPullbackStrategy α) (bars : List (Confirming.Placement TrendSide))
    (candle : MarketData α) (emaLong emaEntry : α) :
    strategy.EntersAlong bars candle emaLong emaEntry ↔
      (TrendSide.code (Confirming.tally strategy.inputs.tickConfirm
          (bars ++ [placement strategy.inputs candle emaLong])).confirmed = trendUp ∧
        strategy.entersOn candle emaEntry .up = true) ∨
      (TrendSide.code (Confirming.tally strategy.inputs.tickConfirm
          (bars ++ [placement strategy.inputs candle emaLong])).confirmed = trendDown ∧
        strategy.entersOn candle emaEntry .down = true) := by
  have confirmed := Confirming.confirmed_iff strategy.inputs.tickConfirm strategy.inputs.tickConfirmDeclared.1
    (bars ++ [placement strategy.inputs candle emaLong])
  rw [code_up_iff, code_down_iff, confirmed, confirmed]
  constructor
  · intro enters
    obtain ⟨trend, lastRun, calls⟩ := enters
    cases trend with
    | up => exact .inl ⟨lastRun, calls⟩
    | down => exact .inr ⟨lastRun, calls⟩
  · intro either
    cases either with
    | inl up => exact ⟨.up, up⟩
    | inr down => exact ⟨.down, down⟩

theorem reset_enters_nowhere (strategy : EmaTrendPullbackStrategy α) (bars : List (Confirming.Placement TrendSide))
    (candle : MarketData α) (emaLong emaEntry : α) (touches : touchesLong strategy.inputs candle emaLong = true)
    (resets : strategy.inputs.enableTouchReset = true) : ¬ strategy.EntersAlong bars candle emaLong emaEntry := by
  have reset : placement strategy.inputs candle emaLong = .reset := by
    rw [placement, touches, resets]
    rfl
  rw [enters_along_iff, reset, Confirming.tally_append]
  intro either
  cases either with
  | inl up => exact (show trendFlat ≠ trendUp by decide) up.1
  | inr down => exact (show trendFlat ≠ trendDown by decide) down.1

end EmaTrendPullbackStrategy

-- In every state that calls of the engine reach, a touch of the band while a
-- position is open exits it, unless touches do not reset the trend and the bar
-- enters along it.
theorem touch_exits_iff (inputs : EmaTrendPullbackInputs α) (exits : inputs.enableTouchExit = true)
    (calls : List (EngineCall α)) (exact : CountsExactly α (calls.length + 1)) (engine : StrategyEngine α)
    (ran : Interleaving.run StrategyEngine.move (.build (.emaTrendConfirmPullback inputs)) calls = some engine)
    (strategy : EmaTrendPullbackStrategy α) (same : engine.strategy = .emaTrendConfirmPullback strategy)
    (context : StrategyContext α) (emaLong emaEntry : α)
    (longRead : context.number EmaTrendPullbackStrategy.emaLongKey = .ok emaLong)
    (entryRead : context.number EmaTrendPullbackStrategy.emaEntryKey = .ok emaEntry) (side : PositionSide)
    (held : context.currentPositionSide = some side)
    (touches : EmaTrendPullbackStrategy.touchesLong inputs context.candle emaLong = true) :
    (∃ next, strategy.decide context = .ok (EmaTrendPullbackStrategy.touchDecision side, next)) ↔
      inputs.enableTouchReset = true ∨
        ¬ strategy.EntersAlong (EmaTrendPullbackStrategy.placements inputs (closedCandles calls)) context.candle
          emaLong emaEntry := by
  obtain ⟨reached, ranToo, follows⟩ := EmaTrendPullbackStrategy.run_follows inputs calls exact
  rw [ran] at ranToo
  cases ranToo
  obtain ⟨state, sameToo, keeps, commits⟩ := follows.commits
  rw [same] at sameToo
  cases sameToo
  subst keeps
  have counted : CountsExactly α
      ((EmaTrendPullbackStrategy.placements strategy.inputs (closedCandles calls)).length + 1) := fun z low high => by
    have bars := EmaTrendPullbackStrategy.placements_length strategy.inputs (closedCandles calls)
    have closed : (closedCandles calls).length ≤ calls.length := List.length_filterMap_le _ _
    exact exact z low (by omega)
  have confirmed := congrArg Prod.fst (strategy.update_trend_tally _ emaLong context commits counted)
  have decided : (∃ next, strategy.decide context = .ok (EmaTrendPullbackStrategy.touchDecision side, next)) ↔
      ¬ strategy.EntersAlong (EmaTrendPullbackStrategy.placements strategy.inputs (closedCandles calls))
        context.candle emaLong emaEntry := by
    rw [strategy.decide_spec emaLong emaEntry context longRead entryRead, confirmed, strategy.enters_along_iff, not_or,
      ← strategy.decision_exits_iff _ emaLong emaEntry context side exits held touches]
    constructor
    · intro returned
      obtain ⟨next, returned⟩ := returned
      exact (Prod.mk.inj (Except.ok.inj returned)).1
    · intro exit
      exact ⟨_, congrArg Except.ok (Prod.ext exit rfl)⟩
  rw [decided]
  constructor
  · exact .inr
  · intro either
    cases either with
    | inl resets => exact strategy.reset_enters_nowhere _ context.candle emaLong emaEntry touches resets
    | inr aside => exact aside

theorem one_declared : 1 ≤ 1 ∧ 1 ≤ 20 := by decide

def keepsTrend : EmaTrendPullbackInputs ℚ where
  emaLongLen := 10
  tickConfirm := 1
  enableTouchReset := false
  emaEntryLen := 10
  emaLongLenDeclared := ten_declared
  tickConfirmDeclared := one_declared
  touchSensitivityDeclared := touch_default_declared
  emaEntryLenDeclared := ten_declared
  pullbackSensitivityDeclared := pullback_default_declared
  takeProfitPercentDeclared := profit_default_declared

def wideBar (minute : ℤ) (low high close : ℚ) : MarketData ℚ :=
  { flatBar "BTCUSDT" minute close true with
    highPrice := high
    lowPrice := low }

def boughtCalls : List (EngineCall ℚ) :=
  [closedCall 0 100, closedCall 1 100, closedCall 2 100, closedCall 3 100, closedCall 4 100, closedCall 5 100,
    closedCall 6 100, closedCall 7 100, closedCall 8 100, closedCall 9 100, .onTick (wideBar 10 100 112 110) none rfl]

def nextDecision (inputs : EmaTrendPullbackInputs ℚ) (calls : List (EngineCall ℚ)) (candle : MarketData ℚ)
    (side : PositionSide) : Option (Bool × SignalAction) := do
  let engine ← Interleaving.run StrategyEngine.move (.build (.emaTrendConfirmPullback inputs)) calls
  let readings ← (StrategyEngine.updateIndicators engine.indicators candle).1
  let context : StrategyContext ℚ := { candle, indicators := readings, currentPositionSide := some side }
  let emaLong ← (context.number EmaTrendPullbackStrategy.emaLongKey).toOption
  let (decision, _) ← (engine.strategy.decide context).toOption
  return (EmaTrendPullbackStrategy.touchesLong inputs candle emaLong, decision.action)

theorem touch_exit_masked_by_entry :
    keepsTrend.enableTouchExit = true ∧
      nextDecision keepsTrend boughtCalls (wideBar 11 100 120 115) .long = some (true, .buy) := by
  decide +kernel

theorem touch_exits_iff_bought :
    ∃ engine strategy,
      Interleaving.run StrategyEngine.move (.build (.emaTrendConfirmPullback keepsTrend)) boughtCalls = some engine ∧
        engine.strategy = .emaTrendConfirmPullback strategy ∧
        ((∃ next, strategy.decide
              { candle := wideBar 11 100 120 115
                indicators := [(EmaTrendPullbackStrategy.emaLongKey, .number 104),
                  (EmaTrendPullbackStrategy.emaEntryKey, .number 104)]
                currentPositionSide := some .long } = .ok (EmaTrendPullbackStrategy.touchDecision .long, next)) ↔
          keepsTrend.enableTouchReset = true ∨
            ¬ strategy.EntersAlong (EmaTrendPullbackStrategy.placements keepsTrend (closedCandles boughtCalls))
              (wideBar 11 100 120 115) 104 104) := by
  obtain ⟨engine, ran, follows⟩ :=
    EmaTrendPullbackStrategy.run_follows keepsTrend boughtCalls (rational_counts_exactly _)
  obtain ⟨strategy, same, _⟩ := follows.commits
  exact ⟨engine, strategy, ran, same, touch_exits_iff keepsTrend rfl boughtCalls (rational_counts_exactly _) engine ran
    strategy same { candle := wideBar 11 100 120 115
                    indicators := [(EmaTrendPullbackStrategy.emaLongKey, .number 104),
                      (EmaTrendPullbackStrategy.emaEntryKey, .number 104)]
                    currentPositionSide := some .long } 104 104 rfl rfl .long rfl (by decide +kernel)⟩

end Sagittarius
