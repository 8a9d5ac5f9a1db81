import Sagittarius.Library.Machine
import Sagittarius.Live.LiveStrategySession

set_option autoImplicit false

namespace Sagittarius

variable {α : Type} [PyFloat α]

def EmaTrendPullbackStrategy.TouchExit (strategy : EmaTrendPullbackStrategy α) (emaLong emaEntry : α)
    (context : StrategyContext α) : Prop :=
  (strategy.entryConditions emaLong emaEntry context).1 = (false, false) ∧ strategy.inputs.enableTouchExit = true ∧
    EmaTrendPullbackStrategy.touchesLong strategy.inputs context.candle emaLong = true

namespace VolumeSpikeFlowStrategy

def StopHit (strategy : VolumeSpikeFlowStrategy α) (closePrice : α) (side : PositionSide) : Prop :=
  ∃ previous, strategy.bestPrice = some previous ∧
    match side with
    | .long => closePrice ≤ PyFloat.larger previous closePrice *
        (PyFloat.literal 1 - strategy.inputs.trailingStopPct / PyFloat.literal 100)
    | .short => PyFloat.smaller previous closePrice *
        (PyFloat.literal 1 + strategy.inputs.trailingStopPct / PyFloat.literal 100) ≤ closePrice

def SpikeEntry (strategy : VolumeSpikeFlowStrategy α) (candle : MarketData α) (trendEma : α) : Prop :=
  (∃ baseline, spike strategy.inputs candle (strategy.baselineVolume strategy.volumeSeries) = .ok baseline) ∧
    trendRefusal strategy.inputs candle.closePrice (orderFlowDelta candle) trendEma = none

end VolumeSpikeFlowStrategy

def Strategy.SideBlind (strategy : Strategy α) (context : StrategyContext α) (side : PositionSide) : Prop :=
  match strategy with
  | .emaCrossover _ => True
  | .multiEmaTrendFollower _ => True
  | .supportResistance _ => True
  | .longTermTrendZone _ => True
  | .emaTrendConfirmPullback strategy =>
      ∀ emaLong emaEntry, context.number EmaTrendPullbackStrategy.emaLongKey = .ok emaLong →
        context.number EmaTrendPullbackStrategy.emaEntryKey = .ok emaEntry →
        ¬ strategy.TouchExit emaLong emaEntry context
  | .volumeSpikeFlow strategy =>
      ¬ strategy.StopHit context.candle.closePrice side ∧
        ∀ trendEma, context.number VolumeSpikeFlowStrategy.trendEmaKey = .ok trendEma →
          ¬ strategy.SpikeEntry context.candle trendEma

def StrategyEngine.SideBlind (engine : StrategyEngine α) (candle : MarketData α) (side : Option PositionSide) : Prop :=
  ∀ held readings, side = some held → (StrategyEngine.updateIndicators engine.indicators candle).1 = some readings →
    engine.strategy.SideBlind { candle, indicators := readings } held

def Decision.emitted (decision : Decision α) (candle : MarketData α) : Option (Signal α) :=
  StrategyEngine.actionable (decision.signal candle)

omit [PyFloat α] in
theorem emitted_acts (decision : Decision α) (candle : MarketData α) (acts : decision.action ≠ .hold) :
    decision.emitted candle = some (decision.signal candle) := if_neg acts

omit [PyFloat α] in
theorem emitted_same_action (first second : Decision α) (candle : MarketData α) (acts : first.action ≠ .hold)
    (same : first.emitted candle = second.emitted candle) : second.action = first.action := by
  rw [emitted_acts first candle acts] at same
  by_cases held : second.action = .hold
  · rw [Decision.emitted, StrategyEngine.actionable, if_pos (show (second.signal candle).action = .hold from held)] at same
    cases same
  · rw [emitted_acts second candle held] at same
    exact (congrArg Signal.action (Option.some.inj same)).symm

def StrategyContext.holding (context : StrategyContext α) (side : PositionSide) : StrategyContext α :=
  { context with currentPositionSide := some side }

theorem ema_trend_pullback_side (strategy : EmaTrendPullbackStrategy α) (context : StrategyContext α)
    (emaLong emaEntry : α) (flat : context.currentPositionSide = none)
    (longRead : context.number EmaTrendPullbackStrategy.emaLongKey = .ok emaLong)
    (entryRead : context.number EmaTrendPullbackStrategy.emaEntryKey = .ok emaEntry) (side : PositionSide) :
    (fun result => result.1.emitted context.candle) <$> strategy.decide context =
        (fun result => result.1.emitted context.candle) <$> strategy.decide (context.holding side) ↔
      ¬ strategy.TouchExit emaLong emaEntry context := by
  have longHeld : (context.holding side).number EmaTrendPullbackStrategy.emaLongKey = .ok emaLong := longRead
  have entryHeld : (context.holding side).number EmaTrendPullbackStrategy.emaEntryKey = .ok emaEntry := entryRead
  have sameEntry : strategy.entryConditions emaLong emaEntry (context.holding side) =
      strategy.entryConditions emaLong emaEntry context := rfl
  have sameCandle : (context.holding side).candle = context.candle := rfl
  have held : (context.holding side).currentPositionSide = some side := rfl
  simp only [EmaTrendPullbackStrategy.decide, longRead, entryRead, longHeld, entryHeld, sameEntry, sameCandle, held,
    flat, bind, Except.bind, pure, Except.pure, EmaTrendPullbackStrategy.TouchExit, ← Bool.and_eq_true]
  generalize (strategy.inputs.enableTouchExit &&
    EmaTrendPullbackStrategy.touchesLong strategy.inputs context.candle emaLong) = exits
  obtain ⟨⟨longCondition, shortCondition⟩, next⟩ := strategy.entryConditions emaLong emaEntry context
  cases longCondition with
  | true => simp
  | false =>
      cases shortCondition with
      | true => simp
      | false =>
          cases exits with
          | false => simp
          | true =>
              refine iff_of_false (fun same => ?_) (by simp)
              cases side with
              | long => cases same
              | short => cases same

theorem volume_spike_flow_flat (strategy : VolumeSpikeFlowStrategy α) (context : StrategyContext α) (trendEma : α)
    (flat : context.currentPositionSide = none)
    (trendRead : context.number VolumeSpikeFlowStrategy.trendEmaKey = .ok trendEma) :
    ∃ decision next, strategy.decide context = .ok (decision, next) ∧
      (strategy.SpikeEntry context.candle trendEma → decision.action = .buy ∨ decision.action = .short) ∧
      (¬ strategy.SpikeEntry context.candle trendEma → decision.action = .hold) := by
  simp only [VolumeSpikeFlowStrategy.decide, VolumeSpikeFlowStrategy.checkTrailingStop, flat, Option.isSome_none,
    VolumeSpikeFlowStrategy.SpikeEntry, bind, Except.bind, pure, Except.pure, Bool.false_eq_true, if_false]
  cases spiked : VolumeSpikeFlowStrategy.spike strategy.inputs context.candle
      (strategy.baselineVolume strategy.volumeSeries) with
  | error reason => exact ⟨.hold reason, _, rfl, by simp, fun _ => rfl⟩
  | ok baseline =>
      simp only [trendRead, VolumeSpikeFlowStrategy.enter]
      cases refused : VolumeSpikeFlowStrategy.trendRefusal strategy.inputs context.candle.closePrice
          (VolumeSpikeFlowStrategy.orderFlowDelta context.candle) trendEma with
      | some reason => exact ⟨.hold reason, _, rfl, by simp, fun _ => rfl⟩
      | none =>
          refine ⟨_, _, rfl, fun _ => ?_, by simp⟩
          cases VolumeSpikeFlowStrategy.goLong strategy.inputs
            (VolumeSpikeFlowStrategy.orderFlowDelta context.candle) with
          | true => exact .inl rfl
          | false => exact .inr rfl

theorem volume_spike_flow_held (strategy : VolumeSpikeFlowStrategy α) (context : StrategyContext α)
    (side : PositionSide) :
    ∃ decision next, strategy.decide (context.holding side) = .ok (decision, next) ∧
      (strategy.StopHit context.candle.closePrice side → decision.action = .sell ∨ decision.action = .cover) ∧
      (¬ strategy.StopHit context.candle.closePrice side → decision.action = .hold) := by
  have sameCandle : (context.holding side).candle = context.candle := rfl
  have held : (context.holding side).currentPositionSide = some side := rfl
  simp only [VolumeSpikeFlowStrategy.decide, VolumeSpikeFlowStrategy.checkTrailingStop, held, sameCandle,
    VolumeSpikeFlowStrategy.StopHit, Option.isSome_some, pure, Except.pure]
  cases best : strategy.bestPrice with
  | none => exact ⟨_, _, rfl, by simp, fun _ => rfl⟩
  | some previous =>
      cases side with
      | long =>
          by_cases stopped : context.candle.closePrice ≤ PyFloat.larger previous context.candle.closePrice *
              (PyFloat.literal 1 - strategy.inputs.trailingStopPct / PyFloat.literal 100)
          · simp only [if_pos stopped]
            exact ⟨_, _, rfl, fun _ => .inl rfl, fun missed => absurd ⟨previous, rfl, stopped⟩ missed⟩
          · simp only [if_neg stopped, if_true]
            refine ⟨_, _, rfl, ?_, fun _ => rfl⟩
            rintro ⟨anchor, same, hit⟩
            cases same
            exact absurd hit stopped
      | short =>
          by_cases stopped : PyFloat.smaller previous context.candle.closePrice *
              (PyFloat.literal 1 + strategy.inputs.trailingStopPct / PyFloat.literal 100) ≤ context.candle.closePrice
          · simp only [if_pos stopped]
            exact ⟨_, _, rfl, fun _ => .inr rfl, fun missed => absurd ⟨previous, rfl, stopped⟩ missed⟩
          · simp only [if_neg stopped, if_true]
            refine ⟨_, _, rfl, ?_, fun _ => rfl⟩
            rintro ⟨anchor, same, hit⟩
            cases same
            exact absurd hit stopped

theorem volume_spike_flow_side (strategy : VolumeSpikeFlowStrategy α) (context : StrategyContext α) (trendEma : α)
    (flat : context.currentPositionSide = none)
    (trendRead : context.number VolumeSpikeFlowStrategy.trendEmaKey = .ok trendEma) (side : PositionSide) :
    (fun result => result.1.emitted context.candle) <$> strategy.decide context =
        (fun result => result.1.emitted context.candle) <$> strategy.decide (context.holding side) ↔
      ¬ strategy.StopHit context.candle.closePrice side ∧ ¬ strategy.SpikeEntry context.candle trendEma := by
  obtain ⟨flatDecision, _, flatDecides, enters, waits⟩ := volume_spike_flow_flat strategy context trendEma flat trendRead
  obtain ⟨heldDecision, _, heldDecides, exits, keeps⟩ := volume_spike_flow_held strategy context side
  rw [flatDecides, heldDecides]
  constructor
  · intro same
    have same : flatDecision.emitted context.candle = heldDecision.emitted context.candle := Except.ok.inj same
    refine ⟨fun hit => ?_, fun entry => ?_⟩
    · have exit := exits hit
      have action := emitted_same_action heldDecision flatDecision context.candle
        (by rcases exit with exit | exit <;> simp [exit]) same.symm
      by_cases entry : strategy.SpikeEntry context.candle trendEma
      · rcases enters entry with enter | enter <;> rcases exit with exit | exit <;> simp [enter, exit] at action
      · rcases exit with exit | exit <;> simp [waits entry, exit] at action
    · have enter := enters entry
      have action := emitted_same_action flatDecision heldDecision context.candle
        (by rcases enter with enter | enter <;> simp [enter]) same
      by_cases hit : strategy.StopHit context.candle.closePrice side
      · rcases exits hit with exit | exit <;> rcases enter with enter | enter <;> simp [enter, exit] at action
      · rcases enter with enter | enter <;> simp [keeps hit, enter] at action
  · rintro ⟨missed, noEntry⟩
    have waiting : flatDecision.emitted context.candle = none := if_pos (waits noEntry)
    have keeping : heldDecision.emitted context.candle = none := if_pos (keeps missed)
    simp [waiting, keeping]

theorem strategy_side (strategy : Strategy α) (context : StrategyContext α) (flat : context.currentPositionSide = none)
    (reads : Reads context.indicators strategy.declares) (side : PositionSide) :
    (fun result => result.1.emitted context.candle) <$> strategy.decide context =
        (fun result => result.1.emitted context.candle) <$> strategy.decide (context.holding side) ↔
      strategy.SideBlind context side := by
  cases strategy with
  | emaCrossover strategy => exact iff_of_true rfl trivial
  | multiEmaTrendFollower strategy => exact iff_of_true rfl trivial
  | supportResistance strategy => exact iff_of_true rfl trivial
  | longTermTrendZone strategy => exact iff_of_true rfl trivial
  | emaTrendConfirmPullback strategy =>
      obtain ⟨emaLong, longRead⟩ := reads_number context _ EmaTrendPullbackStrategy.emaLongKey reads rfl
      obtain ⟨emaEntry, entryRead⟩ := reads_number context _ EmaTrendPullbackStrategy.emaEntryKey reads rfl
      have decided := ema_trend_pullback_side strategy context emaLong emaEntry flat longRead entryRead side
      simp only [Strategy.decide, ← comp_map]
      refine decided.trans ⟨fun noExit a b readA readB => ?_, fun all => all emaLong emaEntry longRead entryRead⟩
      cases longRead.symm.trans readA
      cases entryRead.symm.trans readB
      exact noExit
  | volumeSpikeFlow strategy =>
      obtain ⟨trendEma, trendRead⟩ := reads_number context _ VolumeSpikeFlowStrategy.trendEmaKey reads rfl
      have decided := volume_spike_flow_side strategy context trendEma flat trendRead side
      simp only [Strategy.decide, ← comp_map]
      refine decided.trans (and_congr_right fun _ => ⟨fun noEntry a readA => ?_, fun all => all trendEma trendRead⟩)
      cases trendRead.symm.trans readA
      exact noEntry

theorem on_tick_signal (engine : StrategyEngine α) (candle : MarketData α) (side : Option PositionSide)
    (readings : Readings α) (ready : (StrategyEngine.updateIndicators engine.indicators candle).1 = some readings) :
    Prod.fst <$> engine.onTick candle side =
      (fun result => result.1.emitted candle) <$>
        engine.strategy.decide { candle, indicators := readings, currentPositionSide := side } := by
  unfold StrategyEngine.onTick
  generalize StrategyEngine.updateIndicators engine.indicators candle = updated at ready
  obtain ⟨found, indicators⟩ := updated
  cases ready
  simp only [Strategy.evaluate, map_eq_pure_bind, bind_assoc, pure_bind]
  rfl

theorem on_tick_warming (engine : StrategyEngine α) (candle : MarketData α) (side : Option PositionSide)
    (warming : (StrategyEngine.updateIndicators engine.indicators candle).1 = none) :
    Prod.fst <$> engine.onTick candle side = .ok none := by
  unfold StrategyEngine.onTick
  generalize StrategyEngine.updateIndicators engine.indicators candle = updated at warming
  obtain ⟨found, indicators⟩ := updated
  cases warming
  rfl

theorem engine_side (engine : StrategyEngine α) (candle : MarketData α) (side : Option PositionSide)
    (aligned : engine.KeysAligned) :
    Prod.fst <$> engine.onTick candle = Prod.fst <$> engine.onTick candle side ↔ engine.SideBlind candle side := by
  cases side with
  | none => exact iff_of_true rfl (fun held readings same _ => by cases same)
  | some held =>
      cases ready : (StrategyEngine.updateIndicators engine.indicators candle).1 with
      | none =>
          rw [on_tick_warming engine candle none ready, on_tick_warming engine candle (some held) ready]
          exact iff_of_true rfl (fun _ readings _ found => by rw [ready] at found; cases found)
      | some readings =>
          have reads : Reads readings engine.strategy.declares := by
            rw [← aligned]
            exact update_indicators_reads engine.indicators candle readings ready
          rw [on_tick_signal engine candle none readings ready, on_tick_signal engine candle (some held) readings ready]
          refine (strategy_side engine.strategy { candle, indicators := readings } rfl reads held).trans ?_
          refine ⟨fun blind other found same isReady => ?_, fun all => all held readings rfl ready⟩
          cases same
          cases ready.symm.trans isReady
          exact blind

structure ArmedBar (config : LiveStrategyConfig α) where
  candle : MarketData α
  openSide : Option PositionSide
  closed : config.closedCandle candle = true

variable {config : LiveStrategyConfig α}

def liveStep (session : LiveStrategySession α) (bar : ArmedBar config) : Option (LiveStrategySession α) :=
  (session.dispatchTick bar.candle).toOption.map Prod.snd

def SameDecision (session : LiveStrategySession α) (bar : ArmedBar config) : Prop :=
  ∀ armed ∈ session.armed,
    Prod.fst <$> session.dispatchTick bar.candle = Prod.fst <$> armed.engine.onTick bar.candle bar.openSide

instance [DecidableEq α] (session : LiveStrategySession α) (bar : ArmedBar config) :
    Decidable (SameDecision session bar) :=
  inferInstanceAs (Decidable (∀ armed ∈ session.armed,
    Prod.fst <$> session.dispatchTick bar.candle = Prod.fst <$> armed.engine.onTick bar.candle bar.openSide))

def SideUnread (session : LiveStrategySession α) (bar : ArmedBar config) : Prop :=
  ∀ armed ∈ session.armed, armed.engine.SideBlind bar.candle bar.openSide

theorem same_decision_iff (generation : ℕ) (engine : StrategyEngine α) (aligned : engine.KeysAligned)
    (bar : ArmedBar config) :
    SameDecision (armedOn config generation engine) bar ↔ SideUnread (armedOn config generation engine) bar := by
  have covered : config.covers bar.candle = true := by
    have closed := bar.closed
    simp only [LiveStrategyConfig.closedCandle, Bool.and_eq_true] at closed
    exact closed.2
  have live : Prod.fst <$> (armedOn config generation engine).dispatchTick bar.candle =
      Prod.fst <$> engine.onTick bar.candle := by
    rw [dispatch_covered config generation engine bar.candle covered, ← comp_map]
    rfl
  simp only [SameDecision, SideUnread, armedOn, Option.mem_def, Option.some.injEq, forall_eq'] at live ⊢
  rw [live]
  exact engine_side engine bar.candle bar.openSide aligned

theorem live_step_armed (generation : ℕ) (engine : StrategyEngine α) (aligned : engine.KeysAligned)
    (bar : ArmedBar config) (next : LiveStrategySession α)
    (moved : liveStep (armedOn config generation engine) bar = some next) :
    ∃ after, after.KeysAligned ∧ next = armedOn config generation after := by
  obtain ⟨signal, after, ticked, afterAligned⟩ := on_tick_returns engine bar.candle none aligned
  refine ⟨after, afterAligned, ?_⟩
  cases covered : config.covers bar.candle with
  | true =>
      rw [liveStep, dispatch_covered config generation engine bar.candle covered, ticked] at moved
      exact (Option.some.inj moved).symm
  | false =>
      have closed := bar.closed
      simp [LiveStrategyConfig.closedCandle, covered] at closed

theorem live_decides_as_static (config : LiveStrategyConfig α) (generation : ℕ) (history : List (ArmedBar config)) :
    Interleaving.StepsMeet liveStep SameDecision (armedOn config generation (.build config.choice)) history ↔
      Interleaving.StepsMeet liveStep SideUnread (armedOn config generation (.build config.choice)) history := by
  refine Interleaving.steps_meet_congr liveStep SameDecision SideUnread
    (fun session => ∃ engine, engine.KeysAligned ∧ session = armedOn config generation engine) ?_ ?_ history _
    ⟨.build config.choice, engine_build_aligned config.choice, rfl⟩
  · rintro session bar ⟨engine, aligned, rfl⟩
    exact same_decision_iff generation engine aligned bar
  · rintro session bar next ⟨engine, aligned, rfl⟩ moved
    exact live_step_armed generation engine aligned bar next moved

def pullbackConfig : LiveStrategyConfig ℚ :=
  { crossoverConfig with choice := .emaTrendConfirmPullback { emaLongLen := 10, emaEntryLen := 10 } }

def pullbackBar (minute : ℤ) (openSide : Option PositionSide) : ArmedBar pullbackConfig where
  candle := flatBar "BTCUSDT" minute 100 true
  openSide := openSide
  closed := rfl

theorem live_ignores_touch_exit :
    ¬ ∀ history : List (ArmedBar pullbackConfig),
      Interleaving.StepsMeet liveStep SameDecision (armedOn pullbackConfig 1 (.build pullbackConfig.choice)) history := by
  intro claimed
  have same := claimed ((List.range 9).map (fun minute => pullbackBar minute none) ++ [pullbackBar 9 (some .long)])
  revert same
  decide +kernel

end Sagittarius
