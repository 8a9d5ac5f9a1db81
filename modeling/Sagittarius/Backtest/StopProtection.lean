import Sagittarius.Library.Machine
import Sagittarius.Backtest.NoLookAhead
import Sagittarius.Backtest.TickFills

set_option autoImplicit false

namespace Sagittarius

variable {α : Type} [PyFloat α]

def OpenPosition.Reached (position : OpenPosition α) (candle : MarketData α) : Prop :=
  (position.intrabarExit candle.highPrice candle.lowPrice).isSome = true

instance (position : OpenPosition α) (candle : MarketData α) : Decidable (position.Reached candle) :=
  inferInstanceAs (Decidable (_ = _))

theorem StaticRun.bar_protects (run next : StaticRun α) (candle : MarketData α) (stepped : run.bar candle = .ok next)
    (position : OpenPosition α) (held : position ∈ next.exchange.positions) : ¬ position.Reached candle := by
  obtain ⟨_, exchanged, _⟩ := run.bar_cases next candle stepped
  rw [exchanged, checked, PaperExchange.check_intrabar_stops_settles] at held
  have untouched := (List.mem_filter.mp held).2
  unfold OpenPosition.Reached
  simpa using untouched

namespace TickRun

def move (command : BacktestCommand α) (run : TickRun α) (tick : MarketData α) : Option (TickRun α) :=
  (run.tick command tick).toOption

theorem move_steps (command : BacktestCommand α) (run next : TickRun α) (tick : MarketData α) :
    run.move command tick = some next ↔ run.tick command tick = .ok next := by
  unfold move
  cases run.tick command tick with
  | error raised => simp [Except.toOption]
  | ok reached => simp [Except.toOption]

-- No position that was open before the tick stays open once the tick has
-- reached its stop or its target.
def Protects (command : BacktestCommand α) (run : TickRun α) (tick : MarketData α) : Prop :=
  ∀ next, run.move command tick = some next →
    ∀ position ∈ run.exchange.positions, position.Reached tick → position ∉ next.exchange.positions

instance [DecidableEq α] (command : BacktestCommand α) (run : TickRun α) (tick : MarketData α) :
    Decidable (run.Protects command tick) :=
  match moved : run.move command tick with
  | none => .isTrue (by simp [Protects, moved])
  | some next =>
      decidable_of_iff (∀ position ∈ run.exchange.positions, position.Reached tick → position ∉ next.exchange.positions)
        (by simp [Protects, moved])

def SignalsExits (command : BacktestCommand α) (run : TickRun α) (tick : MarketData α) : Prop :=
  ∀ position ∈ run.exchange.positions, position.Reached tick →
    ∃ signal ∈ run.tickSignals command tick, signal.action = position.side.exitAction

instance (command : BacktestCommand α) (run : TickRun α) (tick : MarketData α) :
    Decidable (run.SignalsExits command tick) :=
  inferInstanceAs (Decidable (∀ position ∈ run.exchange.positions, position.Reached tick →
    ∃ signal ∈ run.tickSignals command tick, signal.action = position.side.exitAction))

structure Ahead (run : TickRun α) (ticks : List (MarketData α)) : Prop where
  aligned : run.engine.KeysAligned
  timed : run.Timed fun time => ∀ tick ∈ ticks, time < tick.closeTime
  ordered : ticks.Pairwise fun earlier later => earlier.closeTime < later.closeTime

theorem start_ahead (command : BacktestCommand α) (exchange : PaperExchange α) (ticks : List (MarketData α))
    (funded : command.exchange = some exchange)
    (ordered : ticks.Pairwise fun earlier later => earlier.closeTime < later.closeTime) :
    (start command exchange).Ahead ticks := by
  obtain ⟨_, _, positions, trades⟩ := PaperExchange.create_fresh _ _ _ _ _ exchange funded
  refine ⟨engine_build_aligned command.strategy, ⟨?_, nofun⟩, ordered⟩
  simp [start, PaperExchange.EntriesTimed, PaperExchange.records, positions, trades]

theorem move_ahead (command : BacktestCommand α) (run next : TickRun α) (tick : MarketData α)
    (rest : List (MarketData α)) (ahead : run.Ahead (tick :: rest)) (stepped : run.tick command tick = .ok next) :
    next.Ahead rest := by
  obtain ⟨later, ordered⟩ := List.pairwise_cons.mp ahead.ordered
  obtain ⟨reached, steppedToo, aligned⟩ := run.step_returns FormingBar.contains command tick ahead.aligned
  have same : reached = next := Except.ok.inj (steppedToo.symm.trans stepped)
  have timed : run.Timed fun time => ∀ other ∈ rest, time < other.closeTime :=
    ⟨fun record listed other member => ahead.timed.entries record listed other (List.mem_cons_of_mem tick member),
      fun held holds other member => ahead.timed.forming held holds other (List.mem_cons_of_mem tick member)⟩
  exact ⟨same ▸ aligned, run.tick_timed command next tick _ timed later stepped, ordered⟩

theorem protects_iff (command : BacktestCommand α) (run : TickRun α) (tick : MarketData α)
    (rest : List (MarketData α)) (ahead : run.Ahead (tick :: rest)) :
    run.Protects command tick ↔ run.SignalsExits command tick := by
  obtain ⟨next, stepped, _⟩ := run.step_returns FormingBar.contains command tick ahead.aligned
  have moved : run.move command tick = some next := (run.move_steps command next tick).mpr stepped
  unfold Protects SignalsExits
  simp only [moved, Option.some.injEq, forall_eq']
  refine forall_congr' fun position => forall_congr' fun held => imp_congr_right fun _ => ?_
  have recorded : position.record ∈ run.exchange.records := List.mem_append_right _ (List.mem_map_of_mem held)
  have earlier : position.entryTime < tick.closeTime :=
    ahead.timed.entries position.record recorded tick List.mem_cons_self
  rw [run.tick_keeps_iff command next tick stepped position held earlier]
  push Not
  rfl

end TickRun

-- The tick engine never checks the stops: a position they should close stays
-- open unless the strategy signals its exit on that very tick.
theorem stops_protect_positions_iff (command : BacktestCommand α) (exchange : PaperExchange α)
    (ticks : List (MarketData α)) (funded : command.exchange = some exchange)
    (ordered : ticks.Pairwise fun earlier later => earlier.closeTime < later.closeTime) :
    (Interleaving.StepsMeet (TickRun.move command) (TickRun.Protects command) (TickRun.start command exchange) ticks ↔
        Interleaving.StepsMeet (TickRun.move command) (TickRun.SignalsExits command) (TickRun.start command exchange)
          ticks) ∧
      ∀ (run next : StaticRun α) (candle : MarketData α), run.bar candle = .ok next →
        ∀ position ∈ next.exchange.positions, ¬ position.Reached candle := by
  refine ⟨?_, fun run next candle stepped => run.bar_protects next candle stepped⟩
  refine Interleaving.steps_meet_congr_ahead (TickRun.move command) (TickRun.Protects command)
    (TickRun.SignalsExits command) TickRun.Ahead (fun run tick rest ahead => run.protects_iff command tick rest ahead) ?_ ticks
    (TickRun.start command exchange) (TickRun.start_ahead command exchange ticks funded ordered)
  intro run tick rest next ahead moved
  exact run.move_ahead command next tick rest ahead ((run.move_steps command next tick).mp moved)

def stopConfig : BrokerSimulationConfig ℚ :=
  { spotConfig with stopLossPct := some 5, stop_in_range := by decide +kernel }

def stopCommand : BacktestCommand ℚ := { spotCommand with brokerConfig := some stopConfig }

def stopExchange : PaperExchange ℚ := fundedExchange stopConfig

theorem stops_protect_crossed_position :
    Interleaving.StepsMeet (TickRun.move stopCommand) (TickRun.Protects stopCommand)
      (TickRun.start stopCommand stopExchange) (minuteBars [10, 8, 12, 7]) :=
  (stops_protect_positions_iff stopCommand stopExchange (minuteBars [10, 8, 12, 7]) (by with_unfolding_all rfl)
    (by decide +kernel)).1.mpr (by decide +kernel)

def dippingBar : MarketData ℚ := { flatBar "BTCUSDT" 3 13 true with lowPrice := 5 }

theorem stop_loss_ignored :
    let ticks := minuteBars [10, 8, 12] ++ [dippingBar]
    stopCommand.exchange = some stopExchange ∧
      ticks.Pairwise (fun earlier later => earlier.closeTime < later.closeTime) ∧
        ¬ Interleaving.StepsMeet (TickRun.move stopCommand) (TickRun.Protects stopCommand)
          (TickRun.start stopCommand stopExchange) ticks :=
  ⟨by with_unfolding_all rfl, by decide +kernel, by decide +kernel⟩

end Sagittarius
