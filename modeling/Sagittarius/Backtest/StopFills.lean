import Sagittarius.Backtest.StopProtection

set_option autoImplicit false

namespace Sagittarius

variable {α : Type} [PyFloat α]

-- The far end of the bar reaches the level as well, so that the level is a
-- price of the bar.
def OpenPosition.stopReached (position : OpenPosition α) (high low stop : α) : Prop :=
  match position.side with
  | .long => stop ≤ high
  | .short => low ≤ stop

def OpenPosition.targetReached (position : OpenPosition α) (high low target : α) : Prop :=
  match position.side with
  | .long => low ≤ target
  | .short => target ≤ high

structure OpenPosition.Touched (position : OpenPosition α) (high low : α) : Prop where
  stop : ∀ stop, position.stopLossPrice = some stop → position.stopHit high low stop = true →
    position.stopReached high low stop
  target : ∀ target, position.takeProfitPrice = some target → position.targetHit high low target = true →
    (∀ stop, position.stopLossPrice = some stop → position.stopHit high low stop = false) →
    position.targetReached high low target

def Trade.Tradable (trade : Trade α) (candle : MarketData α) : Prop :=
  trade.exitReason = .stopLoss ∨ trade.exitReason = .takeProfit →
    candle.lowPrice ≤ trade.exitPrice ∧ trade.exitPrice ≤ candle.highPrice

instance (trade : Trade α) (candle : MarketData α) : Decidable (trade.Tradable candle) :=
  inferInstanceAs (Decidable (_ → _ ∧ _))

theorem stop_level_inside (position : OpenPosition α) (high low stop : α) (hit : position.stopHit high low stop = true) :
    position.stopReached high low stop ↔ low ≤ stop ∧ stop ≤ high := by
  rw [OpenPosition.stopHit] at hit
  rw [OpenPosition.stopReached]
  cases side : position.side with
  | long =>
      simp only [side, decide_eq_true_eq] at hit ⊢
      exact (and_iff_right hit).symm
  | short =>
      simp only [side, decide_eq_true_eq] at hit ⊢
      exact (and_iff_left hit).symm

theorem target_level_inside (position : OpenPosition α) (high low target : α)
    (hit : position.targetHit high low target = true) :
    position.targetReached high low target ↔ low ≤ target ∧ target ≤ high := by
  rw [OpenPosition.targetHit] at hit
  rw [OpenPosition.targetReached]
  cases side : position.side with
  | long =>
      simp only [side, decide_eq_true_eq] at hit ⊢
      exact (and_iff_left hit).symm
  | short =>
      simp only [side, decide_eq_true_eq] at hit ⊢
      exact (and_iff_right hit).symm

theorem exit_inside_iff (position : OpenPosition α) (high low : α) :
    (∀ exit, position.intrabarExit high low = some exit → low ≤ exit.1 ∧ exit.1 ≤ high) ↔ position.Touched high low := by
  rw [OpenPosition.intrabarExit]
  cases stopped : position.stopLossPrice.filter (position.stopHit high low) with
  | some stop =>
      obtain ⟨configured, hit⟩ := Option.filter_eq_some_iff.mp stopped
      simp only [Option.some.injEq, forall_eq']
      rw [← stop_level_inside position high low stop hit]
      constructor
      · intro reached
        refine ⟨?_, ?_⟩
        · intro other same _
          cases configured.symm.trans same
          exact reached
        · intro target _ _ unstopped
          have missed := unstopped stop configured
          rw [hit] at missed
          cases missed
      · intro touched
        exact touched.stop stop configured hit
  | none =>
      have unstopped : ∀ stop, position.stopLossPrice = some stop → position.stopHit high low stop = false := by
        intro stop configured
        simpa [configured, Option.filter] using stopped
      constructor
      · intro inside
        refine ⟨?_, ?_⟩
        · intro stop configured hit
          rw [unstopped stop configured] at hit
          cases hit
        · intro target configured hit _
          rw [target_level_inside position high low target hit]
          apply inside (target, .takeProfit)
          simp [configured, Option.filter, hit]
      · intro touched exit exits
        obtain ⟨target, filtered, rfl⟩ := Option.map_eq_some_iff.mp exits
        obtain ⟨configured, hit⟩ := Option.filter_eq_some_iff.mp filtered
        exact (target_level_inside position high low target hit).mp (touched.target target configured hit unstopped)

namespace StaticRun

def move (run : StaticRun α) (candle : MarketData α) : Option (StaticRun α) := (run.bar candle).toOption

-- No position held through the bar has its level jumped over.
def NoLevelJumped (run : StaticRun α) (candle : MarketData α) : Prop :=
  ∀ position ∈ (run.filled candle).positions, position.Touched candle.highPrice candle.lowPrice

def StopExitsTradable (klines : List (MarketData α)) (closedPerBar : List (List (Trade α))) : Prop :=
  ∀ bar ∈ klines.zip closedPerBar, ∀ trade ∈ bar.2, trade.Tradable bar.1

instance (klines : List (MarketData α)) (closedPerBar : List (List (Trade α))) :
    Decidable (StopExitsTradable klines closedPerBar) :=
  inferInstanceAs (Decidable (∀ bar ∈ klines.zip closedPerBar, ∀ trade ∈ bar.2, trade.Tradable bar.1))

theorem bar_tradable_iff (run : StaticRun α) (candle : MarketData α) :
    (∀ trade ∈ run.closedInBar candle, trade.Tradable candle) ↔ run.NoLevelJumped candle := by
  obtain ⟨signalled, reasons, split⟩ := run.closed_in_bar_splits candle
  rw [split]
  rw [NoLevelJumped]
  constructor
  · intro tradable position held
    rw [← exit_inside_iff]
    intro exit exits
    have closes : (position, exit) ∈ (run.filled candle).closings
        (.checkIntrabarStops candle.highPrice candle.lowPrice candle.closeTime) :=
      List.mem_filterMap.mpr ⟨position, held, by rw [exits]; rfl⟩
    exact tradable _ (List.mem_append_right _ (List.mem_map_of_mem closes))
      (PaperExchange.closings_stops _ _ _ _ _ closes).2
  · intro touched trade closed reason
    rcases List.mem_append.mp closed with bySignal | byStop
    · rw [reasons trade bySignal] at reason
      rcases reason with impossible | impossible
      · cases impossible
      · cases impossible
    · obtain ⟨closing, closes, rfl⟩ := List.mem_map.mp byStop
      have exits := (PaperExchange.closings_stops _ _ _ _ closing closes).1
      obtain ⟨position, held, mapped⟩ := List.mem_filterMap.mp closes
      obtain ⟨exit, _, same⟩ := Option.map_eq_some_iff.mp mapped
      cases same
      exact (exit_inside_iff position _ _).mpr (touched position held) _ exits

theorem replay_tradable_iff (run final : StaticRun α) (klines : List (MarketData α))
    (replayed : run.replay klines = .ok final) :
    StopExitsTradable klines (run.closedPerBar klines) ↔ Interleaving.StepsMeet move NoLevelJumped run klines := by
  induction klines generalizing run with
  | nil => simp [StopExitsTradable, Interleaving.StepsMeet]
  | cons candle rest ih =>
      obtain ⟨next, stepped, continued⟩ := run.replay_cons final candle rest replayed
      have moved : run.move candle = some next := by
        rw [move]
        rw [stepped]
        rfl
      have bars : StopExitsTradable (candle :: rest) (run.closedPerBar (candle :: rest)) ↔
          (∀ trade ∈ run.closedInBar candle, trade.Tradable candle) ∧
            StopExitsTradable rest (next.closedPerBar rest) := by
        simp [StopExitsTradable, closedPerBar, stepped]
      rw [bars, run.bar_tradable_iff candle, ih next continued]
      simp only [Interleaving.StepsMeet, moved, Option.some.injEq, forall_eq']

end StaticRun

-- Every stop and target exit of a run is at a price of its bar exactly when no
-- bar jumps over a level it triggers.
theorem stop_exits_tradable_iff (command : BacktestCommand α) (klines : List (MarketData α)) (result : BacktestResult α)
    (ran : Simulates command klines result) :
    (result.trades.filter (·.exitReason ≠ .endOfBacktest) = (tradesPerBar command klines).flatten ∧
        (tradesPerBar command klines).length = klines.length) ∧
      ∃ exchange, command.exchange = some exchange ∧
        (StaticRun.StopExitsTradable klines (tradesPerBar command klines) ↔
          Interleaving.StepsMeet StaticRun.move StaticRun.NoLevelJumped (StaticRun.start command exchange) klines) := by
  obtain ⟨_, _, _, _, simulated⟩ := ran
  obtain ⟨exchange, run, last, funded, replayed, _, rfl⟩ := simulate_replays _ _ _ _ _ _ _ simulated
  simp only [tradesPerBar, funded, Option.elim_some]
  exact ⟨⟨StaticRun.result_closed_in_bars command exchange run klines last funded replayed,
    StaticRun.closed_per_bar_length _ run klines replayed⟩, exchange, rfl,
    (StaticRun.start command exchange).replay_tradable_iff run klines replayed⟩

theorem stop_simulates (prices : List ℚ) (traded : prices ≠ []) :
    ∃ result, Simulates stopCommand (minuteBars prices) result := by
  obtain ⟨result, ran⟩ := simulate_returns stopCommand "full" prices.length 0 prices.length (minuteBars prices) stopExchange
    (by with_unfolding_all rfl) (by simpa [minuteBars] using traded) (fun _ => rfl)
  exact ⟨result, _, _, _, _, ran⟩

theorem stop_exits_tradable_touched :
    ∃ exchange, stopCommand.exchange = some exchange ∧
      Interleaving.StepsMeet StaticRun.move StaticRun.NoLevelJumped (StaticRun.start stopCommand exchange)
        (minuteBars [10, 8, 12, 12, 57 / 5]) := by
  obtain ⟨result, ran⟩ := stop_simulates [10, 8, 12, 12, 57 / 5] (by simp)
  obtain ⟨_, exchange, funded, tradable⟩ := stop_exits_tradable_iff stopCommand _ result ran
  exact ⟨exchange, funded, tradable.mp (by decide +kernel)⟩

-- The next bar trades at 7 alone, and the long is closed at 11.4.
theorem stop_filled_above_bar :
    let klines := minuteBars [10, 8, 12, 12, 7]
    (∀ candle ∈ klines, candle.lowPrice ≤ candle.openPrice ∧ candle.openPrice ≤ candle.highPrice ∧
        candle.lowPrice ≤ candle.closePrice ∧ candle.closePrice ≤ candle.highPrice) ∧
      (∃ result, Simulates stopCommand klines result) ∧
        ¬ StaticRun.StopExitsTradable klines (tradesPerBar stopCommand klines) :=
  ⟨by decide +kernel, stop_simulates [10, 8, 12, 12, 7] (by simp), by decide +kernel⟩

end Sagittarius
