import Sagittarius.Backtest.Conservation
import Sagittarius.Backtest.TickRun
import Sagittarius.Backtest.TradeOrigins

set_option autoImplicit false

namespace Sagittarius

variable {α : Type} [PyFloat α]

namespace PaperExchange

theorem open_keeps (exchange : PaperExchange α) (side : PositionSide) (price : α) (time : ℤ) (reason : String)
    (metadata : Metadata α) (position : OpenPosition α) (held : position ∈ exchange.positions) :
    position ∈ (exchange.openPosition side price time reason metadata).positions := by
  unfold openPosition
  cases exchange.entry side price time reason metadata with
  | none => exact held
  | some opening => exact List.mem_append_left _ held

theorem close_keeps_iff (exchange : PaperExchange α) (side : PositionSide) (price : α) (time : ℤ)
    (exitReason : ExitReason) (position : OpenPosition α) (held : position ∈ exchange.positions) :
    position ∈ (exchange.close side price time exitReason).2.positions ↔ position.side ≠ side := by
  rw [close_settles]
  simp [settle, held]

theorem fill_keeps_iff (exchange : PaperExchange α) (signal : Option (Signal α)) (price : α) (time : ℤ)
    (position : OpenPosition α) (held : position ∈ exchange.positions) :
    position ∈ (exchange.fillAny signal price time).positions ↔
      ∀ asked ∈ signal, asked.action ≠ position.side.exitAction := by
  cases signal with
  | none => simpa [fillAny] using held
  | some signal =>
      simp only [fillAny, Option.mem_def, Option.some.injEq, forall_eq', fill]
      cases action : signal.action with
      | buy =>
          refine iff_of_true (exchange.open_keeps _ _ _ _ _ position held) ?_
          cases position.side <;> simp [PositionSide.exitAction]
      | short =>
          refine iff_of_true (exchange.open_keeps _ _ _ _ _ position held) ?_
          cases position.side <;> simp [PositionSide.exitAction]
      | hold =>
          refine iff_of_true held ?_
          cases position.side <;> simp [PositionSide.exitAction]
      | sell =>
          refine (exchange.close_keeps_iff .long price time .strategySignal position held).trans ?_
          cases position.side <;> simp [PositionSide.exitAction]
      | cover =>
          refine (exchange.close_keeps_iff .short price time .strategySignal position held).trans ?_
          cases position.side <;> simp [PositionSide.exitAction]

theorem fill_origin (exchange : PaperExchange α) (signal : Option (Signal α)) (price : α) (time : ℤ)
    (position : OpenPosition α) (held : position ∈ (exchange.fillAny signal price time).positions) :
    position ∈ exchange.positions ∨ position.entryTime = time := by
  cases signal with
  | none => exact .inl held
  | some signal =>
      refine (exchange.perform_position_origin (.fill signal price time) position held).imp_right fun accepted => ?_
      exact congrArg EntryRecord.entryTime (exchange.accepts_fill signal price time position accepted).2

def EntriesTimed (exchange : PaperExchange α) (Timed : ℤ → Prop) : Prop :=
  ∀ record ∈ exchange.records, Timed record.entryTime

theorem perform_timed (exchange : PaperExchange α) (call : ExchangeCall α) (Timed : ℤ → Prop)
    (timed : exchange.EntriesTimed Timed) (now : ∀ position, exchange.accepts call = some position → Timed call.time) :
    (exchange.perform call).EntriesTimed Timed := by
  intro record listed
  rcases List.mem_append.mp ((exchange.perform_records call).subset listed) with earlier | new
  · exact timed record earlier
  · obtain ⟨position, listedToo, rfl⟩ := List.mem_map.mp new
    have accepted : exchange.accepts call = some position := Option.mem_toList.mp listedToo
    cases call with
    | fill signal price time =>
        have recorded := (exchange.accepts_fill signal price time position accepted).2
        rw [recorded]
        exact now position accepted
    | checkIntrabarStops high low time => cases accepted
    | forceClose price time => cases accepted

theorem fill_timed (exchange : PaperExchange α) (signal : Option (Signal α)) (price : α) (time : ℤ) (Timed : ℤ → Prop)
    (timed : exchange.EntriesTimed Timed) (now : Timed time) : (exchange.fillAny signal price time).EntriesTimed Timed := by
  cases signal with
  | none => exact timed
  | some signal => exact exchange.perform_timed (.fill signal price time) Timed timed fun _ _ => now

end PaperExchange

namespace TickRun

def commitSignal (command : BacktestCommand α) (run : TickRun α) (forming : FormingBar α) : Option (Signal α) :=
  match run.engine.onTick (forming.toCandle command.symbol command.interval.value true) run.exchange.currentSide with
  | .error _ => none
  | .ok (signal, _) => signal

def formingSignal (command : BacktestCommand α) (run : TickRun α) (forming : FormingBar α) : Option (Signal α) :=
  match run.engine.onFormingBarTick (forming.toCandle command.symbol command.interval.value false)
      run.exchange.currentSide with
  | .error _ => none
  | .ok (signal, _) => signal

def outrun (run : TickRun α) (tick : MarketData α) : Option (FormingBar α) :=
  run.forming.filter fun held => !held.contains tick

-- The signals that a tick fills: that of the bar a gap commits, then that of
-- the tick's own bar.
def gapSignal (command : BacktestCommand α) (run : TickRun α) (tick : MarketData α) : Option (Signal α) :=
  (run.outrun tick).bind (run.commitSignal command)

def ownSignal (command : BacktestCommand α) (run : TickRun α) (tick : MarketData α) : Option (Signal α) :=
  match run.enterBar command FormingBar.contains tick with
  | .error _ => none
  | .ok (entered, forming) =>
      if forming.barEnd ≤ tick.closeTime + closeTimeIsInclusiveBy then entered.commitSignal command forming
      else entered.formingSignal command forming

def tickSignals (command : BacktestCommand α) (run : TickRun α) (tick : MarketData α) : List (Signal α) :=
  (run.gapSignal command tick).toList ++ (run.ownSignal command tick).toList

theorem commit_fills (command : BacktestCommand α) (run next : TickRun α) (forming : FormingBar α)
    (committed : run.commitBar command forming = .ok next) :
    next.exchange =
      run.exchange.fillAny (run.commitSignal command forming) forming.closePrice forming.lastTickCloseTime := by
  obtain ⟨signal, ticked, exchanged, _⟩ := run.commit_cases command next forming committed
  have said : run.commitSignal command forming = signal := by
    unfold commitSignal
    rw [ticked]
  rw [said]
  exact exchanged

theorem evaluate_fills (command : BacktestCommand α) (run next : TickRun α) (forming : FormingBar α)
    (tick : MarketData α) (evaluated : run.evaluateForming command forming tick = .ok next) :
    next.exchange = run.exchange.fillAny (run.formingSignal command forming) tick.closePrice tick.closeTime := by
  obtain ⟨signal, ticked, exchanged, _⟩ := run.evaluate_cases command next forming tick evaluated
  have said : run.formingSignal command forming = signal := by
    unfold formingSignal
    rw [ticked]
  rw [said]
  exact exchanged

theorem enter_fills (command : BacktestCommand α) (run entered : TickRun α) (tick : MarketData α)
    (forming : FormingBar α) (enters : run.enterBar command FormingBar.contains tick = .ok (entered, forming)) :
    forming.closePrice = tick.closePrice ∧ forming.lastTickCloseTime = tick.closeTime ∧
      ((run.gapSignal command tick = none ∧ entered.exchange = run.exchange) ∨
        ∃ held, run.forming = some held ∧ entered.exchange =
          run.exchange.fillAny (run.gapSignal command tick) held.closePrice held.lastTickCloseTime) := by
  rcases run.enter_cases command _ entered tick forming enters with
    ⟨empty, rfl, rfl⟩ | ⟨held, holds, inside, rfl, rfl⟩ | ⟨held, holds, outside, committed, rfl⟩
  · exact ⟨rfl, rfl, .inl ⟨by simp [gapSignal, outrun, empty], rfl⟩⟩
  · exact ⟨rfl, rfl, .inl ⟨by simp [gapSignal, outrun, holds, inside], rfl⟩⟩
  · refine ⟨rfl, rfl, .inr ⟨held, holds, ?_⟩⟩
    have behind : run.outrun tick = some held := by
      rw [outrun, holds, Option.filter_some_pos (by simp [outside])]
    rw [gapSignal, behind]
    exact run.commit_fills command entered held committed

theorem tick_fills (command : BacktestCommand α) (run next : TickRun α) (tick : MarketData α)
    (stepped : run.tick command tick = .ok next) :
    ∃ entered, next.exchange = PaperExchange.fillAny entered (run.ownSignal command tick) tick.closePrice tick.closeTime ∧
      ((run.gapSignal command tick = none ∧ entered = run.exchange) ∨
        ∃ held, run.forming = some held ∧
          entered = run.exchange.fillAny (run.gapSignal command tick) held.closePrice held.lastTickCloseTime) := by
  obtain ⟨entered, forming, enters, finishes⟩ := step_cases _ command run next tick stepped
  obtain ⟨price, time, gap⟩ := run.enter_fills command entered tick forming enters
  refine ⟨entered.exchange, ?_, gap⟩
  unfold ownSignal
  rw [enters]
  dsimp only
  rcases finishes with ⟨closes, committed⟩ | ⟨early, evaluated⟩
  · rw [if_pos closes, entered.commit_fills command next forming committed, price, time]
  · rw [if_neg (not_le.mpr early)]
    exact entered.evaluate_fills command next forming tick evaluated

theorem tick_keeps_iff (command : BacktestCommand α) (run next : TickRun α) (tick : MarketData α)
    (stepped : run.tick command tick = .ok next) (position : OpenPosition α) (held : position ∈ run.exchange.positions)
    (earlier : position.entryTime < tick.closeTime) :
    position ∈ next.exchange.positions ↔
      ∀ signal ∈ run.tickSignals command tick, signal.action ≠ position.side.exitAction := by
  obtain ⟨entered, exchanged, gap⟩ := run.tick_fills command next tick stepped
  have kept : position ∈ entered.positions ↔
      ∀ signal ∈ run.gapSignal command tick, signal.action ≠ position.side.exitAction := by
    rcases gap with ⟨silent, rfl⟩ | ⟨bar, _, rfl⟩
    · simpa [silent] using held
    · exact run.exchange.fill_keeps_iff _ _ _ position held
  have split : (∀ signal ∈ run.tickSignals command tick, signal.action ≠ position.side.exitAction) ↔
      position ∈ entered.positions ∧
        ∀ signal ∈ run.ownSignal command tick, signal.action ≠ position.side.exitAction := by
    rw [kept]
    simp only [tickSignals, List.mem_append, Option.mem_toList, Option.mem_def, or_imp, forall_and]
  rw [split, exchanged]
  by_cases still : position ∈ entered.positions
  · rw [entered.fill_keeps_iff _ _ _ position still]
    exact (and_iff_right still).symm
  · refine iff_of_false (fun reopened => ?_) fun both => still both.1
    rcases entered.fill_origin _ _ _ position reopened with before | now
    · exact still before
    · exact earlier.ne now

-- Every entry is made at the close of a tick, as is the last tick of the bar
-- still forming.
structure Timed (run : TickRun α) (Now : ℤ → Prop) : Prop where
  entries : run.exchange.EntriesTimed Now
  forming : ∀ held, run.forming = some held → Now held.lastTickCloseTime

theorem tick_timed (command : BacktestCommand α) (run next : TickRun α) (tick : MarketData α) (Now : ℤ → Prop)
    (timed : run.Timed Now) (now : Now tick.closeTime) (stepped : run.tick command tick = .ok next) :
    next.Timed Now where
  entries := by
    obtain ⟨entered, exchanged, gap⟩ := run.tick_fills command next tick stepped
    rw [exchanged]
    refine PaperExchange.fill_timed entered _ _ _ Now ?_ now
    rcases gap with ⟨_, rfl⟩ | ⟨held, holds, rfl⟩
    · exact timed.entries
    · exact run.exchange.fill_timed _ _ _ Now timed.entries (timed.forming held holds)
  forming := by
    obtain ⟨entered, forming, enters, finishes⟩ := step_cases _ command run next tick stepped
    obtain ⟨_, ends, _⟩ := run.enter_fills command entered tick forming enters
    intro held holds
    rcases finishes with ⟨_, committed⟩ | ⟨_, evaluated⟩
    · obtain ⟨_, _, _, _, _, empty⟩ := entered.commit_cases command next forming committed
      rw [empty] at holds
      cases holds
    · obtain ⟨_, _, _, _, _, forms⟩ := entered.evaluate_cases command next forming tick evaluated
      cases holds.symm.trans forms
      rw [ends]
      exact now

end TickRun

end Sagittarius
