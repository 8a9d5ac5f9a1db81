import Sagittarius.Backtest.TickPartition

set_option autoImplicit false

namespace Sagittarius

variable {α : Type} [PyFloat α]

structure Desk (α : Type) [PyFloat α] where
  engine : StrategyEngine α
  exchange : PaperExchange α

-- The engine is called with a candle, on its close or while it forms, and the
-- signal it returns is filled at the candle's last price.
def Desk.evaluate (desk : Desk α) (candle : MarketData α) : Except PyError (Desk α) := do
  let (signal, engine) ←
    if candle.isClosed then desk.engine.onTick candle desk.exchange.currentSide
    else desk.engine.onFormingBarTick candle desk.exchange.currentSide
  return { engine, exchange := desk.exchange.fillAny signal candle.closePrice candle.closeTime }

def TickRun.desk (run : TickRun α) : Desk α := { engine := run.engine, exchange := run.exchange }

namespace BacktestCommand

def candleOf (command : BacktestCommand α) (forming : FormingBar α) (isClosed : Bool) : MarketData α :=
  forming.toCandle command.symbol command.interval.value isClosed

-- The candles that one pass of the loop hands to the engine, and the bar it
-- leaves forming.
def evaluatedAt (command : BacktestCommand α) (held : Option (FormingBar α)) (tick : MarketData α) :
    List (MarketData α) × Option (FormingBar α) :=
  let started := FormingBar.start (barBounds tick.openTime command.interval.toSeconds) tick
  let (gap, forming) :=
    match held with
    | none => ([], started)
    | some held =>
        if held.contains tick then ([], held.absorb tick)
        else ([command.candleOf held true], started)
  if forming.barEnd ≤ tick.closeTime + closeTimeIsInclusiveBy then (gap ++ [command.candleOf forming true], none)
  else (gap ++ [command.candleOf forming false], some forming)

def evaluations (command : BacktestCommand α) : Option (FormingBar α) → List (MarketData α) → List (MarketData α)
  | held, [] => held.toList.map (command.candleOf · true)
  | held, tick :: rest =>
      let (candles, forming) := command.evaluatedAt held tick
      candles ++ command.evaluations forming rest

theorem evaluations_cons (command : BacktestCommand α) (held : Option (FormingBar α)) (tick : MarketData α)
    (rest : List (MarketData α)) :
    command.evaluations held (tick :: rest) =
      (command.evaluatedAt held tick).1 ++ command.evaluations (command.evaluatedAt held tick).2 rest := rfl

def ClosesBar (command : BacktestCommand α) (tick : MarketData α) : Prop :=
  command.barStartOf tick + command.span ≤ tick.closeTime + closeTimeIsInclusiveBy

instance (command : BacktestCommand α) (tick : MarketData α) : Decidable (command.ClosesBar tick) :=
  inferInstanceAs (Decidable (_ ≤ _))

-- Each tick that does not close its bar is followed by another tick of it.
def BarsComplete (command : BacktestCommand α) : List (MarketData α) → Prop
  | [] => True
  | [last] => command.ClosesBar last
  | tick :: next :: rest =>
      (command.ClosesBar tick ∨ command.barStartOf next = command.barStartOf tick) ∧ command.BarsComplete (next :: rest)

instance decidableBarsComplete (command : BacktestCommand α) :
    (ticks : List (MarketData α)) → Decidable (command.BarsComplete ticks)
  | [] => .isTrue trivial
  | [last] => inferInstanceAs (Decidable (command.ClosesBar last))
  | _ :: next :: rest =>
      have := decidableBarsComplete command (next :: rest)
      inferInstanceAs (Decidable (_ ∧ command.BarsComplete (next :: rest)))

end BacktestCommand

-- Two candles that differ in whether they are closed show one state of a bar.
def MarketData.state {β : Type} (candle : MarketData β) : MarketData β := { candle with isClosed := true }

namespace TickRun

theorem commit_evaluates (command : BacktestCommand α) (run next : TickRun α) (forming : FormingBar α)
    (committed : run.commitBar command forming = .ok next) :
    run.desk.evaluate (command.candleOf forming true) = .ok next.desk := by
  obtain ⟨signal, ticked, filled, _⟩ := run.commit_cases command next forming committed
  have closed : (command.candleOf forming true).isClosed = true := rfl
  have called : run.engine.onTick (command.candleOf forming true) run.exchange.currentSide = .ok (signal, next.engine) :=
    ticked
  simp only [Desk.evaluate, closed, if_true, desk, called, filled]
  rfl

theorem evaluate_evaluates (command : BacktestCommand α) (run next : TickRun α) (forming : FormingBar α)
    (tick : MarketData α) (price : forming.closePrice = tick.closePrice) (time : forming.lastTickCloseTime = tick.closeTime)
    (evaluated : run.evaluateForming command forming tick = .ok next) :
    run.desk.evaluate (command.candleOf forming false) = .ok next.desk := by
  obtain ⟨signal, ticked, filled, _⟩ := run.evaluate_cases command next forming tick evaluated
  have opened : (command.candleOf forming false).isClosed = false := rfl
  have called : run.engine.onFormingBarTick (command.candleOf forming false) run.exchange.currentSide =
      .ok (signal, next.engine) := ticked
  have lastPrice : (command.candleOf forming false).closePrice = tick.closePrice := price
  have lastTime : (command.candleOf forming false).closeTime = tick.closeTime := time
  simp only [Desk.evaluate, opened, Bool.false_eq_true, if_false, desk, called, filled, lastPrice, lastTime]
  rfl

theorem tick_evaluates (command : BacktestCommand α) (run next : TickRun α) (tick : MarketData α)
    (stepped : run.tick command tick = .ok next) :
    (command.evaluatedAt run.forming tick).1.foldlM Desk.evaluate run.desk = .ok next.desk ∧
      next.forming = (command.evaluatedAt run.forming tick).2 := by
  obtain ⟨entered, forming, enters, finishes⟩ := step_cases _ command run next tick stepped
  have entering : ∃ gap, gap.foldlM Desk.evaluate run.desk = .ok entered.desk ∧
      forming.closePrice = tick.closePrice ∧ forming.lastTickCloseTime = tick.closeTime ∧
      command.evaluatedAt run.forming tick =
        if forming.barEnd ≤ tick.closeTime + closeTimeIsInclusiveBy then (gap ++ [command.candleOf forming true], none)
        else (gap ++ [command.candleOf forming false], some forming) := by
    rcases run.enter_cases command _ entered tick forming enters with
      ⟨empty, rfl, rfl⟩ | ⟨held, holds, inside, rfl, rfl⟩ | ⟨held, holds, outside, committed, rfl⟩
    · exact ⟨[], rfl, rfl, rfl, by simp only [BacktestCommand.evaluatedAt, empty]⟩
    · exact ⟨[], rfl, rfl, rfl, by simp only [BacktestCommand.evaluatedAt, holds, inside, if_true]⟩
    · refine ⟨[command.candleOf held true], ?_, rfl, rfl, ?_⟩
      · rw [List.foldlM_cons, run.commit_evaluates command entered held committed]
        rfl
      · simp only [BacktestCommand.evaluatedAt, holds, outside, Bool.false_eq_true, if_false]
  obtain ⟨gap, replayed, price, time, evaluates⟩ := entering
  rcases finishes with ⟨closes, committed⟩ | ⟨within, evaluated⟩
  · obtain ⟨_, _, _, _, _, empty⟩ := entered.commit_cases command next forming committed
    rw [evaluates, if_pos closes]
    refine ⟨(Streaming.fold_snoc _ _ _ _ _).mpr ⟨entered.desk, replayed, ?_⟩, empty⟩
    exact entered.commit_evaluates command next forming committed
  · obtain ⟨_, _, _, _, _, forms⟩ := entered.evaluate_cases command next forming tick evaluated
    rw [evaluates, if_neg (not_le.mpr within)]
    refine ⟨(Streaming.fold_snoc _ _ _ _ _).mpr ⟨entered.desk, replayed, ?_⟩, forms⟩
    exact entered.evaluate_evaluates command next forming tick price time evaluated

theorem run_evaluates (command : BacktestCommand α) (run last done : TickRun α) (ticks : List (MarketData α))
    (folded : ticks.foldlM (TickRun.tick command) run = .ok last) (flushed : last.flush command = .ok done) :
    (command.evaluations run.forming ticks).foldlM Desk.evaluate run.desk = .ok done.desk := by
  induction ticks generalizing run with
  | nil =>
      cases folded
      unfold flush at flushed
      cases holds : last.forming with
      | none =>
          rw [holds] at flushed
          cases flushed
          rfl
      | some forming =>
          rw [holds] at flushed
          exact (Streaming.fold_snoc _ _ _ [] _).mpr ⟨last.desk, rfl, last.commit_evaluates command done forming flushed⟩
  | cons tick rest ih =>
      obtain ⟨next, stepped, continued⟩ := (Streaming.fold_cons _ _ _ _ _).mp folded
      obtain ⟨evaluated, forms⟩ := run.tick_evaluates command next tick stepped
      rw [command.evaluations_cons]
      refine (Streaming.fold_append _ _ _ _ _).mpr ⟨next.desk, evaluated, ?_⟩
      rw [← forms]
      exact ih next continued

end TickRun

namespace BacktestCommand

def IsBarOf (command : BacktestCommand α) (forming : FormingBar α) (tick : MarketData α) : Prop :=
  forming.barStart = command.barStartOf tick ∧ forming.barEnd = command.barStartOf tick + command.span

theorem bar_contains_iff (command : BacktestCommand α) (forming : FormingBar α) (tick next : MarketData α)
    (barOf : command.IsBarOf forming tick) :
    forming.contains next = true ↔ command.barStartOf next = command.barStartOf tick := by
  simp only [FormingBar.contains, barOf.1, barOf.2, decide_eq_true_eq]
  exact (Grid.floor_eq_iff command.span command.span_positive tick.openTime next.openTime).symm

theorem evaluated_cases (command : BacktestCommand α) (held : Option (FormingBar α)) (tick : MarketData α)
    (onGrid : ∀ bar ∈ held, ∃ last, command.IsBarOf bar last) :
    ∃ forming gap, forming.lastTickCloseTime = tick.closeTime ∧ command.IsBarOf forming tick ∧
      command.evaluatedAt held tick = (gap ++ [command.candleOf forming (command.ClosesBar tick)],
        if command.ClosesBar tick then none else some forming) ∧
      ((gap = [] ∧ ∀ bar ∈ held, bar.contains tick = true) ∨
        ∃ bar ∈ held, bar.contains tick = false ∧ gap = [command.candleOf bar true]) := by
  have finish : ∀ (forming : FormingBar α) (gap : List (MarketData α)), command.IsBarOf forming tick →
      (if forming.barEnd ≤ tick.closeTime + closeTimeIsInclusiveBy then (gap ++ [command.candleOf forming true], none)
        else (gap ++ [command.candleOf forming false], some forming)) =
      (gap ++ [command.candleOf forming (command.ClosesBar tick)],
        if command.ClosesBar tick then none else some forming) := by
    intro forming gap barOf
    rw [barOf.2]
    by_cases closes : command.ClosesBar tick
    · rw [if_pos (show _ ≤ _ from closes), if_pos closes, decide_eq_true closes]
    · rw [if_neg (show ¬_ ≤ _ from closes), if_neg closes, decide_eq_false closes]
  let started := FormingBar.start (barBounds tick.openTime command.interval.toSeconds) tick
  have startedOf : command.IsBarOf started tick := ⟨rfl, rfl⟩
  cases held with
  | none => exact ⟨started, [], rfl, startedOf, finish started [] startedOf, .inl ⟨rfl, by simp⟩⟩
  | some bar =>
      cases inside : bar.contains tick with
      | true =>
          obtain ⟨last, barOf⟩ := onGrid bar rfl
          have same := (command.bar_contains_iff bar last tick barOf).mp inside
          have absorbedOf : command.IsBarOf (bar.absorb tick) tick := by
            unfold IsBarOf
            rw [same]
            exact barOf
          refine ⟨bar.absorb tick, [], rfl, absorbedOf, ?_, .inl ⟨rfl, by simpa using inside⟩⟩
          rw [← finish (bar.absorb tick) [] absorbedOf]
          simp only [evaluatedAt, inside, if_true]
      | false =>
          refine ⟨started, [command.candleOf bar true], rfl, startedOf, ?_, .inr ⟨bar, rfl, inside, rfl⟩⟩
          rw [← finish started _ startedOf]
          simp only [evaluatedAt, inside, Bool.false_eq_true, if_false, started]

-- The bar held is that of the next tick, and the bars of the ticks to come are
-- complete.
def CompleteFrom (command : BacktestCommand α) (held : Option (FormingBar α)) (ticks : List (MarketData α)) : Prop :=
  (∀ bar ∈ held, ∃ tick ∈ ticks.head?, bar.contains tick = true) ∧ command.BarsComplete ticks

theorem complete_cons_iff (command : BacktestCommand α) (forming : FormingBar α) (tick : MarketData α)
    (rest : List (MarketData α)) (barOf : command.IsBarOf forming tick) :
    command.BarsComplete (tick :: rest) ↔
      command.CompleteFrom (if command.ClosesBar tick then none else some forming) rest := by
  by_cases closes : command.ClosesBar tick
  · cases rest with
    | nil => simp [BarsComplete, CompleteFrom, closes]
    | cons next rest => simp [BarsComplete, CompleteFrom, closes]
  · cases rest with
    | nil => simp [BarsComplete, CompleteFrom, closes]
    | cons next rest => simp [BarsComplete, CompleteFrom, closes, command.bar_contains_iff forming tick next barOf]

theorem evaluated_continues (command : BacktestCommand α) (held : Option (FormingBar α)) (tick : MarketData α)
    (onGrid : ∀ bar ∈ held, ∃ last, command.IsBarOf bar last) :
    ∃ forming gap closes, forming.lastTickCloseTime = tick.closeTime ∧
      command.evaluatedAt held tick = (gap ++ [command.candleOf forming closes], if closes then none else some forming) ∧
      (∀ bar ∈ (if closes then none else some forming), ∃ last, command.IsBarOf bar last) ∧
      (gap = [] ∨ ∃ bar ∈ held, gap = [command.candleOf bar true]) ∧
      ∀ rest, command.CompleteFrom held (tick :: rest) ↔
        gap = [] ∧ command.CompleteFrom (if closes then none else some forming) rest := by
  obtain ⟨forming, gap, time, barOf, evaluated, gaps⟩ := command.evaluated_cases held tick onGrid
  refine ⟨forming, gap, command.ClosesBar tick, time, by simpa using evaluated, ?_, ?_, fun rest => ?_⟩
  · intro bar isForming
    split_ifs at isForming
    · cases isForming
    · cases isForming
      exact ⟨tick, barOf⟩
  · rcases gaps with ⟨none, _⟩ | ⟨bar, holds, _, committed⟩
    · exact .inl none
    · exact .inr ⟨bar, holds, committed⟩
  · simp only [decide_eq_true_eq, ← command.complete_cons_iff forming tick rest barOf]
    refine and_congr_left fun _ => ?_
    rcases gaps with ⟨rfl, inside⟩ | ⟨bar, holds, outside, rfl⟩
    · simpa using inside
    · refine iff_of_false (fun all => ?_) (by simp)
      obtain ⟨_, isTick, inside⟩ := all bar holds
      cases isTick
      simp [inside] at outside

theorem evaluations_count (command : BacktestCommand α) (held : Option (FormingBar α)) (ticks : List (MarketData α))
    (onGrid : ∀ bar ∈ held, ∃ last, command.IsBarOf bar last) :
    ticks.length ≤ (command.evaluations held ticks).length ∧
      ((command.evaluations held ticks).length = ticks.length ↔ command.CompleteFrom held ticks) := by
  induction ticks generalizing held with
  | nil => cases held <;> simp [evaluations, CompleteFrom, BarsComplete]
  | cons tick rest ih =>
      obtain ⟨forming, gap, closes, _, evaluated, nextGrid, _, complete⟩ := command.evaluated_continues held tick onGrid
      obtain ⟨atLeast, exactly⟩ := ih _ nextGrid
      rw [complete rest, ← exactly, command.evaluations_cons, evaluated, ← List.length_eq_zero_iff]
      simp only [List.length_append, List.length_cons, List.length_nil]
      omega

theorem evaluations_times (command : BacktestCommand α) (held : Option (FormingBar α)) (ticks : List (MarketData α))
    (onGrid : ∀ bar ∈ held, ∃ last, command.IsBarOf bar last) (complete : command.CompleteFrom held ticks) :
    (command.evaluations held ticks).map (·.closeTime) = ticks.map (·.closeTime) := by
  induction ticks generalizing held with
  | nil =>
      cases held with
      | none => rfl
      | some bar => simp [CompleteFrom] at complete
  | cons tick rest ih =>
      obtain ⟨forming, gap, closes, time, evaluated, nextGrid, _, completes⟩ := command.evaluated_continues held tick onGrid
      obtain ⟨rfl, later⟩ := (completes rest).mp complete
      rw [command.evaluations_cons, evaluated, List.map_append, ih _ nextGrid later]
      exact congrArg (· :: _) time

theorem evaluations_repeat (command : BacktestCommand α) (held : Option (FormingBar α)) (ticks : List (MarketData α))
    (onGrid : ∀ bar ∈ held, ∃ last, command.IsBarOf bar last)
    (distinct : ((held.toList.map (command.candleOf · false) ++ command.evaluations held ticks).map
      MarketData.state).Nodup) : command.CompleteFrom held ticks := by
  have again : ∀ bar : FormingBar α, (command.candleOf bar false).state = (command.candleOf bar true).state := fun _ => rfl
  induction ticks generalizing held with
  | nil =>
      cases held with
      | none => simp [CompleteFrom, BarsComplete]
      | some bar => simp [evaluations, again] at distinct
  | cons tick rest ih =>
      obtain ⟨forming, gap, closes, _, evaluated, nextGrid, gaps, completes⟩ :=
        command.evaluated_continues held tick onGrid
      rw [command.evaluations_cons, evaluated] at distinct
      refine (completes rest).mpr ⟨?_, ih _ nextGrid (distinct.sublist (List.Sublist.map _ ?_))⟩
      · rcases gaps with none | ⟨bar, holds, rfl⟩
        · exact none
        · cases holds
          simp [again] at distinct
      · refine List.Sublist.trans ?_ (List.sublist_append_right _ _)
        refine List.Sublist.append ?_ (List.Sublist.refl _)
        cases closes with
        | true => exact List.nil_sublist _
        | false => exact List.sublist_append_right _ _

end BacktestCommand

-- A completed run hands the engine one candle per tick, and fills no state of
-- a bar twice, exactly when no bar is cut short.
theorem ticks_evaluated_once_iff (command : BacktestCommand α) (totalTicks : ℕ) (ticks : List (MarketData α))
    (result : BacktestResult α) (ran : simulateTicks command totalTicks ticks = .ok result) :
    let evaluations := command.evaluations none ticks
    (∃ exchange done last, command.exchange = some exchange ∧ ticks.getLast? = some last ∧
      evaluations.foldlM Desk.evaluate { engine := .build command.strategy, exchange } = .ok (TickRun.desk done) ∧
      result = done.result command last) ∧
    (evaluations.length = ticks.length ↔ command.BarsComplete ticks) ∧
    (evaluations.map (·.closeTime) = ticks.map (·.closeTime) ↔ command.BarsComplete ticks) ∧
    (ticks.Pairwise (fun earlier later => earlier.closeTime < later.closeTime) →
      ((evaluations.map MarketData.state).Nodup ↔ command.BarsComplete ticks)) := by
  intro evaluations
  obtain ⟨exchange, run, done, last, funded, folded, flushed, ended, same⟩ :=
    simulate_ticks_replays command totalTicks ticks result ran
  have grid : ∀ bar ∈ (none : Option (FormingBar α)), ∃ last, command.IsBarOf bar last := by simp
  have complete : command.CompleteFrom none ticks ↔ command.BarsComplete ticks := by
    simp [BacktestCommand.CompleteFrom]
  have counted := (command.evaluations_count none ticks grid).2.trans complete
  have timed : evaluations.map (·.closeTime) = ticks.map (·.closeTime) ↔ command.BarsComplete ticks := by
    refine ⟨fun times => counted.mp ?_, fun all => command.evaluations_times none ticks grid (complete.mpr all)⟩
    simpa using congrArg List.length times
  refine ⟨⟨exchange, done, last, funded, ended, ?_, same⟩, counted, timed, fun ordered => ⟨fun distinct => ?_, fun all => ?_⟩⟩
  · exact TickRun.run_evaluates command (TickRun.start command exchange) run done ticks folded flushed
  · exact complete.mp (command.evaluations_repeat none ticks grid distinct)
  · have times : (evaluations.map MarketData.state).map (·.closeTime) = ticks.map (·.closeTime) := by
      rw [List.map_map]
      exact timed.mpr all
    have increasing : ((evaluations.map MarketData.state).map (·.closeTime)).Pairwise (· < ·) := by
      rw [times]
      exact List.pairwise_map.mpr ordered
    exact List.Pairwise.of_map _ (fun _ _ less same => less.ne (congrArg MarketData.closeTime same)) increasing

theorem whole_bar_evaluated_once :
    let ticks := [secondTick 0 10, secondTick 30 12, secondTick 59 11]
    (spotCommand.evaluations none ticks).length = ticks.length ∧
      ((spotCommand.evaluations none ticks).map MarketData.state).Nodup := by
  intro ticks
  obtain ⟨result, ran⟩ := simulate_ticks_returns spotCommand 3 ticks spotExchange (by with_unfolding_all rfl) (by simp [ticks])
    (fun _ => rfl)
  obtain ⟨_, counted, _, distinct⟩ := ticks_evaluated_once_iff spotCommand 3 ticks result ran
  exact ⟨counted.mpr (by decide +kernel), (distinct (by decide +kernel)).mpr (by decide +kernel)⟩

-- A bar that loses its last ticks and the bar the stream ends in are each
-- evaluated once more when they are committed.
theorem cut_bars_evaluated_twice :
    let ticks := [secondTick 0 10, secondTick 61 9]
    (∃ result, simulateTicks spotCommand 2 ticks = .ok result) ∧
      (spotCommand.evaluations none ticks).map (fun candle => (candle.closeTime, candle.isClosed)) =
        [(999000, false), (999000, true), (61999000, false), (61999000, true)] ∧
      (spotCommand.evaluations none ticks).length ≠ ticks.length ∧
      ¬((spotCommand.evaluations none ticks).map MarketData.state).Nodup := by
  intro ticks
  refine ⟨simulate_ticks_returns spotCommand 2 ticks spotExchange (by with_unfolding_all rfl) (by simp [ticks])
    (fun _ => rfl), ?_⟩
  decide +kernel

end Sagittarius
