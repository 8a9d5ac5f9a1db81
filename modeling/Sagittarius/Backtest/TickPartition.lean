import Sagittarius.Library.Grid
import Sagittarius.Library.Runs
import Sagittarius.Backtest.NoLookAhead
import Sagittarius.Backtest.TickRun

set_option autoImplicit false

namespace Sagittarius

variable {α : Type} [PyFloat α]

namespace BacktestCommand

def span (command : BacktestCommand α) : ℤ := command.interval.toSeconds * 1000000

def barStartOf (command : BacktestCommand α) (tick : MarketData α) : ℤ :=
  (barBounds tick.openTime command.interval.toSeconds).1

theorem span_positive (command : BacktestCommand α) : 0 < command.span := by
  have seconds := command.interval.to_seconds_positive
  unfold span
  omega

theorem bar_start_floor (command : BacktestCommand α) (tick : MarketData α) :
    command.barStartOf tick = Grid.floor command.span tick.openTime := rfl

end BacktestCommand

-- Ticks in increasing order that do not overlap. A close time is the last
-- millisecond a tick covers, or, for a feed that closes a tick where the next
-- one opens, that second.
structure Follows (a b : MarketData α) : Prop where
  started : a.openTime ≤ a.closeTime
  apart : a.closeTime + closeTimeIsInclusiveBy ≤ b.openTime ∨ (a.closeTime ≤ b.openTime ∧ b.openTime % 1000000 = 0)

instance {β : Type} (a b : MarketData β) : Decidable (Follows a b) :=
  decidable_of_iff (a.openTime ≤ a.closeTime ∧ (a.closeTime + closeTimeIsInclusiveBy ≤ b.openTime ∨
    (a.closeTime ≤ b.openTime ∧ b.openTime % 1000000 = 0))) ⟨fun ⟨started, apart⟩ => ⟨started, apart⟩,
      fun follows => ⟨follows.started, follows.apart⟩⟩

omit [PyFloat α] in
theorem follows_ordered (a b : MarketData α) (follows : Follows a b) : a.openTime ≤ b.openTime := by
  have started := follows.started
  have apart := follows.apart
  simp only [closeTimeIsInclusiveBy] at apart
  omega

theorem follows_bar (command : BacktestCommand α) (a b : MarketData α) (follows : Follows a b) :
    command.barStartOf a ≤ command.barStartOf b :=
  Grid.floor_mono command.span command.span_positive _ _ (follows_ordered a b follows)

theorem closing_tick_last (command : BacktestCommand α) (a b : MarketData α) (follows : Follows a b)
    (closes : command.barStartOf a + command.span ≤ a.closeTime + closeTimeIsInclusiveBy) :
    command.barStartOf a < command.barStartOf b := by
  refine Grid.floor_lt_floor command.span command.span_positive a.openTime b.openTime ?_
  have apart := follows.apart
  have second : (command.barStartOf a + command.span) % 1000000 = 0 := by
    have factored : command.barStartOf a + command.span =
        1000000 * (command.interval.toSeconds * (a.openTime / command.span + 1)) := by
      rw [command.bar_start_floor, Grid.floor_eq_mul]
      unfold BacktestCommand.span
      ring
    rw [factored]
    exact Int.mul_emod_right _ _
  rw [← command.bar_start_floor]
  simp only [closeTimeIsInclusiveBy] at apart closes
  omega

def groupBar (command : BacktestCommand α) (group : Runs.Group (MarketData α)) : MarketData α :=
  let (first, rest) := group
  let last := rest.getLast?.getD first
  let summed (volume : MarketData α → α) : α := (rest.map volume).foldl (· + ·) (volume first)
  { symbol := command.symbol
    interval := command.interval.value
    openTime := command.barStartOf first
    openPrice := first.openPrice
    highPrice := PyFloat.largest first.highPrice (rest.map (·.highPrice))
    lowPrice := PyFloat.smallest first.lowPrice (rest.map (·.lowPrice))
    closePrice := last.closePrice
    volume := summed (·.volume)
    closeTime := last.closeTime
    quoteAssetVolume := summed (·.quoteAssetVolume)
    numberOfTrades := (group.members.map (·.numberOfTrades)).sum
    takerBuyBaseAssetVolume := summed (·.takerBuyBaseAssetVolume)
    takerBuyQuoteAssetVolume := summed (·.takerBuyQuoteAssetVolume)
    isClosed := true }

def formingOf (command : BacktestCommand α) (group : Runs.Group (MarketData α)) : FormingBar α :=
  group.2.foldl FormingBar.absorb (FormingBar.start (barBounds group.1.openTime command.interval.toSeconds) group.1)

theorem forming_snoc (command : BacktestCommand α) (first tick : MarketData α) (rest : List (MarketData α)) :
    formingOf command (first, rest ++ [tick]) = (formingOf command (first, rest)).absorb tick := by
  simp [formingOf]

theorem forming_bounds (command : BacktestCommand α) (group : Runs.Group (MarketData α)) :
    (formingOf command group).barStart = command.barStartOf group.1 ∧
      (formingOf command group).barEnd = command.barStartOf group.1 + command.span := by
  obtain ⟨first, rest⟩ := group
  induction rest using List.reverseRecOn with
  | nil => exact ⟨rfl, rfl⟩
  | append_singleton rest tick ih =>
      rw [forming_snoc]
      exact ih

theorem forming_contains_iff (command : BacktestCommand α) (group : Runs.Group (MarketData α)) (tick : MarketData α) :
    (formingOf command group).contains tick = true ↔ command.barStartOf tick = command.barStartOf group.1 := by
  obtain ⟨startsAt, endsAt⟩ := forming_bounds command group
  simp only [FormingBar.contains, startsAt, endsAt, decide_eq_true_eq]
  exact (Grid.floor_eq_iff command.span command.span_positive group.1.openTime tick.openTime).symm

theorem forming_candle (command : BacktestCommand α) (group : Runs.Group (MarketData α)) :
    (formingOf command group).toCandle command.symbol command.interval.value true = groupBar command group := by
  obtain ⟨first, rest⟩ := group
  induction rest using List.reverseRecOn with
  | nil => simp [formingOf, groupBar, FormingBar.toCandle, FormingBar.start, Runs.Group.members, PyFloat.largest,
      PyFloat.smallest, BacktestCommand.barStartOf]
  | append_singleton rest tick ih =>
      rw [forming_snoc]
      simp only [groupBar, FormingBar.toCandle, FormingBar.absorb, Runs.Group.members, MarketData.mk.injEq, PyFloat.largest,
        PyFloat.smallest, List.map_append, List.foldl_append, List.map_cons, List.map_nil, List.foldl_cons,
        List.foldl_nil, List.getLast?_append, List.getLast?_singleton, List.sum_cons, List.sum_append] at ih ⊢
      obtain ⟨_, _, start, opened, high, low, _, volume, _, quote, trades, base, takerQuote, _⟩ := ih
      simp only [start, opened, high, low, Option.some_or, Option.getD_some, volume, quote, trades, List.sum_nil, add_zero,
        base, takerQuote, and_self, and_true, true_and]
      exact add_assoc _ _ _

-- What the loop has made of the ticks done so far: the groups it committed,
-- and the one it is still forming. With none forming the last tick closed its bar.
structure Aggregated (command : BacktestCommand α) (done : List (MarketData α)) (run : TickRun α)
    (closed : List (Runs.Group (MarketData α))) (current : Option (Runs.Group (MarketData α))) : Prop where
  partitions : Runs.Partitions command.barStartOf (· < ·) done (closed ++ current.toList)
  bars : run.committedBars = closed.map (groupBar command)
  forming : run.forming = current.map (formingOf command)
  curve : run.equityCurve.map Prod.fst = run.committedBars.map (·.closeTime)
  complete : current = none → ∀ last ∈ done.getLast?,
    command.barStartOf last + command.span ≤ last.closeTime + closeTimeIsInclusiveBy

theorem commit_aggregates (command : BacktestCommand α) (run next : TickRun α)
    (closed : List (Runs.Group (MarketData α))) (group : Runs.Group (MarketData α))
    (bars : run.committedBars = closed.map (groupBar command))
    (curve : run.equityCurve.map Prod.fst = run.committedBars.map (·.closeTime))
    (committed : run.commitBar command (formingOf command group) = .ok next) :
    next.committedBars = (closed ++ [group]).map (groupBar command) ∧
      next.equityCurve.map Prod.fst = next.committedBars.map (·.closeTime) ∧ next.forming = none := by
  obtain ⟨_, _, _, extendedCurve, extendedBars, empty⟩ := run.commit_cases command next _ committed
  rw [forming_candle] at extendedCurve extendedBars
  refine ⟨by simp [extendedBars, bars], ?_, empty⟩
  simp [extendedCurve, extendedBars, curve]

theorem enter_aggregates (command : BacktestCommand α) (done : List (MarketData α)) (run entered : TickRun α)
    (closed : List (Runs.Group (MarketData α))) (current : Option (Runs.Group (MarketData α))) (tick : MarketData α)
    (forming : FormingBar α) (aggregated : Aggregated command done run closed current)
    (follows : ∀ last ∈ done.getLast?, Follows last tick)
    (enters : run.enterBar command FormingBar.contains tick = .ok (entered, forming)) :
    ∃ closedNow group, entered.committedBars = closedNow.map (groupBar command) ∧
      entered.equityCurve.map Prod.fst = entered.committedBars.map (·.closeTime) ∧
      forming = formingOf command group ∧ command.barStartOf tick = command.barStartOf group.1 ∧
      Runs.Partitions command.barStartOf (· < ·) (done ++ [tick]) (closedNow ++ [group]) := by
  have forms := aggregated.forming
  have partitions := aggregated.partitions
  rcases run.enter_cases command _ entered tick forming enters with
    ⟨empty, rfl, rfl⟩ | ⟨held, holds, inside, rfl, rfl⟩ | ⟨held, holds, outside, committed, rfl⟩
  · cases current with
    | some group => simp [empty] at forms
    | none =>
        rw [Option.toList_none, List.append_nil] at partitions
        refine ⟨closed, (tick, []), aggregated.bars, aggregated.curve, rfl, rfl,
          Runs.partitions_start _ _ done closed tick partitions fun group isLast => ?_⟩
        obtain ⟨last, isLastTick, sameBar⟩ := Runs.partitions_last _ _ done closed group partitions isLast
        rw [← sameBar]
        exact closing_tick_last command last tick (follows last isLastTick) (aggregated.complete rfl last isLastTick)
  · cases current with
    | none => simp [holds] at forms
    | some group =>
        have same : held = formingOf command group := by simpa [holds] using forms
        have sameBar := (forming_contains_iff command group tick).mp (same ▸ inside)
        obtain ⟨first, rest⟩ := group
        refine ⟨closed, (first, rest ++ [tick]), aggregated.bars, aggregated.curve, ?_, sameBar,
          Runs.partitions_extend _ _ done closed first rest tick partitions sameBar⟩
        rw [forming_snoc, same]
  · cases current with
    | none => simp [holds] at forms
    | some group =>
        have same : held = formingOf command group := by simpa [holds] using forms
        subst same
        obtain ⟨bars, curve, _⟩ := commit_aggregates command run entered closed group aggregated.bars aggregated.curve
          committed
        refine ⟨closed ++ [group], (tick, []), bars, curve, rfl, rfl,
          Runs.partitions_start _ _ done _ tick partitions fun lastGroup isLast => ?_⟩
        have isGroup : lastGroup = group := by simpa using isLast.symm
        subst isGroup
        obtain ⟨last, isLastTick, sameBar⟩ := Runs.partitions_last _ _ done _ lastGroup partitions isLast
        have monotone := follows_bar command last tick (follows last isLastTick)
        refine lt_of_le_of_ne (sameBar ▸ monotone) fun equal => ?_
        have inside := (forming_contains_iff command lastGroup tick).mpr equal.symm
        simp [inside] at outside

theorem tick_aggregates (command : BacktestCommand α) (done : List (MarketData α)) (run next : TickRun α)
    (closed : List (Runs.Group (MarketData α))) (current : Option (Runs.Group (MarketData α))) (tick : MarketData α)
    (aggregated : Aggregated command done run closed current) (follows : ∀ last ∈ done.getLast?, Follows last tick)
    (stepped : run.tick command tick = .ok next) :
    ∃ closedNow currentNow, Aggregated command (done ++ [tick]) next closedNow currentNow := by
  obtain ⟨entered, forming, enters, finishes⟩ := TickRun.step_cases _ command run next tick stepped
  obtain ⟨closedNow, group, bars, curve, rfl, sameBar, partitions⟩ :=
    enter_aggregates command done run entered closed current tick forming aggregated follows enters
  rcases finishes with ⟨closes, committed⟩ | ⟨_, evaluated⟩
  · obtain ⟨nextBars, nextCurve, empty⟩ := commit_aggregates command entered next closedNow group bars curve committed
    refine ⟨closedNow ++ [group], none, ⟨by simpa using partitions, nextBars, empty, nextCurve, fun _ last isLast => ?_⟩⟩
    have isTick : last = tick := by simpa using isLast.symm
    rw [isTick, sameBar, ← (forming_bounds command group).2]
    exact closes
  · obtain ⟨_, _, _, sameCurve, sameBars, forms⟩ := entered.evaluate_cases command next _ tick evaluated
    refine ⟨closedNow, some group, ⟨by simpa using partitions, by rw [sameBars, bars], forms, ?_, nofun⟩⟩
    rw [sameCurve, sameBars, curve]

theorem ticks_aggregate (command : BacktestCommand α) (exchange : PaperExchange α) (run : TickRun α)
    (ticks : List (MarketData α)) (ordered : ticks.IsChain Follows)
    (folded : ticks.foldlM (TickRun.tick command) (TickRun.start command exchange) = .ok run) :
    ∃ closed current, Aggregated command ticks run closed current := by
  refine Streaming.fold_invariant (TickRun.tick command)
    (fun done run => done.IsChain Follows → ∃ closed current, Aggregated command done run closed current)
    ?_ (TickRun.start command exchange) run ticks ?_ folded ordered
  · intro done run tick next holds stepped chained
    obtain ⟨earlier, _, last⟩ := List.isChain_append.mp chained
    obtain ⟨closed, current, aggregated⟩ := holds earlier
    exact tick_aggregates command done run next closed current tick aggregated
      (fun final isLast => last final isLast tick rfl) stepped
  · exact fun _ => ⟨[], none, Runs.partitions_nil _ _, rfl, rfl, rfl, by simp⟩

theorem flush_aggregates (command : BacktestCommand α) (ticks : List (MarketData α)) (run done : TickRun α)
    (closed : List (Runs.Group (MarketData α))) (current : Option (Runs.Group (MarketData α)))
    (aggregated : Aggregated command ticks run closed current) (flushed : run.flush command = .ok done) :
    ∃ groups, Runs.Partitions command.barStartOf (· < ·) ticks groups ∧
      done.committedBars = groups.map (groupBar command) ∧
      done.equityCurve.map Prod.fst = done.committedBars.map (·.closeTime) := by
  unfold TickRun.flush at flushed
  refine ⟨closed ++ current.toList, aggregated.partitions, ?_⟩
  cases current with
  | none =>
      simp only [aggregated.forming, Option.map_none] at flushed
      cases flushed
      simpa using ⟨aggregated.bars, aggregated.curve⟩
  | some group =>
      simp only [aggregated.forming, Option.map_some] at flushed
      obtain ⟨bars, curve, _⟩ := commit_aggregates command run done closed group aggregated.bars aggregated.curve flushed
      exact ⟨bars, curve⟩

def recomputed (command : BacktestCommand α) (forming : FormingBar α) (tick : MarketData α) : Bool :=
  forming.barStart = command.barStartOf tick

def OnGrid (command : BacktestCommand α) (run : TickRun α) : Prop :=
  ∀ forming, run.forming = some forming → ∃ tick, forming.barStart = command.barStartOf tick ∧
    forming.barEnd = command.barStartOf tick + command.span

theorem contains_recomputes (command : BacktestCommand α) (run : TickRun α) (tick : MarketData α)
    (grid : OnGrid command run) :
    run.stepWith FormingBar.contains command tick = run.stepWith (recomputed command) command tick := by
  have enters : run.enterBar command FormingBar.contains tick = run.enterBar command (recomputed command) tick := by
    unfold TickRun.enterBar
    cases holds : run.forming with
    | none => rfl
    | some forming =>
        obtain ⟨first, startsAt, endsAt⟩ := grid forming holds
        have same : forming.contains tick = recomputed command forming tick := by
          simp only [FormingBar.contains, recomputed, startsAt, endsAt]
          rw [decide_eq_decide, eq_comm]
          exact (Grid.floor_eq_iff command.span command.span_positive first.openTime tick.openTime).symm
        simp only [same]
  simp only [TickRun.stepWith, enters]

theorem step_on_grid (sameBar : FormingBar α → MarketData α → Bool) (command : BacktestCommand α)
    (run next : TickRun α) (tick : MarketData α) (grid : OnGrid command run)
    (stepped : run.stepWith sameBar command tick = .ok next) : OnGrid command next := by
  obtain ⟨entered, forming, enters, finishes⟩ := TickRun.step_cases _ command run next tick stepped
  have bounded : ∃ tick, forming.barStart = command.barStartOf tick ∧
      forming.barEnd = command.barStartOf tick + command.span := by
    rcases run.enter_cases command _ entered tick forming enters with
      ⟨_, _, rfl⟩ | ⟨held, holds, _, _, rfl⟩ | ⟨_, _, _, _, rfl⟩
    · exact ⟨tick, rfl, rfl⟩
    · exact grid held holds
    · exact ⟨tick, rfl, rfl⟩
  rcases finishes with ⟨_, committed⟩ | ⟨_, evaluated⟩
  · obtain ⟨_, _, _, _, _, empty⟩ := entered.commit_cases command next forming committed
    intro held holds
    rw [empty] at holds
    cases holds
  · obtain ⟨_, _, _, _, _, forms⟩ := entered.evaluate_cases command next forming tick evaluated
    intro held holds
    rw [forms] at holds
    cases holds
    exact bounded

theorem replay_recomputes (command : BacktestCommand α) (run : TickRun α) (ticks : List (MarketData α))
    (grid : OnGrid command run) :
    ticks.foldlM (TickRun.tick command) run = ticks.foldlM (TickRun.stepWith (recomputed command) command) run := by
  induction ticks generalizing run with
  | nil => rfl
  | cons tick rest ih =>
      rw [List.foldlM_cons, List.foldlM_cons, TickRun.tick, contains_recomputes command run tick grid]
      cases stepped : run.stepWith (recomputed command) command tick with
      | error raised => rfl
      | ok next => exact ih next (step_on_grid _ command run next tick grid stepped)

def barOfTicks (command : BacktestCommand α) : List (MarketData α) → Option (MarketData α)
  | [] => none
  | first :: rest => some (groupBar command (first, rest))

def secondTick (second : ℤ) (price : ℚ) : MarketData ℚ where
  symbol := "BTCUSDT"
  interval := "1s"
  openTime := second * 1000000
  openPrice := price
  highPrice := price
  lowPrice := price
  closePrice := price
  volume := 1
  closeTime := second * 1000000 + 999000
  quoteAssetVolume := price
  numberOfTrades := 1
  takerBuyBaseAssetVolume := 1 / 2
  takerBuyQuoteAssetVolume := price / 2

end Sagittarius
