import Sagittarius.Backtest.NoLookAhead
import Sagittarius.Domain.IndicatorHistory

set_option autoImplicit false

namespace Sagittarius

variable {α : Type} [PyFloat α]

structure StaticBar (α : Type) where
  candle : MarketData α
  side : Option PositionSide
  action : Option SignalAction

def StaticRun.observe (seen : List (StaticBar α) × StaticRun α) (candle : MarketData α) :
    Except PyError (List (StaticBar α) × StaticRun α) := do
  let next ← seen.2.bar candle
  let bar := { candle, side := next.exchange.currentSide, action := next.pendingSignal.map (·.action) }
  return (seen.1 ++ [bar], next)

def closesOf (bars : List (StaticBar α)) : List α := bars.map fun bar => bar.candle.closePrice

theorem entry_action_injective (first second : PositionSide) (same : first.entryAction = second.entryAction) :
    first = second := by
  cases first <;> cases second <;> first | rfl | cases same

theorem exit_not_entry (first second : PositionSide) : first.exitAction ≠ second.entryAction := by
  cases first <;> cases second <;> decide

namespace VolumeSpikeFlowStrategy

theorem trend_ema_positive (inputs : VolumeSpikeFlowInputs α) : 0 < inputs.trendEmaPeriod := by
  have declared := inputs.trendEmaPeriodDeclared
  omega

def trendEma (inputs : VolumeSpikeFlowInputs α) : EMA α := .build inputs.trendEmaPeriod (trend_ema_positive inputs)

def extreme (side : PositionSide) (first : α) (rest : List α) : α :=
  match side with
  | .long => PyFloat.largest first rest
  | .short => PyFloat.smallest first rest

def StopReached (inputs : VolumeSpikeFlowInputs α) (side : PositionSide) (first : α) (rest : List α) (close : α) : Prop :=
  match side with
  | .long => close ≤ extreme side first (rest ++ [close]) *
      (PyFloat.literal 1 - inputs.trailingStopPct / PyFloat.literal 100)
  | .short => extreme side first (rest ++ [close]) *
      (PyFloat.literal 1 + inputs.trailingStopPct / PyFloat.literal 100) ≤ close

instance (inputs : VolumeSpikeFlowInputs α) : (side : PositionSide) → (first : α) → (rest : List α) → (close : α) →
    Decidable (StopReached inputs side first rest close)
  | .long, _, _, _ => PyFloat.leDecidable _ _
  | .short, _, _, _ => PyFloat.leDecidable _ _

-- A position that has been open on every bar since the one after its entry
-- signal, without reaching the stop.
structure HeldSince (inputs : VolumeSpikeFlowInputs α) (side : PositionSide) (seen : List (StaticBar α))
    (entry : StaticBar α) (later : List (StaticBar α)) : Prop where
  split : ∃ earlier, seen = earlier ++ entry :: later
  flat : entry.side = none
  signalled : entry.action = some side.entryAction
  quiet : ∀ bar ∈ later, bar.side = some side ∧ bar.action = none
  unreached : ∀ initial bar rest, later = initial ++ bar :: rest →
    ¬ StopReached inputs side entry.candle.closePrice (closesOf initial) bar.candle.closePrice

-- What a bar that follows these returns: a flat account gets no exit, and one
-- that holds a position gets its exit as soon as the stop is reached.
def TrailingExact (inputs : VolumeSpikeFlowInputs α) (before : List (StaticBar α)) (bar : StaticBar α) : Prop :=
  match bar.side with
  | none => ∀ side : PositionSide, bar.action ≠ some side.exitAction
  | some side => ∃ entry later, HeldSince inputs side before entry later ∧
      bar.action = if StopReached inputs side entry.candle.closePrice (closesOf later) bar.candle.closePrice
        then some side.exitAction else none

theorem extreme_append (side : PositionSide) (first : α) (rest : List α) (close : α) :
    extreme side first (rest ++ [close]) =
      match side with
      | .long => PyFloat.larger (extreme side first rest) close
      | .short => PyFloat.smaller (extreme side first rest) close := by
  cases side with
  | long => exact List.foldl_append
  | short => exact List.foldl_append

theorem decide_flat (inputs : VolumeSpikeFlowInputs α) (volumeSeries : Series α) (best : Option α)
    (context : StrategyContext α) (trend : α) (flat : context.currentPositionSide = none)
    (trendRead : context.number trendEmaKey = .ok trend) :
    ∃ decision nextSeries nextBest, decide { inputs, volumeSeries, bestPrice := best } context =
        .ok (decision, { inputs, volumeSeries := nextSeries, bestPrice := nextBest }) ∧
      (decision.action = .hold ∧ nextBest = none ∨
        ∃ side : PositionSide, decision.action = side.entryAction ∧ nextBest = some context.candle.closePrice) := by
  simp only [decide, checkTrailingStop, flat, Option.isSome_none, Bool.false_eq_true, if_false]
  cases spike inputs context.candle (baselineVolume { inputs, volumeSeries, bestPrice := best } volumeSeries) with
  | error reason => exact ⟨.hold reason, _, none, rfl, .inl ⟨rfl, rfl⟩⟩
  | ok baseline =>
      simp only [trendRead, enter, bind, Except.bind]
      cases trendRefusal inputs context.candle.closePrice (orderFlowDelta context.candle) trend with
      | some reason => exact ⟨.hold reason, _, none, rfl, .inl ⟨rfl, rfl⟩⟩
      | none =>
          refine ⟨_, _, some context.candle.closePrice, rfl, .inr ?_⟩
          cases goLong inputs (orderFlowDelta context.candle) with
          | true => exact ⟨.long, rfl, rfl⟩
          | false => exact ⟨.short, rfl, rfl⟩

theorem decide_held (inputs : VolumeSpikeFlowInputs α) (volumeSeries : Series α) (context : StrategyContext α)
    (side : PositionSide) (first : α) (rest : List α) (held : context.currentPositionSide = some side) :
    ∃ decision nextSeries,
      decide { inputs, volumeSeries, bestPrice := some (extreme side first rest) } context =
        .ok (decision, {
          inputs
          volumeSeries := nextSeries
          bestPrice := some (extreme side first (rest ++ [context.candle.closePrice])) }) ∧
      decision.action = if StopReached inputs side first rest context.candle.closePrice then side.exitAction else .hold := by
  simp only [decide, checkTrailingStop, held, extreme_append]
  cases side with
  | long =>
      by_cases reached : StopReached inputs .long first rest context.candle.closePrice
      · have hit := reached
        simp only [StopReached, extreme_append] at hit
        simp only [if_pos reached, if_pos hit]
        exact ⟨_, _, rfl, rfl⟩
      · have missed := reached
        simp only [StopReached, extreme_append] at missed
        simp only [if_neg reached, if_neg missed]
        exact ⟨_, _, rfl, rfl⟩
  | short =>
      by_cases reached : StopReached inputs .short first rest context.candle.closePrice
      · have hit := reached
        simp only [StopReached, extreme_append] at hit
        simp only [if_pos reached, if_pos hit]
        exact ⟨_, _, rfl, rfl⟩
      · have missed := reached
        simp only [StopReached, extreme_append] at missed
        simp only [if_neg reached, if_neg missed]
        exact ⟨_, _, rfl, rfl⟩

theorem tick_readings (inputs : VolumeSpikeFlowInputs α) (values : List α) (candle : MarketData α) :
    StrategyEngine.updateIndicators [(trendEmaKey, .ema ((trendEma inputs).holding values))] candle =
      (((trendEma inputs).reading (values ++ [candle.closePrice])).map fun trend => [(trendEmaKey, .number trend)],
        [(trendEmaKey, .ema ((trendEma inputs).holding (values ++ [candle.closePrice])))]) := by
  refine (update_emas [(trendEmaKey, trendEma inputs)] values candle).trans ?_
  rw [emaReadings, List.mapM_cons]
  cases (trendEma inputs).reading (values ++ [candle.closePrice]) with
  | none => rfl
  | some trend => rfl

inductive Phase (inputs : VolumeSpikeFlowInputs α) (seen : List (StaticBar α)) (pending : Option SignalAction)
    (best : Option α) (positions : List (OpenPosition α)) : Prop
  | idle (silent : pending = none) (unset : best = none) (flat : positions = [])
  | holding (side : PositionSide) (entry : StaticBar α) (later : List (StaticBar α))
      (held : HeldSince inputs side seen entry later) (enters : pending = none ∨ pending = some side.entryAction)
      (anchored : best = some (extreme side entry.candle.closePrice (closesOf later)))
      (sided : ∀ position ∈ positions, position.side = side) (ready : inputs.trendEmaPeriod ≤ seen.length)
  | leaving (side : PositionSide) (exits : pending = some side.exitAction)
      (sided : ∀ position ∈ positions, position.side = side) (ready : inputs.trendEmaPeriod ≤ seen.length)

end VolumeSpikeFlowStrategy

namespace StaticRun

theorem checked_sides (run : StaticRun α) (candle : MarketData α) (position : OpenPosition α)
    (held : position ∈ (run.checked candle).positions) :
    position ∈ run.exchange.positions ∨
      run.pendingSignal.map (·.action) = some position.side.entryAction := by
  have kept : position ∈ (run.filled candle).positions := by
    rcases (run.filled candle).perform_position_origin (.checkIntrabarStops candle.highPrice candle.lowPrice
      candle.closeTime) position held with earlier | opened
    · exact earlier
    · cases opened
  cases pending : run.pendingSignal with
  | none =>
      rw [filled, pending] at kept
      exact .inl kept
  | some signal =>
      rw [filled, pending] at kept
      rcases run.exchange.perform_position_origin (.fill signal candle.openPrice candle.openTime) position kept with
        earlier | opened
      · exact .inl earlier
      · have acts := (run.exchange.accepts_fill signal _ _ position opened).1
        exact .inr (by rw [Option.map_some, acts])

theorem checked_left (run : StaticRun α) (candle : MarketData α) (side : PositionSide)
    (exits : run.pendingSignal.map (·.action) = some side.exitAction)
    (sided : ∀ position ∈ run.exchange.positions, position.side = side) : (run.checked candle).positions = [] := by
  obtain ⟨signal, pending, acts⟩ := Option.map_eq_some_iff.mp exits
  have emptied : (run.filled candle).positions = [] := by
    rw [filled, pending]
    have closed : ((run.exchange.fill signal candle.openPrice candle.openTime).2).positions =
        run.exchange.positions.filter (·.side ≠ side) := by
      cases side with
      | long =>
          have sells : signal.action = .sell := acts
          rw [PaperExchange.fill, sells]
          exact congrArg PaperExchange.positions (run.exchange.close_settles .long _ _ _)
      | short =>
          have covers : signal.action = .cover := acts
          rw [PaperExchange.fill, covers]
          exact congrArg PaperExchange.positions (run.exchange.close_settles .short _ _ _)
    change ((run.exchange.fill signal candle.openPrice candle.openTime).2).positions = []
    rw [closed, List.filter_eq_nil_iff]
    intro position held
    simp [sided position held]
  rw [List.eq_nil_iff_forall_not_mem]
  intro position held
  rcases (run.filled candle).perform_position_origin (.checkIntrabarStops candle.highPrice candle.lowPrice
    candle.closeTime) position held with earlier | opened
  · rw [emptied] at earlier
    cases earlier
  · cases opened

theorem current_side_none (exchange : PaperExchange α) (flat : exchange.currentSide = none) :
    exchange.positions = [] := by
  rw [PaperExchange.currentSide, Option.map_eq_none_iff] at flat
  exact List.head?_eq_none_iff.mp flat

theorem current_side_some (exchange : PaperExchange α) (side : PositionSide) (held : exchange.currentSide = some side) :
    ∃ position ∈ exchange.positions, position.side = side := by
  obtain ⟨position, first, sided⟩ := Option.map_eq_some_iff.mp held
  exact ⟨position, List.mem_of_head? first, sided⟩

end StaticRun

namespace VolumeSpikeFlowStrategy

structure Trails (inputs : VolumeSpikeFlowInputs α) (seen : List (StaticBar α)) (run : StaticRun α) : Prop where
  indicators : run.engine.indicators = [(trendEmaKey, .ema ((trendEma inputs).holding (closesOf seen)))]
  strategy : ∃ volumeSeries best,
    run.engine.strategy = .volumeSpikeFlow { inputs, volumeSeries, bestPrice := best } ∧
      Phase inputs seen (run.pendingSignal.map (·.action)) best run.exchange.positions ∧
      ∀ before last, seen = before ++ [last] → last.side = none →
        best = if last.action.isSome then some last.candle.closePrice else none
  exact : ∀ before bar after, seen = before ++ bar :: after → TrailingExact inputs before bar

theorem start_trails (inputs : VolumeSpikeFlowInputs α) (command : BacktestCommand α) (exchange : PaperExchange α)
    (chosen : command.strategy = .volumeSpikeFlow inputs) (funded : command.exchange = some exchange) :
    Trails inputs [] (StaticRun.start command exchange) where
  indicators := by
    have fresh := EMA.feed_holding (trendEma inputs) ⟨rfl, rfl⟩ []
    rw [closesOf, List.map_nil, ← fresh, StaticRun.start, chosen]
    rfl
  strategy := by
    have positions := (PaperExchange.create_fresh _ _ _ _ _ exchange funded).2.2.1
    refine ⟨(setup inputs).volumeSeries, none, ?_, .idle rfl rfl positions, by simp⟩
    rw [StaticRun.start, chosen]
    rfl
  exact := by simp

theorem tick_flat (inputs : VolumeSpikeFlowInputs α) (values : List α) (volumeSeries : Series α) (best : Option α)
    (candle : MarketData α) (ready : inputs.trendEmaPeriod ≤ values.length ∨ best = none) :
    ∃ signal nextSeries nextBest,
      (StrategyEngine.mk [(trendEmaKey, .ema ((trendEma inputs).holding values))]
          (.volumeSpikeFlow { inputs, volumeSeries, bestPrice := best })).onTick candle none =
        .ok (signal, .mk [(trendEmaKey, .ema ((trendEma inputs).holding (values ++ [candle.closePrice])))]
          (.volumeSpikeFlow { inputs, volumeSeries := nextSeries, bestPrice := nextBest })) ∧
      (signal = none ∧ nextBest = none ∨
        ∃ emitted, signal = some emitted ∧ nextBest = some candle.closePrice ∧
          inputs.trendEmaPeriod ≤ (values ++ [candle.closePrice]).length ∧
          ∃ side : PositionSide, emitted.action = side.entryAction) := by
  rw [StrategyEngine.onTick, tick_readings]
  have warm := EMA.reading_none (trendEma inputs) (values ++ [candle.closePrice])
  cases read : (trendEma inputs).reading (values ++ [candle.closePrice]) with
  | none =>
      have short : (values ++ [candle.closePrice]).length < inputs.trendEmaPeriod := warm.mp read
      rw [List.length_append] at short
      have unset : best = none := ready.resolve_left (by omega)
      exact ⟨none, volumeSeries, none, by rw [unset]; rfl, .inl ⟨rfl, rfl⟩⟩
  | some trend =>
      have long : inputs.trendEmaPeriod ≤ (values ++ [candle.closePrice]).length := by
        by_contra short
        have silent := warm.mpr (not_le.mp short)
        rw [read] at silent
        cases silent
      obtain ⟨decision, nextSeries, nextBest, decided, outcome⟩ := decide_flat inputs volumeSeries best
        { candle, indicators := [(trendEmaKey, .number trend)], currentPositionSide := none } trend rfl rfl
      refine ⟨StrategyEngine.actionable (decision.signal candle), nextSeries, nextBest, ?_, ?_⟩
      · simp only [Option.map_some, Strategy.evaluate, Strategy.decide, decided]
        rfl
      · rcases outcome with ⟨holds, unset⟩ | ⟨side, enters, anchored⟩
        · exact .inl ⟨if_pos holds, unset⟩
        · refine .inr ⟨decision.signal candle, if_neg ?_, anchored, long, side, enters⟩
          change decision.action ≠ .hold
          rw [enters]
          cases side <;> decide

theorem tick_held (inputs : VolumeSpikeFlowInputs α) (values : List α) (volumeSeries : Series α) (side : PositionSide)
    (first : α) (rest : List α) (candle : MarketData α) (ready : inputs.trendEmaPeriod ≤ values.length) :
    ∃ signal nextSeries,
      (StrategyEngine.mk [(trendEmaKey, .ema ((trendEma inputs).holding values))]
          (.volumeSpikeFlow { inputs, volumeSeries, bestPrice := some (extreme side first rest) })).onTick candle
            (some side) =
        .ok (signal, .mk [(trendEmaKey, .ema ((trendEma inputs).holding (values ++ [candle.closePrice])))]
          (.volumeSpikeFlow {
            inputs
            volumeSeries := nextSeries
            bestPrice := some (extreme side first (rest ++ [candle.closePrice])) })) ∧
      signal.map (·.action) =
        if StopReached inputs side first rest candle.closePrice then some side.exitAction else none := by
  rw [StrategyEngine.onTick, tick_readings]
  have warm := EMA.reading_none (trendEma inputs) (values ++ [candle.closePrice])
  cases read : (trendEma inputs).reading (values ++ [candle.closePrice]) with
  | none =>
      have short : (values ++ [candle.closePrice]).length < inputs.trendEmaPeriod := warm.mp read
      rw [List.length_append] at short
      omega
  | some trend =>
      obtain ⟨decision, nextSeries, decided, acts⟩ := decide_held inputs volumeSeries
        { candle, indicators := [(trendEmaKey, .number trend)], currentPositionSide := some side } side first rest rfl
      refine ⟨StrategyEngine.actionable (decision.signal candle), nextSeries, ?_, ?_⟩
      · simp only [Option.map_some, Strategy.evaluate, Strategy.decide, decided]
        rfl
      · by_cases reached : StopReached inputs side first rest candle.closePrice
        · rw [if_pos reached] at acts ⊢
          have emits : StrategyEngine.actionable (decision.signal candle) = some (decision.signal candle) := by
            refine if_neg ?_
            change decision.action ≠ .hold
            rw [acts]
            cases side <;> decide
          rw [emits]
          exact congrArg some acts
        · rw [if_neg reached] at acts ⊢
          have silent : StrategyEngine.actionable (decision.signal candle) = none := if_pos acts
          rw [silent]
          rfl

theorem split_snoc {β : Type} (seen before after : List β) (last bar : β)
    (split : seen ++ [last] = before ++ bar :: after) :
    (before = seen ∧ bar = last) ∨ ∃ kept, seen = before ++ bar :: kept := by
  cases after using List.reverseRecOn with
  | nil =>
      obtain ⟨same, lastSame⟩ := List.append_inj' split rfl
      exact .inl ⟨same.symm, (List.singleton_injective lastSame).symm⟩
  | append_singleton kept final =>
      rw [← List.cons_append, ← List.append_assoc] at split
      exact .inr ⟨kept, (List.append_inj' split rfl).1⟩

theorem held_extends (inputs : VolumeSpikeFlowInputs α) (side : PositionSide) (seen : List (StaticBar α))
    (entry bar : StaticBar α) (later : List (StaticBar α)) (held : HeldSince inputs side seen entry later)
    (sided : bar.side = some side) (silent : bar.action = none)
    (unreached : ¬ StopReached inputs side entry.candle.closePrice (closesOf later) bar.candle.closePrice) :
    HeldSince inputs side (seen ++ [bar]) entry (later ++ [bar]) where
  split := by
    obtain ⟨earlier, split⟩ := held.split
    exact ⟨earlier, by rw [split]; simp⟩
  flat := held.flat
  signalled := held.signalled
  quiet := by
    intro other member
    rcases List.mem_append.mp member with before | last
    · exact held.quiet other before
    · rw [List.mem_singleton.mp last]
      exact ⟨sided, silent⟩
  unreached := by
    intro initial other rest split
    rcases split_snoc later initial rest bar other split with ⟨whole, last⟩ | ⟨kept, inside⟩
    · rw [whole, last]
      exact unreached
    · exact held.unreached initial other kept inside

theorem phase_sides (inputs : VolumeSpikeFlowInputs α) (seen : List (StaticBar α)) (run : StaticRun α) (best : Option α)
    (candle : MarketData α) (side : PositionSide)
    (phase : Phase inputs seen (run.pendingSignal.map (·.action)) best run.exchange.positions)
    (isOpen : (run.checked candle).currentSide = some side) :
    ∃ entry later, HeldSince inputs side seen entry later ∧
      best = some (extreme side entry.candle.closePrice (closesOf later)) ∧
      (∀ position ∈ (run.checked candle).positions, position.side = side) ∧ inputs.trendEmaPeriod ≤ seen.length := by
  obtain ⟨position, held, same⟩ := StaticRun.current_side_some _ side isOpen
  cases phase with
  | idle silent unset flat =>
      rcases run.checked_sides candle position held with earlier | opened
      · rw [flat] at earlier
        cases earlier
      · rw [silent] at opened
        cases opened
  | holding entered entry later since enters anchored sided ready =>
      have sides : ∀ position ∈ (run.checked candle).positions, position.side = entered := by
        intro position held
        rcases run.checked_sides candle position held with earlier | opened
        · exact sided position earlier
        · cases enters with
          | inl silent =>
              rw [silent] at opened
              cases opened
          | inr pending =>
              rw [pending] at opened
              exact (entry_action_injective _ _ (Option.some.inj opened)).symm
      obtain rfl : entered = side := (sides position held).symm.trans same
      exact ⟨entry, later, since, anchored, sides, ready⟩
  | leaving left exits sided ready =>
      rw [run.checked_left candle left exits sided] at held
      cases held

theorem bar_trails (inputs : VolumeSpikeFlowInputs α) (seen : List (StaticBar α)) (run : StaticRun α)
    (candle : MarketData α) (trails : Trails inputs seen run) :
    ∃ next, run.bar candle = .ok next ∧ Trails inputs
      (seen ++ [{ candle, side := next.exchange.currentSide, action := next.pendingSignal.map (·.action) }]) next := by
  obtain ⟨volumeSeries, best, same, phase, _⟩ := trails.strategy
  have engine : run.engine = .mk [(trendEmaKey, .ema ((trendEma inputs).holding (closesOf seen)))]
      (.volumeSpikeFlow { inputs, volumeSeries, bestPrice := best }) := by
    rw [← trails.indicators, ← same]
  have counted : (closesOf seen).length = seen.length := List.length_map _
  have extended : ∀ bar : StaticBar α, closesOf (seen ++ [bar]) = closesOf seen ++ [bar.candle.closePrice] :=
    fun bar => by simp [closesOf]
  have exactly : ∀ bar, TrailingExact inputs seen bar →
      ∀ before other after, seen ++ [bar] = before ++ other :: after → TrailingExact inputs before other := by
    intro bar here before other after split
    rcases split_snoc seen before after bar other split with ⟨whole, last⟩ | ⟨kept, inside⟩
    · rw [whole, last]
      exact here
    · exact trails.exact before other kept inside
  cases side : (run.checked candle).currentSide with
  | none =>
      have ready : inputs.trendEmaPeriod ≤ (closesOf seen).length ∨ best = none := by
        rw [counted]
        cases phase with
        | idle silent unset flat => exact .inr unset
        | holding entered entry later since enters anchored sided ready => exact .inl ready
        | leaving left exits sided ready => exact .inl ready
      obtain ⟨signal, nextSeries, nextBest, ticked, outcome⟩ :=
        tick_flat inputs (closesOf seen) volumeSeries best candle ready
      have stepped : run.bar candle = .ok {
          engine := .mk [(trendEmaKey, .ema ((trendEma inputs).holding (closesOf seen ++ [candle.closePrice])))]
            (.volumeSpikeFlow { inputs, volumeSeries := nextSeries, bestPrice := nextBest })
          exchange := run.checked candle
          pendingSignal := signal
          equityCurve := run.equityCurve ++ [(candle.closeTime, (run.checked candle).equity candle.closePrice)] } := by
        simp only [StaticRun.bar, engine, side, ticked]
        rfl
      let bar : StaticBar α :=
        { candle, side := (run.checked candle).currentSide, action := signal.map (·.action) }
      have quiet : TrailingExact inputs seen bar := by
        have exitless : ∀ left : PositionSide, bar.action ≠ some left.exitAction := by
          intro left exits
          rcases outcome with ⟨silent, _⟩ | ⟨emitted, emits, _, _, entered, enters⟩
          · simp [bar, silent] at exits
          · simp only [bar, emits, Option.map_some, enters, Option.some.injEq] at exits
            exact exit_not_entry left entered exits.symm
        have flat : bar.side = none := side
        rw [TrailingExact, flat]
        exact exitless
      have flat := StaticRun.current_side_none _ side
      refine ⟨_, stepped, ⟨by rw [extended], ⟨nextSeries, nextBest, rfl, ?_, ?_⟩, exactly bar quiet⟩⟩
      · rcases outcome with ⟨silent, unset⟩ | ⟨emitted, emits, anchored, long, entered, enters⟩
        · exact .idle (by rw [silent]; rfl) unset flat
        · have signalled : bar.action = some entered.entryAction := by simp only [bar, emits, Option.map_some, enters]
          refine .holding entered bar [] ⟨⟨seen, rfl⟩, side, signalled, by simp, by simp⟩ (.inr signalled) ?_ ?_ ?_
          · rw [anchored]
            cases entered <;> rfl
          · intro position member
            change position ∈ (run.checked candle).positions at member
            rw [flat] at member
            cases member
          · rw [List.length_append, counted] at long
            rw [List.length_append]
            exact long
      · intro before last split _
        obtain ⟨_, lastSame⟩ := List.append_inj' split rfl
        rw [← List.singleton_injective lastSame]
        rcases outcome with ⟨silent, unset⟩ | ⟨emitted, emits, anchored, _⟩
        · rw [unset, silent]
          rfl
        · rw [anchored, emits]
          rfl
  | some held =>
      obtain ⟨entry, later, since, anchored, sides, ready⟩ := phase_sides inputs seen run best candle held phase side
      subst anchored
      obtain ⟨signal, nextSeries, ticked, acts⟩ := tick_held inputs (closesOf seen) volumeSeries held
        entry.candle.closePrice (closesOf later) candle (by rw [counted]; exact ready)
      have stepped : run.bar candle = .ok {
          engine := .mk [(trendEmaKey, .ema ((trendEma inputs).holding (closesOf seen ++ [candle.closePrice])))]
            (.volumeSpikeFlow {
              inputs
              volumeSeries := nextSeries
              bestPrice := some (extreme held entry.candle.closePrice (closesOf later ++ [candle.closePrice])) })
          exchange := run.checked candle
          pendingSignal := signal
          equityCurve := run.equityCurve ++ [(candle.closeTime, (run.checked candle).equity candle.closePrice)] } := by
        simp only [StaticRun.bar, engine, side, ticked]
        rfl
      let bar : StaticBar α :=
        { candle, side := (run.checked candle).currentSide, action := signal.map (·.action) }
      have sided : bar.side = some held := side
      have here : TrailingExact inputs seen bar := by
        rw [TrailingExact, sided]
        exact ⟨entry, later, since, acts⟩
      have longer : inputs.trendEmaPeriod ≤ (seen ++ [bar]).length := by
        rw [List.length_append]
        omega
      refine ⟨_, stepped, ⟨by rw [extended], ⟨nextSeries, _, rfl, ?_, ?_⟩, exactly bar here⟩⟩
      · by_cases reached : StopReached inputs held entry.candle.closePrice (closesOf later) candle.closePrice
        · rw [if_pos reached] at acts
          exact .leaving held acts sides longer
        · rw [if_neg reached] at acts
          refine .holding held entry (later ++ [bar])
            (held_extends inputs held seen entry bar later since sided acts reached) (.inl acts) ?_ sides longer
          simp [closesOf, bar]
      · intro before last split flat
        obtain ⟨_, lastSame⟩ := List.append_inj' split rfl
        rw [← List.singleton_injective lastSame] at flat
        rw [show (run.checked candle).currentSide = none from flat] at side
        cases side

theorem replay_trails (inputs : VolumeSpikeFlowInputs α) (command : BacktestCommand α) (exchange : PaperExchange α)
    (klines : List (MarketData α)) (chosen : command.strategy = .volumeSpikeFlow inputs)
    (funded : command.exchange = some exchange) :
    ∃ bars run, klines.foldlM StaticRun.observe ([], StaticRun.start command exchange) = .ok (bars, run) ∧
      (StaticRun.start command exchange).replay klines = .ok run ∧ bars.map (·.candle) = klines ∧
      Trails inputs bars run := by
  induction klines using List.reverseRecOn with
  | nil => exact ⟨[], StaticRun.start command exchange, rfl, rfl, rfl, start_trails inputs command exchange chosen funded⟩
  | append_singleton klines candle ih =>
      obtain ⟨bars, run, observed, replayed, mapped, trails⟩ := ih
      obtain ⟨next, stepped, trailsNext⟩ := bar_trails inputs bars run candle trails
      refine ⟨_, next, ?_, ?_, ?_, trailsNext⟩
      · refine (Streaming.fold_snoc StaticRun.observe _ _ klines candle).mpr ⟨(bars, run), observed, ?_⟩
        simp only [StaticRun.observe, stepped]
        rfl
      · exact (Streaming.fold_snoc StaticRun.bar _ _ klines candle).mpr ⟨run, replayed, stepped⟩
      · rw [List.map_append, mapped]
        rfl

end VolumeSpikeFlowStrategy

-- The replay traced bar by bar: exits come exactly on the first close that
-- reaches the stop, and a flat account is left without an anchor.
theorem trailing_stop_exact (inputs : VolumeSpikeFlowInputs α) (command : BacktestCommand α) (exchange : PaperExchange α)
    (klines : List (MarketData α)) (chosen : command.strategy = .volumeSpikeFlow inputs)
    (funded : command.exchange = some exchange) :
    ∃ bars run, klines.foldlM StaticRun.observe ([], StaticRun.start command exchange) = .ok (bars, run) ∧
      (StaticRun.start command exchange).replay klines = .ok run ∧ bars.map (·.candle) = klines ∧
      (∀ before bar after, bars = before ++ bar :: after → VolumeSpikeFlowStrategy.TrailingExact inputs before bar) ∧
      ∃ volumeSeries best, run.engine.strategy = .volumeSpikeFlow { inputs, volumeSeries, bestPrice := best } ∧
        ∀ before last, bars = before ++ [last] → last.side = none →
          best = if last.action.isSome then some last.candle.closePrice else none := by
  obtain ⟨bars, run, observed, replayed, mapped, trails⟩ :=
    VolumeSpikeFlowStrategy.replay_trails inputs command exchange klines chosen funded
  obtain ⟨volumeSeries, best, same, _, anchored⟩ := trails.strategy
  exact ⟨bars, run, observed, replayed, mapped, trails.exact, volumeSeries, best, same, anchored⟩

theorem five_bars_declared : 5 ≤ 5 ∧ 5 ≤ 500 := by decide

def spikeInputs : VolumeSpikeFlowInputs ℚ where
  baselineBars := 5
  trendEmaPeriod := 5
  baselineBarsDeclared := five_bars_declared
  volumeSpikeMultDeclared := float_default_declared 4 1 50
  deltaImbalanceDeclared := float_default_declared (4 / 10) 0 1
  trendEmaPeriodDeclared := five_bars_declared
  trailingStopPctDeclared := float_default_declared (1 / 2) (5 / 100) 20

def spikeCommand : BacktestCommand ℚ := { spotCommand with strategy := .volumeSpikeFlow spikeInputs }

def spikeBars : List (MarketData ℚ) :=
  minuteBars [100, 100, 100, 100, 100, 100, 100, 100, 100] ++
    [{ flatBar "BTCUSDT" 9 102 true with volume := 10, takerBuyBaseAssetVolume := 9 },
      flatBar "BTCUSDT" 10 103 true, flatBar "BTCUSDT" 11 101 true]

theorem trailing_stop_exact_spike :
    ∃ bars run, spikeBars.foldlM StaticRun.observe ([], StaticRun.start spikeCommand spotExchange) = .ok (bars, run) ∧
      (StaticRun.start spikeCommand spotExchange).replay spikeBars = .ok run ∧ bars.map (·.candle) = spikeBars ∧
      (∀ before bar after, bars = before ++ bar :: after →
        VolumeSpikeFlowStrategy.TrailingExact spikeInputs before bar) ∧
      ∃ volumeSeries best,
        run.engine.strategy = .volumeSpikeFlow { inputs := spikeInputs, volumeSeries, bestPrice := best } ∧
        ∀ before last, bars = before ++ [last] → last.side = none →
          best = if last.action.isSome then some last.candle.closePrice else none :=
  trailing_stop_exact spikeInputs spikeCommand spotExchange spikeBars rfl (by with_unfolding_all rfl)

example :
    ((fun seen : List (StaticBar ℚ) × StaticRun ℚ => seen.1.map (·.action)) <$>
      spikeBars.foldlM StaticRun.observe ([], StaticRun.start spikeCommand spotExchange)) =
      .ok (List.replicate 9 none ++ [some .buy, none, some .sell]) := by
  decide +kernel

end Sagittarius
