import Sagittarius.Library.Machine
import Sagittarius.Live.LiveStrategySession
import Sagittarius.Strategies.Tentative

set_option autoImplicit false

namespace Sagittarius

variable {α : Type} [PyFloat α]

inductive EngineCall (α : Type)
  | onTick (candle : MarketData α) (side : Option PositionSide) (closed : candle.isClosed = true)
  | onFormingBarTick (candle : MarketData α) (side : Option PositionSide) (forming : candle.isClosed = false)

def EngineCall.commits : EngineCall α → Bool
  | .onTick _ _ _ => true
  | .onFormingBarTick _ _ _ => false

def EngineCall.candle : EngineCall α → MarketData α
  | .onTick candle _ _ => candle
  | .onFormingBarTick candle _ _ => candle

def EngineCall.closedCandle : EngineCall α → Option (MarketData α)
  | .onTick candle _ _ => some candle
  | .onFormingBarTick _ _ _ => none

def candleCloses (candles : List (MarketData α)) : List α := candles.map fun candle => candle.closePrice

omit [PyFloat α] in
theorem candle_closes_append (candles : List (MarketData α)) (candle : MarketData α) :
    candleCloses (candles ++ [candle]) = candleCloses candles ++ [candle.closePrice] := by simp [candleCloses]

def closedCandles (calls : List (EngineCall α)) : List (MarketData α) := calls.filterMap EngineCall.closedCandle

namespace StrategyEngine

def call (engine : StrategyEngine α) : EngineCall α → Except PyError (Option (Option (Signal α)) × StrategyEngine α)
  | .onTick candle side _ => Prod.map some id <$> engine.onTick candle side
  | .onFormingBarTick candle side _ => Prod.map (fun _ => none) id <$> engine.onFormingBarTick candle side

def move (engine : StrategyEngine α) (call : EngineCall α) : Option (StrategyEngine α) :=
  (engine.call call).toOption.map Prod.snd

def KeepsCommitted (engine : StrategyEngine α) : EngineCall α → Prop
  | .onTick _ _ _ => True
  | .onFormingBarTick candle side _ =>
      ∀ readings ∈ peekIndicators engine.indicators candle,
        engine.strategy.KeepsState { candle, indicators := readings, currentPositionSide := side }

instance [DecidableEq α] (engine : StrategyEngine α) : (call : EngineCall α) → Decidable (engine.KeepsCommitted call)
  | .onTick _ _ _ => .isTrue trivial
  | .onFormingBarTick _ _ _ => inferInstanceAs (Decidable (∀ readings ∈ peekIndicators _ _, _))

def answer (engine : StrategyEngine α) :
    EngineCall α → Except PyError (Option (Signal α) × StrategyEngine α)
  | .onTick candle side _ => engine.onTick candle side
  | .onFormingBarTick candle side _ => engine.onFormingBarTick candle side

theorem move_of_answer (engine next : StrategyEngine α) (call : EngineCall α) (signal : Option (Signal α))
    (answered : engine.answer call = .ok (signal, next)) : engine.move call = some next := by
  cases call with
  | onTick candle side closed =>
      rw [answer] at answered
      rw [move, StrategyEngine.call, answered]
      rfl
  | onFormingBarTick candle side forming =>
      rw [answer] at answered
      rw [move, StrategyEngine.call, answered]
      rfl

theorem run_tracks (Inv : List (MarketData α) → StrategyEngine α → Prop) (limit : ℕ)
    (step : ∀ candles engine call, candles.length ≤ limit → Inv candles engine →
      ∃ signal next, engine.answer call = .ok (signal, next) ∧ Inv (candles ++ call.closedCandle.toList) next)
    (calls : List (EngineCall α)) (candles : List (MarketData α)) (engine : StrategyEngine α)
    (short : candles.length + calls.length ≤ limit) (holds : Inv candles engine) :
    ∃ final, Interleaving.run move engine calls = some final ∧ Inv (candles ++ closedCandles calls) final := by
  induction calls generalizing candles engine with
  | nil => exact ⟨engine, rfl, by simpa [closedCandles] using holds⟩
  | cons call rest ih =>
      rw [List.length_cons] at short
      obtain ⟨signal, next, answered, nextHolds⟩ := step candles engine call (by omega) holds
      have one : call.closedCandle.toList.length ≤ 1 := by
        cases call with
        | onTick candle side closed => exact le_refl 1
        | onFormingBarTick candle side forming => exact Nat.zero_le 1
      obtain ⟨final, ran, finalHolds⟩ := ih (candles ++ call.closedCandle.toList) next
        (by rw [List.length_append]; omega) nextHolds
      refine ⟨final, ?_, ?_⟩
      · rw [Interleaving.run, engine.move_of_answer next call signal answered]
        exact ran
      · have split : closedCandles (call :: rest) = call.closedCandle.toList ++ closedCandles rest := by
          cases call with
          | onTick candle side closed => rfl
          | onFormingBarTick candle side forming => rfl
        rw [split, ← List.append_assoc]
        exact finalHolds

-- Two engines that differ in what is tentative only.
structure Settled (first second : StrategyEngine α) : Prop where
  indicators : first.indicators = second.indicators
  strategies : first.strategy.settle = second.strategy.settle
  aligned : first.KeysAligned

theorem on_tick_settled (first second : StrategyEngine α) (settled : Settled first second) (candle : MarketData α)
    (side : Option PositionSide) (closed : candle.isClosed = true) :
    ∃ signal firstNext secondNext, first.onTick candle side = .ok (signal, firstNext) ∧
      second.onTick candle side = .ok (signal, secondNext) ∧ Settled firstNext secondNext := by
  obtain ⟨signal, next, ticked, aligned⟩ := on_tick_returns first candle side settled.aligned
  have updates : updateIndicators first.indicators candle = updateIndicators second.indicators candle := by
    rw [settled.indicators]
  unfold onTick at ticked ⊢
  rw [← updates]
  cases updated : updateIndicators first.indicators candle with
  | mk readings indicators =>
      rw [updated] at ticked
      cases readings with
      | none =>
          cases ticked
          exact ⟨none, _, _, rfl, rfl, rfl, settled.strategies, aligned⟩
      | some readings =>
          let context : StrategyContext α := { candle, indicators := readings, currentPositionSide := side }
          have decides : first.strategy.decide context = second.strategy.decide context := by
            rw [← first.strategy.decide_settled context closed, settled.strategies,
              second.strategy.decide_settled context closed]
          have evaluates : first.strategy.evaluate context = second.strategy.evaluate context := by
            simp only [Strategy.evaluate, decides]
          dsimp only at ticked ⊢
          rw [← evaluates, ticked]
          exact ⟨signal, next, next, rfl, rfl, rfl, rfl, aligned⟩

theorem on_forming_cases (engine next : StrategyEngine α) (candle : MarketData α) (side : Option PositionSide)
    (signal : Option (Signal α)) (ticked : engine.onFormingBarTick candle side = .ok (signal, next)) :
    next = engine ∨ ∃ readings decision strategy, peekIndicators engine.indicators candle = some readings ∧
      engine.strategy.decide { candle, indicators := readings, currentPositionSide := side } = .ok (decision, strategy) ∧
        next = { engine with strategy } := by
  unfold onFormingBarTick at ticked
  split_ifs at ticked
  cases peeked : peekIndicators engine.indicators candle with
  | none =>
      rw [peeked] at ticked
      cases ticked
      exact .inl rfl
  | some readings =>
      rw [peeked] at ticked
      cases decided : engine.strategy.decide { candle, indicators := readings, currentPositionSide := side } with
      | error raised =>
          simp only [Strategy.evaluate, decided] at ticked
          cases ticked
      | ok result =>
          simp only [Strategy.evaluate, decided] at ticked
          cases ticked
          exact .inr ⟨readings, result.1, result.2, rfl, decided, rfl⟩

theorem on_forming_settled (first second : StrategyEngine α) (settled : Settled first second) (candle : MarketData α)
    (side : Option PositionSide) (forming : candle.isClosed = false)
    (keeps : first.KeepsCommitted (.onFormingBarTick candle side forming)) :
    ∃ signal next, first.onFormingBarTick candle side = .ok (signal, next) ∧ Settled next second := by
  obtain ⟨signal, next, ticked, aligned⟩ := on_forming_bar_tick_returns first candle side settled.aligned forming
  refine ⟨signal, next, ticked, ?_⟩
  rcases first.on_forming_cases next candle side signal ticked with
    rfl | ⟨readings, decision, strategy, peeked, decided, rfl⟩
  · exact settled
  · have poked := first.strategy.decide_poked strategy _ decision forming (keeps readings peeked) decided
    exact ⟨settled.indicators, poked.trans settled.strategies, aligned⟩

-- By induction on the calls: an engine that is also asked about forming bars
-- returns on the closed candles what one that is not returns.
theorem calls_settled (calls : List (EngineCall α)) (first second : StrategyEngine α) (settled : Settled first second)
    (keeps : Interleaving.StepsMeet move KeepsCommitted first calls) :
    ∃ returned final finalToo, Streaming.feed call first calls = .ok (returned, final) ∧
      Streaming.feed call second (calls.filter EngineCall.commits) = .ok (returned, finalToo) := by
  induction calls generalizing first second with
  | nil => exact ⟨[], first, second, rfl, rfl⟩
  | cons head rest ih =>
      obtain ⟨here, later⟩ := keeps
      cases head with
      | onTick candle side closed =>
          obtain ⟨signal, firstNext, secondNext, ticked, tickedToo, settledNext⟩ :=
            first.on_tick_settled second settled candle side closed
          have called : first.call (.onTick candle side closed) = .ok (some signal, firstNext) := by
            rw [call, ticked]
            rfl
          have calledToo : second.call (.onTick candle side closed) = .ok (some signal, secondNext) := by
            rw [call, tickedToo]
            rfl
          have moved : first.move (.onTick candle side closed) = some firstNext := by
            rw [move, called]
            rfl
          obtain ⟨returned, final, finalToo, fed, fedToo⟩ := ih firstNext secondNext settledNext (later firstNext moved)
          refine ⟨signal :: returned, final, finalToo, ?_, ?_⟩
          · rw [Streaming.feed_cons, called]
            simp only [bind, Except.bind, fed]
            rfl
          · rw [List.filter_cons_of_pos rfl, Streaming.feed_cons, calledToo]
            simp only [bind, Except.bind, fedToo]
            rfl
      | onFormingBarTick candle side forming =>
          obtain ⟨signal, next, ticked, settledNext⟩ := first.on_forming_settled second settled candle side forming here
          have called : first.call (.onFormingBarTick candle side forming) = .ok (none, next) := by
            rw [call, ticked]
            rfl
          have moved : first.move (.onFormingBarTick candle side forming) = some next := by
            rw [move, called]
            rfl
          obtain ⟨returned, final, finalToo, fed, fedToo⟩ := ih next second settledNext (later next moved)
          refine ⟨returned, final, finalToo, ?_, ?_⟩
          · rw [Streaming.feed_cons, called]
            simp only [bind, Except.bind, fed]
            rfl
          · rw [List.filter_cons_of_neg (by simp [EngineCall.commits])]
            exact fedToo

end StrategyEngine

-- The strategies read on closed candles what they read without the forming
-- calls, unless a forming call changes the breakout flag or the best price.
theorem forming_calls_leave_commits (choice : StrategyChoice α) (calls : List (EngineCall α))
    (keeps : Interleaving.StepsMeet StrategyEngine.move StrategyEngine.KeepsCommitted (.build choice) calls) :
    ∃ returned final finalToo, Streaming.feed StrategyEngine.call (.build choice) calls = .ok (returned, final) ∧
      Streaming.feed StrategyEngine.call (.build choice) (calls.filter EngineCall.commits) = .ok (returned, finalToo) :=
  StrategyEngine.calls_settled calls (.build choice) (.build choice) ⟨rfl, rfl, engine_build_aligned choice⟩ keeps

def breakoutChoice : StrategyChoice ℚ :=
  .supportResistance {
    lookbackPeriod := 5
    trendEmaPeriod := 5
    breakoutPct := 0
    useTrendFilter := false
    breakoutPctDeclared := .inr (by decide +kernel) }

def closedCall (minute : ℤ) (price : ℚ) : EngineCall ℚ := .onTick (flatBar "BTCUSDT" minute price true) none rfl

def formingCall (minute : ℤ) (price : ℚ) : EngineCall ℚ :=
  .onFormingBarTick (flatBar "BTCUSDT" minute price false) none rfl

def warmingCalls : List (EngineCall ℚ) :=
  [closedCall 0 100, closedCall 1 90, closedCall 2 95, closedCall 3 92, closedCall 4 91]

theorem forming_dip_leaves_commits :
    ∃ returned final finalToo,
      Streaming.feed StrategyEngine.call (.build breakoutChoice)
          (warmingCalls ++ [formingCall 5 80, closedCall 5 121]) = .ok (returned, final) ∧
        Streaming.feed StrategyEngine.call (.build breakoutChoice)
          ((warmingCalls ++ [formingCall 5 80, closedCall 5 121]).filter EngineCall.commits) = .ok (returned, finalToo) :=
  forming_calls_leave_commits breakoutChoice (warmingCalls ++ [formingCall 5 80, closedCall 5 121]) (by decide +kernel)

-- A forming bar that breaks out sets the flag, so that the breakout of the
-- close is taken for the second one.
theorem forming_breakout_swallows_entry :
    (fun result => result.1.map (Option.map (·.action))) <$> Streaming.feed StrategyEngine.call (.build breakoutChoice)
        (warmingCalls ++ [formingCall 5 120, closedCall 5 121]) = .ok [none, none, none, none, some .sell, none] ∧
      (fun result => result.1.map (Option.map (·.action))) <$> Streaming.feed StrategyEngine.call (.build breakoutChoice)
          ((warmingCalls ++ [formingCall 5 120, closedCall 5 121]).filter EngineCall.commits) =
        .ok [none, none, none, none, some .sell, some .buy] := by
  decide +kernel

end Sagittarius
