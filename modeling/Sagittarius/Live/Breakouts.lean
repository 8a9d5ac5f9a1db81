import Sagittarius.Domain.BatchIndicators
import Sagittarius.Live.LiveStrategySession
import Sagittarius.Strategies.Tentative

set_option autoImplicit false

namespace Sagittarius

variable {α : Type} [PyFloat α]

def StrategyEngine.afterTicks (engine : StrategyEngine α) (ticks : List (MarketData α × Option PositionSide)) :
    Except PyError (StrategyEngine α) :=
  ticks.foldlM (fun engine tick => Prod.snd <$> engine.onTick tick.1 tick.2) engine

namespace SupportResistanceStrategy

def levelsAt (inputs : SupportResistanceInputs α) (closes : List α) : Option (SupportResistanceValue α) :=
  (SupportResistance.build inputs.lookbackPeriod (by have := inputs.lookbackPeriodDeclared; omega)).reading closes

def trendAt (inputs : SupportResistanceInputs α) (closes : List α) : Option α :=
  (EMA.build inputs.trendEmaPeriod (by have := inputs.trendEmaPeriodDeclared; omega)).reading closes

def clearsLevel (inputs : SupportResistanceInputs α) (sr : SupportResistanceValue α) (trendEma close : α) : Bool :=
  breaksOut { inputs, prevWasBreakout := false } sr trendEma close

def sellsAt (inputs : SupportResistanceInputs α) (sr : SupportResistanceValue α) (close : α) : Bool :=
  inputs.exitOnMidline && Decidable.decide (close < sr.midline) || Decidable.decide (close < sr.support)

-- Whether the bar is evaluated and satisfies the strategy's own condition,
-- whose levels count the bar itself.
def windowBreakout (inputs : SupportResistanceInputs α) (earlier : List α) (close : α) : Bool :=
  match levelsAt inputs (earlier ++ [close]), trendAt inputs (earlier ++ [close]) with
  | some sr, some trendEma => clearsLevel inputs sr trendEma close
  | _, _ => false

def brokeBefore (inputs : SupportResistanceInputs α) (earlier : List α) : Bool :=
  match earlier.getLast? with
  | none => false
  | some last => windowBreakout inputs earlier.dropLast last

def engineAt (inputs : SupportResistanceInputs α) (closes : List α) : StrategyEngine α where
  indicators :=
    [(srKey, .supportResistance
        ((SupportResistance.build inputs.lookbackPeriod (by have := inputs.lookbackPeriodDeclared; omega)).holding closes)),
      (trendEmaKey, .ema
        ((EMA.build inputs.trendEmaPeriod (by have := inputs.trendEmaPeriodDeclared; omega)).holding closes))]
  strategy := .supportResistance { inputs, prevWasBreakout := brokeBefore inputs closes }

def actionAt (inputs : SupportResistanceInputs α) (earlier : List α) (close : α) : Option SignalAction :=
  match levelsAt inputs (earlier ++ [close]), trendAt inputs (earlier ++ [close]) with
  | some sr, some trendEma =>
      if clearsLevel inputs sr trendEma close then if brokeBefore inputs earlier then none else some .buy
      else if sellsAt inputs sr close then some .sell else none
  | _, _ => none

theorem broke_before_append (inputs : SupportResistanceInputs α) (earlier : List α) (close : α) :
    brokeBefore inputs (earlier ++ [close]) = windowBreakout inputs earlier close := by
  simp [brokeBefore]

theorem levels_none (inputs : SupportResistanceInputs α) (closes : List α) :
    levelsAt inputs closes = none ↔ closes.length < inputs.lookbackPeriod := by
  have declared := inputs.lookbackPeriodDeclared
  unfold levelsAt SupportResistance.reading
  split_ifs with short
  · exact iff_of_true rfl short
  · refine iff_of_false ?_ short
    have full : (latest inputs.lookbackPeriod closes).length = inputs.lookbackPeriod := by
      rw [latest_length]
      exact Nat.min_eq_left (not_lt.mp short)
    change SupportResistance.levels (latest inputs.lookbackPeriod closes) ≠ none
    cases window : latest inputs.lookbackPeriod closes with
    | nil =>
        rw [window, List.length_nil] at full
        omega
    | cons first rest => simp [SupportResistance.levels]

theorem trend_none (inputs : SupportResistanceInputs α) (closes : List α) :
    trendAt inputs closes = none ↔ closes.length < inputs.trendEmaPeriod :=
  EMA.reading_none _ closes

theorem unevaluated_before (inputs : SupportResistanceInputs α) (earlier : List α) (close : α)
    (unready : levelsAt inputs (earlier ++ [close]) = none ∨ trendAt inputs (earlier ++ [close]) = none) :
    brokeBefore inputs earlier = false := by
  unfold brokeBefore
  cases last : earlier.getLast? with
  | none => rfl
  | some final =>
      have whole : earlier.dropLast ++ [final] = earlier := List.dropLast_append_getLast? final last
      rw [levels_none, trend_none, List.length_append, List.length_singleton] at unready
      simp only [windowBreakout, whole]
      rcases unready with short | short
      · rw [(levels_none inputs earlier).mpr (by omega)]
      · rw [(trend_none inputs earlier).mpr (by omega)]
        cases levelsAt inputs earlier with
        | none => rfl
        | some sr => rfl

theorem decide_spec (inputs : SupportResistanceInputs α) (broke : Bool) (context : StrategyContext α)
    (sr : SupportResistanceValue α) (trendEma : α) (levels : context.levels srKey = .ok sr)
    (trend : context.number trendEmaKey = .ok trendEma) :
    ∃ decision, decide { inputs, prevWasBreakout := broke } context = .ok (decision,
        { inputs, prevWasBreakout := clearsLevel inputs sr trendEma context.candle.closePrice }) ∧
      decision.action =
        if clearsLevel inputs sr trendEma context.candle.closePrice then if broke then .hold else .buy
        else if sellsAt inputs sr context.candle.closePrice then .sell else .hold := by
  have broken : clearsLevel inputs sr trendEma context.candle.closePrice = true ↔
      sr.resistance * (PyFloat.literal 1 + inputs.breakoutPct / PyFloat.literal 100) ≤ context.candle.closePrice ∧
        (!inputs.useTrendFilter || Decidable.decide (trendEma < context.candle.closePrice)) = true := by
    unfold clearsLevel breaksOut
    rw [Bool.and_eq_true, decide_eq_true_eq]
  have sells : sellsAt inputs sr context.candle.closePrice = true ↔
      (inputs.exitOnMidline = true ∧ context.candle.closePrice < sr.midline) ∨
        context.candle.closePrice < sr.support := by
    unfold sellsAt
    rw [Bool.or_eq_true, Bool.and_eq_true, decide_eq_true_eq, decide_eq_true_eq]
  simp only [decide, levels, trend, bind, Except.bind, pure, Except.pure]
  by_cases breaking : clearsLevel inputs sr trendEma context.candle.closePrice = true
  · rw [if_pos (broken.mp breaking), breaking]
    cases broke with
    | true => exact ⟨_, rfl, rfl⟩
    | false => exact ⟨_, rfl, rfl⟩
  · rw [if_neg (broken.not.mp breaking), Bool.not_eq_true _ |>.mp breaking]
    by_cases selling : sellsAt inputs sr context.candle.closePrice = true
    · rw [selling]
      by_cases midline : inputs.exitOnMidline = true ∧ context.candle.closePrice < sr.midline
      · rw [if_pos midline]
        exact ⟨_, rfl, rfl⟩
      · have support := (sells.mp selling).resolve_left midline
        rw [if_neg midline, if_pos support]
        exact ⟨_, rfl, rfl⟩
    · obtain ⟨midline, support⟩ := not_or.mp (sells.not.mp selling)
      rw [Bool.not_eq_true _ |>.mp selling, if_neg midline, if_neg support]
      exact ⟨_, rfl, rfl⟩

theorem engine_readings (inputs : SupportResistanceInputs α) (earlier : List α) (candle : MarketData α) :
    StrategyEngine.updateIndicators (engineAt inputs earlier).indicators candle =
      (match levelsAt inputs (earlier ++ [candle.closePrice]), trendAt inputs (earlier ++ [candle.closePrice]) with
        | some sr, some trendEma => some [(srKey, .levels sr), (trendEmaKey, .number trendEma)]
        | _, _ => none,
      (engineAt inputs (earlier ++ [candle.closePrice])).indicators) := by
  unfold StrategyEngine.updateIndicators engineAt
  simp only [List.mapM_cons, List.mapM_nil, List.map_cons, List.map_nil, Indicator.update,
    SupportResistance.update_holding, EMA.update_holding]
  unfold levelsAt trendAt
  cases SupportResistance.reading _ (earlier ++ [candle.closePrice]) with
  | none => rfl
  | some sr =>
      cases EMA.reading _ (earlier ++ [candle.closePrice]) with
      | none => rfl
      | some trendEma => rfl

theorem engine_unready (inputs : SupportResistanceInputs α) (earlier : List α) (close : α)
    (unready : levelsAt inputs (earlier ++ [close]) = none ∨ trendAt inputs (earlier ++ [close]) = none) :
    windowBreakout inputs earlier close = false ∧ actionAt inputs earlier close = none := by
  unfold windowBreakout actionAt
  rcases unready with silent | silent
  · rw [silent]
    exact ⟨rfl, rfl⟩
  · rw [silent]
    cases levelsAt inputs (earlier ++ [close]) with
    | none => exact ⟨rfl, rfl⟩
    | some sr => exact ⟨rfl, rfl⟩

theorem engine_ticks (inputs : SupportResistanceInputs α) (earlier : List α) (candle : MarketData α)
    (side : Option PositionSide) :
    ∃ signal, (engineAt inputs earlier).onTick candle side =
        .ok (signal, engineAt inputs (earlier ++ [candle.closePrice])) ∧
      signal.map (·.action) = actionAt inputs earlier candle.closePrice := by
  have readings := engine_readings inputs earlier candle
  unfold StrategyEngine.onTick
  rw [readings]
  cases levelled : levelsAt inputs (earlier ++ [candle.closePrice]) with
  | none =>
      obtain ⟨quiet, nothing⟩ := engine_unready inputs earlier candle.closePrice (.inl levelled)
      have before := unevaluated_before inputs earlier candle.closePrice (.inl levelled)
      refine ⟨none, ?_, nothing.symm⟩
      simp only [engineAt, broke_before_append, quiet, before]
  | some sr =>
      cases trended : trendAt inputs (earlier ++ [candle.closePrice]) with
      | none =>
          obtain ⟨quiet, nothing⟩ := engine_unready inputs earlier candle.closePrice (.inr trended)
          have before := unevaluated_before inputs earlier candle.closePrice (.inr trended)
          refine ⟨none, ?_, nothing.symm⟩
          simp only [engineAt, broke_before_append, quiet, before]
      | some trendEma =>
          have breaking : windowBreakout inputs earlier candle.closePrice =
              clearsLevel inputs sr trendEma candle.closePrice := by
            simp only [windowBreakout, levelled, trended]
          obtain ⟨decision, decided, acts⟩ := decide_spec inputs (brokeBefore inputs earlier)
            { candle, indicators := [(srKey, .levels sr), (trendEmaKey, .number trendEma)], currentPositionSide := side } sr
            trendEma rfl rfl
          refine ⟨StrategyEngine.actionable (decision.signal candle), ?_, ?_⟩
          · simp only [engineAt, Strategy.evaluate, Strategy.decide, decided, broke_before_append, breaking]
            rfl
          · simp only [actionAt, levelled, trended]
            simp only at acts
            unfold StrategyEngine.actionable
            simp only [Decision.signal, acts]
            cases clearsLevel inputs sr trendEma candle.closePrice with
            | true => cases brokeBefore inputs earlier <;> rfl
            | false => cases sellsAt inputs sr candle.closePrice <;> rfl

theorem build_at_start (inputs : SupportResistanceInputs α) :
    StrategyEngine.build (.supportResistance inputs) = engineAt inputs [] := by
  have declared := inputs.trendEmaPeriodDeclared
  have empty := EMA.feed_holding (EMA.build (α := α) inputs.trendEmaPeriod (by omega)) ⟨rfl, rfl⟩ []
  have window : latest inputs.lookbackPeriod ([] : List α) = [] := by simp [latest]
  unfold engineAt SupportResistance.holding
  rw [← empty]
  simp only [SupportResistance.build, window]
  rfl

theorem engine_follows (inputs : SupportResistanceInputs α) (ticks : List (MarketData α × Option PositionSide)) :
    (StrategyEngine.build (.supportResistance inputs)).afterTicks ticks =
      .ok (engineAt inputs (ticks.map fun tick => tick.1.closePrice)) := by
  induction ticks using List.reverseRecOn with
  | nil => exact congrArg Except.ok (build_at_start inputs)
  | append_singleton ticks tick ih =>
      obtain ⟨signal, ticked, _⟩ := engine_ticks inputs (ticks.map fun tick => tick.1.closePrice) tick.1 tick.2
      refine (Streaming.fold_snoc _ _ _ ticks tick).mpr ⟨_, ih, ?_⟩
      rw [ticked, List.map_append]
      rfl

end SupportResistanceStrategy

def highest : List ℚ → ℚ
  | [] => 0
  | first :: rest => PyFloat.largest first rest

def lowest : List ℚ → ℚ
  | [] => 0
  | first :: rest => PyFloat.smallest first rest

theorem highest_attained (values : List ℚ) (filled : values ≠ []) :
    highest values ∈ values ∧ ∀ value ∈ values, value ≤ highest values := by
  cases values with
  | nil => exact absurd rfl filled
  | cons first rest => exact rat_largest first rest

theorem lowest_attained (values : List ℚ) (filled : values ≠ []) :
    lowest values ∈ values ∧ ∀ value ∈ values, lowest values ≤ value := by
  cases values with
  | nil => exact absurd rfl filled
  | cons first rest => exact rat_smallest first rest

namespace SupportResistanceStrategy

def preceding (inputs : SupportResistanceInputs ℚ) (earlier : List ℚ) : List ℚ := latest inputs.lookbackPeriod earlier

def TrendSatisfied (inputs : SupportResistanceInputs ℚ) (seen : List ℚ) (close : ℚ) : Prop :=
  inputs.useTrendFilter = true → ∃ ema, Textbook.ema inputs.trendEmaPeriod seen = some ema ∧ ema < close

def DocumentedBreakout (inputs : SupportResistanceInputs ℚ) (earlier : List ℚ) (close : ℚ) : Prop :=
  (1 + inputs.breakoutPct / 100) * highest (preceding inputs earlier) ≤ close ∧
    TrendSatisfied inputs (earlier ++ [close]) close

def InclusiveBreakout (inputs : SupportResistanceInputs ℚ) (earlier : List ℚ) (close : ℚ) : Prop :=
  (1 + inputs.breakoutPct / 100) * highest (preceding inputs (earlier ++ [close])) ≤ close ∧
    TrendSatisfied inputs (earlier ++ [close]) close

def Evaluated (inputs : SupportResistanceInputs ℚ) (closes : List ℚ) : Prop :=
  inputs.lookbackPeriod ≤ closes.length ∧ inputs.trendEmaPeriod ≤ closes.length

def MetBefore (inputs : SupportResistanceInputs ℚ) (condition : List ℚ → ℚ → Prop) (earlier : List ℚ) : Prop :=
  ∃ prior last, earlier = prior ++ [last] ∧ Evaluated inputs earlier ∧ condition prior last

def Starts (inputs : SupportResistanceInputs ℚ) (condition : List ℚ → ℚ → Prop) (earlier : List ℚ) (close : ℚ) : Prop :=
  condition earlier close ∧ ¬ MetBefore inputs condition earlier

def TradesAsDocumented (inputs : SupportResistanceInputs ℚ) (earlier : List ℚ) (close : ℚ)
    (action : Option SignalAction) : Prop :=
  (action = some .buy ↔ Starts inputs (DocumentedBreakout inputs) earlier close) ∧
    (¬ DocumentedBreakout inputs earlier close → close < lowest (preceding inputs earlier) → action = some .sell)

theorem readings_at (inputs : SupportResistanceInputs ℚ) (closes : List ℚ) (evaluated : Evaluated inputs closes) :
    ∃ ema, Textbook.ema inputs.trendEmaPeriod closes = some ema ∧ trendAt inputs closes = some ema ∧
      levelsAt inputs closes = some {
        resistance := highest (preceding inputs closes)
        support := lowest (preceding inputs closes)
        midline := (highest (preceding inputs closes) + lowest (preceding inputs closes)) / 2 } := by
  have trendy := (trend_none inputs closes).not.mpr (not_lt.mpr evaluated.2)
  obtain ⟨ema, trended⟩ := Option.ne_none_iff_exists'.mp trendy
  have exact_ : Textbook.ema inputs.trendEmaPeriod closes = some ema := by
    rw [← trended, trendAt, ema_reading_exponential]
    simp [EMA.build, Textbook.ema]
  refine ⟨ema, exact_, trended, ?_⟩
  have declared := inputs.lookbackPeriodDeclared
  have full : (preceding inputs closes).length = inputs.lookbackPeriod := by
    rw [preceding, latest_length]
    exact Nat.min_eq_left evaluated.1
  unfold levelsAt SupportResistance.reading
  refine (if_neg (not_lt.mpr evaluated.1)).trans ?_
  change SupportResistance.levels (preceding inputs closes) = _
  cases window : preceding inputs closes with
  | nil =>
      rw [window, List.length_nil] at full
      omega
  | cons first rest => rfl

theorem breaks_out_inclusive (inputs : SupportResistanceInputs ℚ) (earlier : List ℚ) (close : ℚ)
    (evaluated : Evaluated inputs (earlier ++ [close])) :
    windowBreakout inputs earlier close = true ↔ InclusiveBreakout inputs earlier close := by
  obtain ⟨ema, textbook, trended, levelled⟩ := readings_at inputs (earlier ++ [close]) evaluated
  unfold windowBreakout InclusiveBreakout TrendSatisfied
  simp only [levelled, trended, clearsLevel, breaksOut, textbook, rat_literal, Option.some.injEq, exists_eq_left', Bool.and_eq_true,
    decide_eq_true_eq, Bool.or_eq_true, Bool.not_eq_true']
  rw [mul_comm]
  cases inputs.useTrendFilter with
  | true => simp
  | false => simp

theorem breaks_out_evaluated (inputs : SupportResistanceInputs ℚ) (earlier : List ℚ) (close : ℚ)
    (breaking : windowBreakout inputs earlier close = true) : Evaluated inputs (earlier ++ [close]) := by
  have levelled : levelsAt inputs (earlier ++ [close]) ≠ none := by
    intro silent
    rw [(engine_unready inputs earlier close (.inl silent)).1] at breaking
    cases breaking
  have trended : trendAt inputs (earlier ++ [close]) ≠ none := by
    intro silent
    rw [(engine_unready inputs earlier close (.inr silent)).1] at breaking
    cases breaking
  exact ⟨not_lt.mp ((levels_none inputs _).not.mp levelled), not_lt.mp ((trend_none inputs _).not.mp trended)⟩

theorem broke_before_met (inputs : SupportResistanceInputs ℚ) (earlier : List ℚ) :
    brokeBefore inputs earlier = true ↔ MetBefore inputs (InclusiveBreakout inputs) earlier := by
  constructor
  · intro broke
    unfold brokeBefore at broke
    cases last : earlier.getLast? with
    | none =>
        rw [last] at broke
        cases broke
    | some final =>
        rw [last] at broke
        have whole : earlier.dropLast ++ [final] = earlier := List.dropLast_append_getLast? final last
        have evaluated := breaks_out_evaluated inputs earlier.dropLast final broke
        refine ⟨earlier.dropLast, final, whole.symm, whole ▸ evaluated, ?_⟩
        exact (breaks_out_inclusive inputs earlier.dropLast final evaluated).mp broke
  · rintro ⟨prior, last, rfl, evaluated, met⟩
    rw [broke_before_append]
    exact (breaks_out_inclusive inputs prior last evaluated).mpr met

theorem buys_at_start (inputs : SupportResistanceInputs ℚ) (earlier : List ℚ) (close : ℚ)
    (evaluated : Evaluated inputs (earlier ++ [close])) :
    actionAt inputs earlier close = some .buy ↔ Starts inputs (InclusiveBreakout inputs) earlier close := by
  obtain ⟨ema, _, trended, levelled⟩ := readings_at inputs (earlier ++ [close]) evaluated
  have breaking := breaks_out_inclusive inputs earlier close evaluated
  unfold Starts
  rw [← breaking, ← broke_before_met]
  unfold windowBreakout actionAt
  simp only [levelled, trended]
  cases clearsLevel inputs _ ema close with
  | true => cases brokeBefore inputs earlier <;> simp
  | false => cases sellsAt inputs _ close <;> simp

theorem inclusive_window (inputs : SupportResistanceInputs ℚ) (earlier : List ℚ) (close : ℚ)
    (long : inputs.lookbackPeriod ≤ earlier.length) :
    preceding inputs (earlier ++ [close]) = (preceding inputs earlier).drop 1 ++ [close] ∧
      (preceding inputs earlier).length = inputs.lookbackPeriod := by
  have declared := inputs.lookbackPeriodDeclared
  have full : (preceding inputs earlier).length = inputs.lookbackPeriod := by
    rw [preceding, latest_length]
    exact Nat.min_eq_left long
  refine ⟨?_, full⟩
  have slid := latest_append inputs.lookbackPeriod (by omega) earlier close
  unfold dequeAppend at slid
  change _ = preceding inputs (earlier ++ [close]) at slid
  rw [← slid]
  change (preceding inputs earlier).drop ((preceding inputs earlier).length + 1 - inputs.lookbackPeriod) ++ _ = _
  rw [full, Nat.add_sub_cancel_left]

theorem below_preceding (inputs : SupportResistanceInputs ℚ) (earlier : List ℚ) (close : ℚ)
    (long : inputs.lookbackPeriod ≤ earlier.length) (below : close < lowest (preceding inputs earlier)) :
    lowest (preceding inputs (earlier ++ [close])) = close ∧ close < highest (preceding inputs (earlier ++ [close])) := by
  have declared := inputs.lookbackPeriodDeclared
  obtain ⟨window, full⟩ := inclusive_window inputs earlier close long
  have above : ∀ value ∈ (preceding inputs earlier).drop 1, close < value := by
    intro value inside
    have filled : preceding inputs earlier ≠ [] := List.ne_nil_of_length_pos (by omega)
    exact below.trans_le ((lowest_attained _ filled).2 value (List.mem_of_mem_drop inside))
  have filled : preceding inputs (earlier ++ [close]) ≠ [] := by simp [window]
  obtain ⟨least, least_le⟩ := lowest_attained _ filled
  obtain ⟨_, le_greatest⟩ := highest_attained _ filled
  have last : close ∈ preceding inputs (earlier ++ [close]) := by simp [window]
  constructor
  · rw [window] at least
    rcases List.mem_append.mp least with older | newest
    · rw [← window] at older
      exact absurd (least_le close last) (not_le.mpr (above _ older))
    · rw [← window] at newest
      exact List.mem_singleton.mp newest
  · obtain ⟨kept, inside⟩ : ∃ kept, kept ∈ (preceding inputs earlier).drop 1 := by
      apply List.exists_mem_of_length_pos
      rw [List.length_drop]
      omega
    have listed : kept ∈ preceding inputs (earlier ++ [close]) := by
      rw [window]
      exact List.mem_append_left _ inside
    exact (above kept inside).trans_le (le_greatest kept listed)

theorem sells_below (inputs : SupportResistanceInputs ℚ) (earlier : List ℚ) (close : ℚ)
    (long : inputs.lookbackPeriod ≤ earlier.length) (evaluated : Evaluated inputs (earlier ++ [close]))
    (below : close < lowest (preceding inputs earlier)) :
    actionAt inputs earlier close = some .sell ↔
      inputs.exitOnMidline = true ∧ ¬ InclusiveBreakout inputs earlier close := by
  obtain ⟨ema, _, trended, levelled⟩ := readings_at inputs (earlier ++ [close]) evaluated
  obtain ⟨support, resistance⟩ := below_preceding inputs earlier close long below
  have breaking := breaks_out_inclusive inputs earlier close evaluated
  have midline : close < (highest (preceding inputs (earlier ++ [close])) + close) / 2 := by linarith
  rw [support] at levelled
  rw [← breaking]
  unfold windowBreakout actionAt sellsAt
  simp only [levelled, trended, lt_irrefl, midline, decide_true, decide_false, Bool.and_true, Bool.or_false]
  cases clearsLevel inputs _ ema close with
  | true => cases brokeBefore inputs earlier <;> simp
  | false => cases inputs.exitOnMidline <;> simp

-- What the code does is what is documented, where counting the bar in its own
-- zone makes no difference and the midline exit is on.
def AgreesWithDocumented (inputs : SupportResistanceInputs ℚ) (earlier : List ℚ) (close : ℚ) : Prop :=
  (Starts inputs (InclusiveBreakout inputs) earlier close ↔ Starts inputs (DocumentedBreakout inputs) earlier close) ∧
    (¬ DocumentedBreakout inputs earlier close → close < lowest (preceding inputs earlier) →
      inputs.exitOnMidline = true ∧ ¬ InclusiveBreakout inputs earlier close)

theorem documented_iff_agrees (inputs : SupportResistanceInputs ℚ) (earlier : List ℚ) (close : ℚ)
    (long : inputs.lookbackPeriod ≤ earlier.length) (evaluated : Evaluated inputs (earlier ++ [close])) :
    TradesAsDocumented inputs earlier close (actionAt inputs earlier close) ↔
      AgreesWithDocumented inputs earlier close := by
  unfold TradesAsDocumented AgreesWithDocumented
  rw [buys_at_start inputs earlier close evaluated]
  refine and_congr_right fun _ => forall_congr' fun _ => ?_
  refine forall_congr' fun below => ?_
  rw [sells_below inputs earlier close long evaluated below]

theorem no_inclusive_breakout (inputs : SupportResistanceInputs ℚ) (earlier : List ℚ) (close : ℚ) (positive : 0 < close)
    (sensitive : 0 < inputs.breakoutPct) : ¬ InclusiveBreakout inputs earlier close := by
  rintro ⟨broken, _⟩
  have declared := inputs.lookbackPeriodDeclared
  have last : close ∈ preceding inputs (earlier ++ [close]) := by
    unfold preceding
    rw [← latest_append inputs.lookbackPeriod (by omega) earlier close]
    exact List.mem_append_right _ (List.mem_singleton_self close)
  have filled : preceding inputs (earlier ++ [close]) ≠ [] := List.ne_nil_of_mem last
  have covered := (highest_attained _ filled).2 close last
  have target : close < (1 + inputs.breakoutPct / 100) * highest (preceding inputs (earlier ++ [close])) := by
    nlinarith
  exact absurd broken (not_le.mpr target)

theorem agrees_for_prices (inputs : SupportResistanceInputs ℚ) (earlier : List ℚ) (close : ℚ)
    (long : inputs.lookbackPeriod ≤ earlier.length) (positive : ∀ price ∈ earlier ++ [close], 0 < price)
    (sensitive : 0 < inputs.breakoutPct) :
    AgreesWithDocumented inputs earlier close ↔
      ¬ Starts inputs (DocumentedBreakout inputs) earlier close ∧
        (close < lowest (preceding inputs earlier) → inputs.exitOnMidline = true) := by
  have declared := inputs.lookbackPeriodDeclared
  have never := no_inclusive_breakout inputs earlier close (positive close (by simp)) sensitive
  have unstarted : ¬ Starts inputs (InclusiveBreakout inputs) earlier close := fun starts => never starts.1
  have full := (inclusive_window inputs earlier close long).2
  have filled : preceding inputs earlier ≠ [] := List.ne_nil_of_length_pos (by omega)
  have undocumented : close < lowest (preceding inputs earlier) → ¬ DocumentedBreakout inputs earlier close := by
    rintro below ⟨broken, _⟩
    obtain ⟨greatest, le_greatest⟩ := highest_attained _ filled
    have inside : highest (preceding inputs earlier) ∈ earlier ++ [close] :=
      List.mem_append_left _ (List.mem_of_mem_drop greatest)
    have price := positive _ inside
    have order := (lowest_attained _ filled).2 _ greatest
    nlinarith
  unfold AgreesWithDocumented
  simp only [unstarted, false_iff, never, not_false_eq_true, and_true]
  refine and_congr_right fun _ => ?_
  constructor
  · intro exits below
    exact exits (undocumented below) below
  · intro exits _ below
    exact exits below

end SupportResistanceStrategy

theorem short_lookback_declared : 5 ≤ 5 ∧ 5 ≤ 200 := by decide

theorem short_trend_declared : 5 ≤ 5 ∧ 5 ≤ 300 := by decide

def shortLookback (exitOnMidline : Bool) : SupportResistanceInputs ℚ where
  lookbackPeriod := 5
  trendEmaPeriod := 5
  exitOnMidline := exitOnMidline
  lookbackPeriodDeclared := short_lookback_declared
  trendEmaPeriodDeclared := short_trend_declared

def flatTicks : List (MarketData ℚ × Option PositionSide) :=
  (List.range 5).map fun minute => (flatBar "BTCUSDT" minute 100 true, none)

end Sagittarius
