import Sagittarius.Strategies.Registry

set_option autoImplicit false

namespace Sagittarius

def Series.settle {α : Type} (series : Series α) : Series α := { series with provisional := none }

@[simp] theorem series_settle_committed {α : Type} (series : Series α) (offset : ℕ) :
    series.settle.committed offset = series.committed offset := rfl

variable {α : Type} [PyFloat α]

omit [PyFloat α] in
theorem track_settled (context : StrategyContext α) (closed : context.candle.isClosed = true) (series : Series α)
    (value : Option α) : track series.settle value context = track series value context := by
  unfold track
  rw [if_pos closed, if_pos closed]
  rfl

omit [PyFloat α] in
theorem track_poked (context : StrategyContext α) (forming : context.candle.isClosed = false) (series : Series α)
    (value : Option α) : (track series value context).settle = series.settle := by
  unfold track
  rw [if_neg (by simp [forming])]
  rfl

namespace EmaCrossoverStrategy

def settle (strategy : EmaCrossoverStrategy α) : EmaCrossoverStrategy α :=
  { strategy with
    fastSeries := strategy.fastSeries.settle
    slowSeries := strategy.slowSeries.settle }

theorem decide_settled (strategy : EmaCrossoverStrategy α) (context : StrategyContext α)
    (closed : context.candle.isClosed = true) : strategy.settle.decide context = strategy.decide context := by
  unfold decide settle
  simp only [track_settled context closed]
  rfl

theorem decide_poked (strategy next : EmaCrossoverStrategy α) (context : StrategyContext α) (decision : Decision α)
    (forming : context.candle.isClosed = false) (decided : strategy.decide context = .ok (decision, next)) :
    next.settle = strategy.settle := by
  have poked := track_poked context forming
  simp only [decide, bind, Except.bind, pure, Except.pure] at decided
  split at decided
  · cases decided
  split at decided
  · cases decided
  split_ifs at decided <;> cases decided <;> simp only [settle, poked]

end EmaCrossoverStrategy

namespace LongTermTrendZoneStrategy

def settle (strategy : LongTermTrendZoneStrategy α) : LongTermTrendZoneStrategy α :=
  { strategy with
    priceSeries := strategy.priceSeries.settle
    emaSeries := strategy.emaSeries.settle }

theorem decide_settled (strategy : LongTermTrendZoneStrategy α) (context : StrategyContext α)
    (closed : context.candle.isClosed = true) : strategy.settle.decide context = strategy.decide context := by
  unfold decide settle
  simp only [track_settled context closed]

theorem decide_poked (strategy next : LongTermTrendZoneStrategy α) (context : StrategyContext α) (decision : Decision α)
    (forming : context.candle.isClosed = false) (decided : strategy.decide context = .ok (decision, next)) :
    next.settle = strategy.settle := by
  have poked := track_poked context forming
  simp only [decide, bind, Except.bind, pure, Except.pure] at decided
  split at decided
  · cases decided
  split_ifs at decided <;> cases decided <;> simp only [settle, poked]

end LongTermTrendZoneStrategy

namespace MultiEmaTrendFollowerStrategy

def settle (strategy : MultiEmaTrendFollowerStrategy α) : MultiEmaTrendFollowerStrategy α :=
  { strategy with
    fast := strategy.fast.settle
    midFast := strategy.midFast.settle
    midSlow := strategy.midSlow.settle
    slow := strategy.slow.settle
    stacked := strategy.stacked.settle }

theorem decide_settled (strategy : MultiEmaTrendFollowerStrategy α) (context : StrategyContext α)
    (closed : context.candle.isClosed = true) : strategy.settle.decide context = strategy.decide context := by
  unfold decide settle
  simp only [track_settled context closed]
  rfl

theorem decide_poked (strategy next : MultiEmaTrendFollowerStrategy α) (context : StrategyContext α)
    (decision : Decision α) (forming : context.candle.isClosed = false)
    (decided : strategy.decide context = .ok (decision, next)) : next.settle = strategy.settle := by
  have poked := track_poked context forming
  simp only [decide, bind, Except.bind, pure, Except.pure] at decided
  split at decided
  · cases decided
  split at decided
  · cases decided
  split at decided
  · cases decided
  split at decided
  · cases decided
  split_ifs at decided <;> cases decided <;> simp only [settle, poked]

end MultiEmaTrendFollowerStrategy

namespace EmaTrendPullbackStrategy

def settle (strategy : EmaTrendPullbackStrategy α) : EmaTrendPullbackStrategy α :=
  { strategy with
    trendSide := strategy.trendSide.settle
    consecutiveBars := strategy.consecutiveBars.settle
    confirmedTrend := strategy.confirmedTrend.settle
    low := strategy.low.settle
    high := strategy.high.settle }

def settleRange (strategy : EmaTrendPullbackStrategy α) : EmaTrendPullbackStrategy α :=
  { strategy with
    low := strategy.low.settle
    high := strategy.high.settle }

theorem update_trend_settled (strategy : EmaTrendPullbackStrategy α) (touches : Bool) (closePrice emaLong : α)
    (context : StrategyContext α) (closed : context.candle.isClosed = true) :
    strategy.settle.updateTrendConfirmation touches closePrice emaLong context =
      ((strategy.updateTrendConfirmation touches closePrice emaLong context).1,
        (strategy.updateTrendConfirmation touches closePrice emaLong context).2.settleRange) := by
  have previous : ∀ series : Series α, previousInt series.settle = previousInt series := fun _ => rfl
  simp only [updateTrendConfirmation, settle, settleRange, previous, track_settled context closed]

theorem entry_confirmation_settled (strategy : EmaTrendPullbackStrategy α)
    (closePrice emaEntry entryUpper entryLower : α) (context : StrategyContext α)
    (closed : context.candle.isClosed = true) :
    strategy.settleRange.entryConfirmation closePrice emaEntry entryUpper entryLower context =
      strategy.entryConfirmation closePrice emaEntry entryUpper entryLower context := by
  simp only [entryConfirmation, settleRange, series_settle_committed, track_settled context closed]

theorem entry_conditions_settled (strategy : EmaTrendPullbackStrategy α) (emaLong emaEntry : α)
    (context : StrategyContext α) (closed : context.candle.isClosed = true) :
    strategy.settle.entryConditions emaLong emaEntry context = strategy.entryConditions emaLong emaEntry context := by
  have inputs : strategy.settle.inputs = strategy.inputs := rfl
  simp only [entryConditions, inputs, strategy.update_trend_settled _ _ _ context closed,
    entry_confirmation_settled _ _ _ _ _ context closed]

theorem decide_settled (strategy : EmaTrendPullbackStrategy α) (context : StrategyContext α)
    (closed : context.candle.isClosed = true) : strategy.settle.decide context = strategy.decide context := by
  unfold decide
  cases context.number emaLongKey with
  | error raised => rfl
  | ok emaLong =>
      cases context.number emaEntryKey with
      | error raised => rfl
      | ok emaEntry =>
          simp only [bind, Except.bind]
          rw [strategy.entry_conditions_settled emaLong emaEntry context closed]
          rfl

theorem update_trend_poked (strategy : EmaTrendPullbackStrategy α) (touches : Bool) (closePrice emaLong : α)
    (context : StrategyContext α) (forming : context.candle.isClosed = false) :
    (strategy.updateTrendConfirmation touches closePrice emaLong context).2.settle = strategy.settle := by
  simp only [updateTrendConfirmation, settle, track_poked context forming]

theorem entry_confirmation_poked (strategy : EmaTrendPullbackStrategy α)
    (closePrice emaEntry entryUpper entryLower : α) (context : StrategyContext α)
    (forming : context.candle.isClosed = false) :
    (strategy.entryConfirmation closePrice emaEntry entryUpper entryLower context).2.settle = strategy.settle := by
  unfold entryConfirmation
  dsimp only
  split_ifs <;> simp only [settle, track_poked context forming]

theorem entry_conditions_poked (strategy : EmaTrendPullbackStrategy α) (emaLong emaEntry : α)
    (context : StrategyContext α) (forming : context.candle.isClosed = false) :
    (strategy.entryConditions emaLong emaEntry context).2.settle = strategy.settle := by
  unfold entryConditions
  exact (entry_confirmation_poked _ _ _ _ _ context forming).trans
    (strategy.update_trend_poked _ _ _ context forming)

theorem decide_poked (strategy next : EmaTrendPullbackStrategy α) (context : StrategyContext α) (decision : Decision α)
    (forming : context.candle.isClosed = false) (decided : strategy.decide context = .ok (decision, next)) :
    next.settle = strategy.settle := by
  have poked : ∀ emaLong emaEntry, (strategy.entryConditions emaLong emaEntry context).2.settle = strategy.settle :=
    fun emaLong emaEntry => strategy.entry_conditions_poked emaLong emaEntry context forming
  simp only [decide, bind, Except.bind, pure, Except.pure] at decided
  split at decided
  · cases decided
  split at decided
  · cases decided
  split_ifs at decided
  · cases decided
    exact poked _ _
  · cases decided
    exact poked _ _
  · split at decided <;> cases decided <;> exact poked _ _
  · cases decided
    exact poked _ _

end EmaTrendPullbackStrategy

namespace SupportResistanceStrategy

def breaksOut (strategy : SupportResistanceStrategy α) (sr : SupportResistanceValue α) (trendEma close : α) : Bool :=
  Decidable.decide (sr.resistance * (PyFloat.literal 1 + strategy.inputs.breakoutPct / PyFloat.literal 100) ≤ close) &&
    (!strategy.inputs.useTrendFilter || Decidable.decide (trendEma < close))

-- The flag that `decide` overwrites, on a forming bar as on a closed one, is
-- left as it was.
def KeepsFlag (strategy : SupportResistanceStrategy α) (context : StrategyContext α) : Prop :=
  ∀ sr ∈ (context.levels srKey).toOption, ∀ trendEma ∈ (context.number trendEmaKey).toOption,
    strategy.breaksOut sr trendEma context.candle.closePrice = strategy.prevWasBreakout

instance (strategy : SupportResistanceStrategy α) (context : StrategyContext α) : Decidable (strategy.KeepsFlag context) :=
  inferInstanceAs (Decidable (∀ sr ∈ (context.levels srKey).toOption, ∀ trendEma ∈ (context.number trendEmaKey).toOption, _))

theorem decide_flags (strategy next : SupportResistanceStrategy α) (context : StrategyContext α) (decision : Decision α)
    (decided : strategy.decide context = .ok (decision, next)) :
    ∃ sr trendEma, context.levels srKey = .ok sr ∧ context.number trendEmaKey = .ok trendEma ∧
      next = { strategy with prevWasBreakout := strategy.breaksOut sr trendEma context.candle.closePrice } := by
  cases srRead : context.levels srKey with
  | error raised =>
      simp only [decide, srRead] at decided
      cases decided
  | ok sr =>
      cases trendRead : context.number trendEmaKey with
      | error raised =>
          simp only [decide, srRead, trendRead] at decided
          cases decided
      | ok trendEma =>
          refine ⟨sr, trendEma, rfl, rfl, ?_⟩
          have flag : strategy.breaksOut sr trendEma context.candle.closePrice = true ↔
              sr.resistance * (PyFloat.literal 1 + strategy.inputs.breakoutPct / PyFloat.literal 100) ≤
                  context.candle.closePrice ∧
                (!strategy.inputs.useTrendFilter || Decidable.decide (trendEma < context.candle.closePrice)) = true := by
            simp only [breaksOut, Bool.and_eq_true, decide_eq_true_eq]
          simp only [decide, srRead, trendRead, bind, Except.bind, pure, Except.pure] at decided
          split_ifs at decided with breaks first
          · cases decided
            rw [flag.mpr breaks]
          · cases decided
            have held : strategy.prevWasBreakout = true := by simpa using first
            rw [flag.mpr breaks, ← held]
          all_goals
            cases decided
            rw [Bool.eq_false_iff.mpr (mt flag.mp breaks)]

end SupportResistanceStrategy

namespace VolumeSpikeFlowStrategy

def settle (strategy : VolumeSpikeFlowStrategy α) : VolumeSpikeFlowStrategy α :=
  { strategy with volumeSeries := strategy.volumeSeries.settle }

theorem decide_settled (strategy : VolumeSpikeFlowStrategy α) (context : StrategyContext α)
    (closed : context.candle.isClosed = true) : strategy.settle.decide context = strategy.decide context := by
  unfold decide settle
  simp only [track_settled context closed]
  rfl

def entersOn (strategy : VolumeSpikeFlowStrategy α) (context : StrategyContext α) : Bool :=
  match spike strategy.inputs context.candle (strategy.baselineVolume strategy.volumeSeries),
      context.number trendEmaKey with
  | .ok _, .ok trendEma =>
      (trendRefusal strategy.inputs context.candle.closePrice (orderFlowDelta context.candle) trendEma).isNone
  | _, _ => false

-- The best price that `decide` overwrites, on a forming bar as on a closed
-- one, is left as it was.
def BestKept (enters : Bool) (close : α) : Option PositionSide → Option α → Prop
  | none, none => enters = false
  | none, some best => enters = true ∧ close = best
  | some _, none => False
  | some .long, some best => ¬ best < close
  | some .short, some best => ¬ close < best

instance [DecidableEq α] (enters : Bool) (close : α) :
    (side : Option PositionSide) → (best : Option α) → Decidable (BestKept enters close side best)
  | none, none => inferInstanceAs (Decidable (enters = false))
  | none, some best => inferInstanceAs (Decidable (enters = true ∧ close = best))
  | some _, none => .isFalse id
  | some .long, some best => inferInstanceAs (Decidable (¬ best < close))
  | some .short, some best => inferInstanceAs (Decidable (¬ close < best))

def KeepsBest (strategy : VolumeSpikeFlowStrategy α) (context : StrategyContext α) : Prop :=
  BestKept (strategy.entersOn context) context.candle.closePrice context.currentPositionSide strategy.bestPrice

instance [DecidableEq α] (strategy : VolumeSpikeFlowStrategy α) (context : StrategyContext α) :
    Decidable (strategy.KeepsBest context) :=
  inferInstanceAs (Decidable (BestKept _ _ _ _))

def trailedBest (context : StrategyContext α) (best : Option α) : Option α :=
  match context.currentPositionSide, best with
  | none, _ => none
  | some _, none => some context.candle.closePrice
  | some .long, some previous => some (PyFloat.larger previous context.candle.closePrice)
  | some .short, some previous => some (PyFloat.smaller previous context.candle.closePrice)

theorem check_trailing_best (strategy : VolumeSpikeFlowStrategy α) (context : StrategyContext α) :
    (strategy.checkTrailingStop context).2 =
      { strategy with bestPrice := trailedBest context strategy.bestPrice } := by
  unfold checkTrailingStop trailedBest
  cases context.currentPositionSide with
  | none => rfl
  | some side =>
      cases strategy.bestPrice with
      | none => rfl
      | some previous =>
          cases side with
          | long =>
              dsimp only
              split_ifs <;> rfl
          | short =>
              dsimp only
              split_ifs <;> rfl

theorem check_trailing_flat (strategy : VolumeSpikeFlowStrategy α) (context : StrategyContext α)
    (flat : context.currentPositionSide = none) : (strategy.checkTrailingStop context).1 = none := by
  unfold checkTrailingStop
  rw [flat]

theorem decide_best (strategy next : VolumeSpikeFlowStrategy α) (context : StrategyContext α) (decision : Decision α)
    (decided : strategy.decide context = .ok (decision, next)) :
    next = { strategy with
      volumeSeries := track strategy.volumeSeries (some context.candle.volume) context
      bestPrice :=
        if context.currentPositionSide = none ∧ strategy.entersOn context = true then some context.candle.closePrice
        else trailedBest context strategy.bestPrice } := by
  have trailed := check_trailing_best
    { strategy with volumeSeries := track strategy.volumeSeries (some context.candle.volume) context } context
  have flatHolds := check_trailing_flat
    { strategy with volumeSeries := track strategy.volumeSeries (some context.candle.volume) context } context
  simp only [decide] at decided
  generalize checkTrailingStop { strategy with
    volumeSeries := track strategy.volumeSeries (some context.candle.volume) context } context = checked
      at trailed flatHolds decided
  obtain ⟨exit, recorded⟩ := checked
  dsimp only at trailed flatHolds
  subst trailed
  cases exit with
  | some exitDecision =>
      have holding : context.currentPositionSide ≠ none := fun flat => by cases flatHolds flat
      cases decided
      rw [if_neg fun both => holding both.1]
  | none =>
      cases side : context.currentPositionSide with
      | some side' =>
          simp only [side, Option.isSome_some, if_true] at decided
          cases decided
          simp
      | none =>
          simp only [side, Option.isSome_none, Bool.false_eq_true, if_false] at decided
          cases spiked : spike strategy.inputs context.candle (strategy.baselineVolume strategy.volumeSeries) with
          | error reason =>
              have calm : strategy.entersOn context = false := by simp [entersOn, spiked]
              rw [spiked] at decided
              cases decided
              simp [calm]
          | ok baseline =>
              rw [spiked] at decided
              cases trendRead : context.number trendEmaKey with
              | error raised =>
                  rw [trendRead] at decided
                  cases decided
              | ok trendEma =>
                  have enters : strategy.entersOn context = (trendRefusal strategy.inputs context.candle.closePrice
                      (orderFlowDelta context.candle) trendEma).isNone := by
                    simp only [entersOn, spiked, trendRead]
                  simp only [trendRead, bind, Except.bind, pure, Except.pure, enter] at decided
                  split at decided
                  · rename_i refused
                    cases decided
                    simp [enters, refused]
                  · rename_i allowed
                    cases decided
                    simp [enters, allowed]

theorem keeps_best (strategy next : VolumeSpikeFlowStrategy α) (context : StrategyContext α) (decision : Decision α)
    (keeps : strategy.KeepsBest context) (decided : strategy.decide context = .ok (decision, next)) :
    next.bestPrice = strategy.bestPrice := by
  rw [strategy.decide_best next context decision decided]
  unfold KeepsBest at keeps
  unfold trailedBest
  generalize context.currentPositionSide = held at keeps ⊢
  generalize strategy.bestPrice = kept at keeps ⊢
  cases held with
  | none =>
      cases kept with
      | none =>
          have calm : strategy.entersOn context = false := keeps
          simp [calm]
      | some best =>
          have entersAtBest : strategy.entersOn context = true ∧ context.candle.closePrice = best := keeps
          simp [entersAtBest]
  | some side =>
      cases kept with
      | none => exact False.elim keeps
      | some best =>
          cases side with
          | long =>
              have noBetter : ¬ best < context.candle.closePrice := keeps
              simp [PyFloat.larger, noBetter]
          | short =>
              have noBetter : ¬ context.candle.closePrice < best := keeps
              simp [PyFloat.smaller, noBetter]

theorem decide_poked (strategy next : VolumeSpikeFlowStrategy α) (context : StrategyContext α) (decision : Decision α)
    (forming : context.candle.isClosed = false) (keeps : strategy.KeepsBest context)
    (decided : strategy.decide context = .ok (decision, next)) : next.settle = strategy.settle := by
  have best := strategy.keeps_best next context decision keeps decided
  rw [strategy.decide_best next context decision decided] at best ⊢
  unfold settle
  rw [best, track_poked context forming]

end VolumeSpikeFlowStrategy

namespace Strategy

def settle : Strategy α → Strategy α
  | .emaCrossover strategy => .emaCrossover strategy.settle
  | .multiEmaTrendFollower strategy => .multiEmaTrendFollower strategy.settle
  | .supportResistance strategy => .supportResistance strategy
  | .emaTrendConfirmPullback strategy => .emaTrendConfirmPullback strategy.settle
  | .longTermTrendZone strategy => .longTermTrendZone strategy.settle
  | .volumeSpikeFlow strategy => .volumeSpikeFlow strategy.settle

-- On a closed candle every series is pushed before it is read, so that
-- nothing tentative is seen.
theorem decide_settled (strategy : Strategy α) (context : StrategyContext α)
    (closed : context.candle.isClosed = true) : strategy.settle.decide context = strategy.decide context := by
  cases strategy with
  | emaCrossover strategy => simp only [settle, decide, strategy.decide_settled context closed]
  | multiEmaTrendFollower strategy => simp only [settle, decide, strategy.decide_settled context closed]
  | supportResistance strategy => rfl
  | emaTrendConfirmPullback strategy => simp only [settle, decide, strategy.decide_settled context closed]
  | longTermTrendZone strategy => simp only [settle, decide, strategy.decide_settled context closed]
  | volumeSpikeFlow strategy => simp only [settle, decide, strategy.decide_settled context closed]

def KeepsState (strategy : Strategy α) (context : StrategyContext α) : Prop :=
  match strategy with
  | .supportResistance strategy => strategy.KeepsFlag context
  | .volumeSpikeFlow strategy => strategy.KeepsBest context
  | _ => True

instance [DecidableEq α] : (strategy : Strategy α) → (context : StrategyContext α) → Decidable (strategy.KeepsState context)
  | .supportResistance strategy, context => inferInstanceAs (Decidable (strategy.KeepsFlag context))
  | .volumeSpikeFlow strategy, context => inferInstanceAs (Decidable (strategy.KeepsBest context))
  | .emaCrossover _, _ => .isTrue trivial
  | .multiEmaTrendFollower _, _ => .isTrue trivial
  | .emaTrendConfirmPullback _, _ => .isTrue trivial
  | .longTermTrendZone _, _ => .isTrue trivial

theorem map_decides {σ : Type} (decided : Except PyError (Decision α × σ)) (wrap : σ → Strategy α) (decision : Decision α)
    (next : Strategy α) (mapped : Prod.map id wrap <$> decided = .ok (decision, next)) :
    ∃ inner, decided = .ok (decision, inner) ∧ next = wrap inner := by
  cases decided with
  | error raised => cases mapped
  | ok result =>
      cases mapped
      exact ⟨result.2, rfl, rfl⟩

theorem decide_poked (strategy next : Strategy α) (context : StrategyContext α) (decision : Decision α)
    (forming : context.candle.isClosed = false) (keeps : strategy.KeepsState context)
    (decided : strategy.decide context = .ok (decision, next)) : next.settle = strategy.settle := by
  cases strategy with
  | emaCrossover strategy =>
      obtain ⟨inner, decidedInner, rfl⟩ := map_decides _ _ decision next decided
      exact congrArg Strategy.emaCrossover (strategy.decide_poked inner context decision forming decidedInner)
  | multiEmaTrendFollower strategy =>
      obtain ⟨inner, decidedInner, rfl⟩ := map_decides _ _ decision next decided
      exact congrArg Strategy.multiEmaTrendFollower (strategy.decide_poked inner context decision forming decidedInner)
  | supportResistance strategy =>
      obtain ⟨inner, decidedInner, rfl⟩ := map_decides _ _ decision next decided
      obtain ⟨sr, trendEma, srRead, trendRead, rfl⟩ := strategy.decide_flags inner context decision decidedInner
      have kept := keeps sr (by rw [srRead]; rfl) trendEma (by rw [trendRead]; rfl)
      simp only [settle, kept]
  | emaTrendConfirmPullback strategy =>
      obtain ⟨inner, decidedInner, rfl⟩ := map_decides _ _ decision next decided
      exact congrArg Strategy.emaTrendConfirmPullback (strategy.decide_poked inner context decision forming decidedInner)
  | longTermTrendZone strategy =>
      obtain ⟨inner, decidedInner, rfl⟩ := map_decides _ _ decision next decided
      exact congrArg Strategy.longTermTrendZone (strategy.decide_poked inner context decision forming decidedInner)
  | volumeSpikeFlow strategy =>
      obtain ⟨inner, decidedInner, rfl⟩ := map_decides _ _ decision next decided
      exact congrArg Strategy.volumeSpikeFlow (strategy.decide_poked inner context decision forming keeps decidedInner)

end Strategy

end Sagittarius
