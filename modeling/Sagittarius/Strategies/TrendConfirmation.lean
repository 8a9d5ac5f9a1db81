import Sagittarius.Library.Confirmation
import Sagittarius.Strategies.EmaTrendPullback

set_option autoImplicit false

namespace Sagittarius

variable {α : Type} [PyFloat α]

inductive TrendSide
  | up
  | down
deriving DecidableEq

def TrendSide.code : Option TrendSide → ℤ
  | none => trendFlat
  | some .up => trendUp
  | some .down => trendDown

theorem code_up_iff (side : Option TrendSide) : TrendSide.code side = trendUp ↔ side = some .up := by
  cases side with
  | none => decide
  | some side => cases side <;> decide

theorem code_down_iff (side : Option TrendSide) : TrendSide.code side = trendDown ↔ side = some .down := by
  cases side with
  | none => decide
  | some side => cases side <;> decide

theorem code_bounds (side : Option TrendSide) : -1 ≤ TrendSide.code side ∧ TrendSide.code side ≤ 1 := by
  cases side with
  | none => decide
  | some side => cases side <;> decide

-- The counters pass through `float` and back without a change, as they do in
-- IEEE doubles up to 2^53.
def CountsExactly (α : Type) [PyFloat α] (limit : ℕ) : Prop :=
  ∀ z : ℤ, -1 ≤ z → z ≤ limit → PyFloat.toInt (PyFloat.ofInt z : α) = z

theorem Series.push_committed {τ : Type} (series : Series τ) (value : Option τ) :
    (series.push value).committed 0 = value := by
  have comparable := series.comparable
  have room : 0 < series.history := by
    rw [minimumHistory] at comparable
    omega
  simp [committed, push, room]

omit [PyFloat α] in
theorem track_committed (series : Series α) (value : Option α) (context : StrategyContext α) :
    (track series value context).committed 0 = if context.candle.isClosed then value else series.committed 0 := by
  by_cases closed : context.candle.isClosed = true
  · rw [track, if_pos closed, if_pos closed, Series.push_committed]
  · rw [track, if_neg closed, if_neg closed]
    rfl

namespace EmaTrendPullbackStrategy

def placement (inputs : EmaTrendPullbackInputs α) (candle : MarketData α) (emaLong : α) :
    Confirming.Placement TrendSide :=
  if touchesLong inputs candle emaLong && inputs.enableTouchReset then .reset
  else if emaLong < candle.closePrice then .on .up
  else if candle.closePrice < emaLong then .on .down
  else .level

-- What `committed(0)` returns of a counter once these bars have closed.
def counter (bars : List (Confirming.Placement TrendSide)) (value : ℤ) : Option α :=
  if bars = [] then none else some (PyFloat.ofInt value)

-- The committed counters are the fold of the trend rule over the bars.
structure CommitsTally (strategy : EmaTrendPullbackStrategy α) (bars : List (Confirming.Placement TrendSide)) : Prop where
  trendSide : strategy.trendSide.committed 0 =
    counter bars (TrendSide.code (Confirming.tally strategy.inputs.tickConfirm bars).side)
  consecutiveBars : strategy.consecutiveBars.committed 0 =
    counter bars (Confirming.tally strategy.inputs.tickConfirm bars).count
  confirmedTrend : strategy.confirmedTrend.committed 0 =
    counter bars (TrendSide.code (Confirming.tally strategy.inputs.tickConfirm bars).confirmed)

theorem setup_commits (inputs : EmaTrendPullbackInputs α) : (setup inputs).CommitsTally [] := ⟨rfl, rfl, rfl⟩

theorem previous_counter (series : Series α) (bars : List (Confirming.Placement TrendSide)) (value : ℤ)
    (exact : PyFloat.toInt (PyFloat.ofInt value : α) = value) (start : bars = [] → value = 0)
    (committed : series.committed 0 = counter bars value) : previousInt series = value := by
  rw [previousInt, committed]
  by_cases empty : bars = []
  · rw [counter, if_pos empty, start empty]
    rfl
  · rw [counter, if_neg empty]
    exact exact

theorem confirm_code (needed : ℕ) (tally : Confirming.Tally TrendSide) :
    TrendSide.code (tally.confirm needed).confirmed =
      if (needed : ℤ) ≤ tally.count then TrendSide.code tally.side else TrendSide.code tally.confirmed := by
  by_cases enough : needed ≤ tally.count
  · rw [if_pos (by omega), Confirming.Tally.confirm, if_pos enough]
  · rw [if_neg (by omega), Confirming.Tally.confirm, if_neg enough]

-- The branches of the source are those of the trend rule.
theorem update_trend_tally (strategy : EmaTrendPullbackStrategy α) (bars : List (Confirming.Placement TrendSide))
    (emaLong : α) (context : StrategyContext α) (commits : strategy.CommitsTally bars)
    (exact : CountsExactly α (bars.length + 1)) :
    strategy.updateTrendConfirmation (touchesLong strategy.inputs context.candle emaLong) context.candle.closePrice
        emaLong context =
      let next := Confirming.tally strategy.inputs.tickConfirm
        (bars ++ [placement strategy.inputs context.candle emaLong])
      (TrendSide.code next.confirmed,
        { strategy with
          trendSide := track strategy.trendSide (some (PyFloat.ofInt (TrendSide.code next.side))) context
          consecutiveBars := track strategy.consecutiveBars (some (PyFloat.ofInt next.count)) context
          confirmedTrend := track strategy.confirmedTrend (some (PyFloat.ofInt (TrendSide.code next.confirmed))) context }) := by
  have counted := Confirming.tally_count_le strategy.inputs.tickConfirm bars
  have prevTrend := previous_counter strategy.trendSide bars _
    (exact _ (code_bounds _).1 ((code_bounds _).2.trans (by omega))) (by rintro rfl; rfl) commits.trendSide
  have prevConsecutive := previous_counter strategy.consecutiveBars bars _
    (exact _ (by omega) (by omega)) (by rintro rfl; rfl) commits.consecutiveBars
  have prevConfirmed := previous_counter strategy.confirmedTrend bars _
    (exact _ (code_bounds _).1 ((code_bounds _).2.trans (by omega))) (by rintro rfl; rfl) commits.confirmedTrend
  rw [Confirming.tally_append]
  simp only [updateTrendConfirmation, prevTrend, prevConsecutive, prevConfirmed]
  generalize Confirming.tally strategy.inputs.tickConfirm bars = tally
  rw [placement]
  by_cases resets : (touchesLong strategy.inputs context.candle emaLong && strategy.inputs.enableTouchReset) = true
  · rw [if_pos resets, if_pos resets]
    rfl
  · rw [if_neg resets, if_neg resets]
    by_cases above : emaLong < context.candle.closePrice
    · rw [if_pos above, if_pos above]
      simp only [Confirming.Tally.place, confirm_code]
      by_cases follows : tally.side = some .up
      · simp only [follows, if_true, (code_up_iff (some .up)).mpr rfl]
        rfl
      · simp only [follows, if_false, (code_up_iff tally.side).not.mpr follows]
        rfl
    · rw [if_neg above, if_neg above]
      by_cases under : context.candle.closePrice < emaLong
      · rw [if_pos under, if_pos under]
        simp only [Confirming.Tally.place, confirm_code]
        by_cases follows : tally.side = some .down
        · simp only [follows, if_true, (code_down_iff (some .down)).mpr rfl]
          rfl
        · simp only [follows, if_false, (code_down_iff tally.side).not.mpr follows]
          rfl
      · rw [if_neg under, if_neg under]
        simp only [Confirming.Tally.place, confirm_code]
        rfl

def entersOn (strategy : EmaTrendPullbackStrategy α) (candle : MarketData α) (emaEntry : α) : TrendSide → Bool
  | .up =>
      let entryUpper := above emaEntry strategy.inputs.pullbackSensitivity
      Decidable.decide (candle.lowPrice ≤ entryUpper) && Decidable.decide (emaEntry < candle.closePrice) &&
        (!strategy.inputs.candleConfirmEntry ||
          (strategy.low.committed 0).elim false fun prevLow => Decidable.decide (prevLow ≤ entryUpper))
  | .down =>
      let entryLower := below emaEntry strategy.inputs.pullbackSensitivity
      Decidable.decide (entryLower ≤ candle.highPrice) && Decidable.decide (candle.closePrice < emaEntry) &&
        (!strategy.inputs.candleConfirmEntry ||
          (strategy.high.committed 0).elim false fun prevHigh => Decidable.decide (entryLower ≤ prevHigh))

omit [PyFloat α] in
-- The source asks three times whether the close is beyond the entry EMA.
theorem asked_once (trend reached beyond : Bool) (previous : Option α) (within : α → Bool) :
    (trend && (reached && beyond) && previous.elim false (fun prev => beyond && within prev) && beyond) =
      (trend && (reached && beyond && previous.elim false within)) := by
  cases beyond with
  | false => simp
  | true => simp [Bool.and_assoc]

theorem entry_conditions_spec (strategy : EmaTrendPullbackStrategy α) (emaLong emaEntry : α) (context : StrategyContext α) :
    strategy.entryConditions emaLong emaEntry context =
      let updated := strategy.updateTrendConfirmation (touchesLong strategy.inputs context.candle emaLong)
        context.candle.closePrice emaLong context
      ((Decidable.decide (updated.1 = trendUp) && strategy.entersOn context.candle emaEntry .up,
          Decidable.decide (updated.1 = trendDown) && strategy.entersOn context.candle emaEntry .down),
        { updated.2 with
          low := track strategy.low (some context.candle.lowPrice) context
          high := track strategy.high (some context.candle.highPrice) context }) := by
  have low : ∀ touches close, (strategy.updateTrendConfirmation touches close emaLong context).2.low = strategy.low :=
    fun _ _ => rfl
  have high : ∀ touches close, (strategy.updateTrendConfirmation touches close emaLong context).2.high = strategy.high :=
    fun _ _ => rfl
  have inputs : ∀ touches close,
      (strategy.updateTrendConfirmation touches close emaLong context).2.inputs = strategy.inputs := fun _ _ => rfl
  simp only [entryConditions, entryConfirmation, low, high, inputs, entersOn]
  generalize strategy.updateTrendConfirmation _ _ _ _ = updated
  cases strategy.inputs.candleConfirmEntry with
  | false => simp [Bool.and_comm, Bool.and_left_comm]
  | true =>
      simp only [Bool.not_true, Bool.false_eq_true, if_false, Bool.false_or]
      rw [asked_once, asked_once]

def decision (strategy : EmaTrendPullbackStrategy α) (confirmed : ℤ) (emaLong emaEntry : α)
    (context : StrategyContext α) : Decision α :=
  if confirmed = trendUp ∧ strategy.entersOn context.candle emaEntry .up = true then .buy "LONG Pullback EMA"
  else if confirmed = trendDown ∧ strategy.entersOn context.candle emaEntry .down = true then .short "SHORT Pullback EMA"
  else if strategy.inputs.enableTouchExit && touchesLong strategy.inputs context.candle emaLong then
    match context.currentPositionSide with
    | some .long => .sell "Exit Touch EMA Long"
    | some .short => .cover "Exit Touch EMA Long"
    | none => .hold
  else .hold

theorem decide_spec (strategy : EmaTrendPullbackStrategy α) (emaLong emaEntry : α) (context : StrategyContext α)
    (longRead : context.number emaLongKey = .ok emaLong) (entryRead : context.number emaEntryKey = .ok emaEntry) :
    strategy.decide context =
      .ok (strategy.decision
          (strategy.updateTrendConfirmation (touchesLong strategy.inputs context.candle emaLong)
            context.candle.closePrice emaLong context).1 emaLong emaEntry context,
        (strategy.entryConditions emaLong emaEntry context).2) := by
  have conditions := strategy.entry_conditions_spec emaLong emaEntry context
  generalize entered : strategy.entryConditions emaLong emaEntry context = result at conditions ⊢
  obtain ⟨⟨longCondition, shortCondition⟩, next⟩ := result
  obtain ⟨⟨rfl, rfl⟩, -⟩ := Prod.mk.inj conditions |>.imp_left Prod.mk.inj
  simp only [decide, decision, longRead, entryRead, bind, Except.bind, pure, Except.pure, entered, Bool.and_eq_true,
    decide_eq_true_eq]
  split_ifs
  · rfl
  · rfl
  · cases context.currentPositionSide with
    | none => rfl
    | some side => cases side <;> rfl
  · rfl

theorem decision_buys (strategy : EmaTrendPullbackStrategy α) (confirmed : ℤ) (emaLong emaEntry : α)
    (context : StrategyContext α) :
    ((strategy.decision confirmed emaLong emaEntry context).action = .buy → confirmed = trendUp) ∧
      ((strategy.decision confirmed emaLong emaEntry context).action = .short → confirmed = trendDown) := by
  rw [decision]
  split_ifs with long short
  · exact ⟨fun _ => long.1, nofun⟩
  · exact ⟨nofun, fun _ => short.1⟩
  · cases context.currentPositionSide with
    | none => exact ⟨nofun, nofun⟩
    | some side => cases side <;> exact ⟨nofun, nofun⟩
  · exact ⟨nofun, nofun⟩

theorem entry_conditions_commit (strategy : EmaTrendPullbackStrategy α)
    (bars : List (Confirming.Placement TrendSide)) (emaLong emaEntry : α) (context : StrategyContext α)
    (commits : strategy.CommitsTally bars) (exact : CountsExactly α (bars.length + 1)) :
    (strategy.entryConditions emaLong emaEntry context).2.inputs = strategy.inputs ∧
      (strategy.entryConditions emaLong emaEntry context).2.CommitsTally
        (if context.candle.isClosed then bars ++ [placement strategy.inputs context.candle emaLong] else bars) := by
  rw [strategy.entry_conditions_spec emaLong emaEntry context,
    strategy.update_trend_tally bars emaLong context commits exact]
  refine ⟨rfl, ?_⟩
  by_cases closed : context.candle.isClosed = true
  · have filled : bars ++ [placement strategy.inputs context.candle emaLong] ≠ [] := by simp
    rw [if_pos closed]
    constructor
    · exact (track_committed _ _ _).trans (by rw [if_pos closed, counter, if_neg filled])
    · exact (track_committed _ _ _).trans (by rw [if_pos closed, counter, if_neg filled])
    · exact (track_committed _ _ _).trans (by rw [if_pos closed, counter, if_neg filled])
  · rw [if_neg closed]
    constructor
    · exact (track_committed _ _ _).trans (by rw [if_neg closed]; exact commits.trendSide)
    · exact (track_committed _ _ _).trans (by rw [if_neg closed]; exact commits.consecutiveBars)
    · exact (track_committed _ _ _).trans (by rw [if_neg closed]; exact commits.confirmedTrend)

end EmaTrendPullbackStrategy

end Sagittarius
