import Sagittarius.Domain.IndicatorHistory
import Sagittarius.Library.Smoothing
import Mathlib.Algebra.Order.Ring.Rat
import Mathlib.Algebra.Field.Rat
import Mathlib.Data.List.Infix
import Mathlib.Tactic.Positivity

set_option autoImplicit false

namespace Sagittarius

-- The definitions on a whole sequence of values, oldest first.
namespace Textbook

open Smoothing

def wma (period : ℕ) (values : List ℚ) : Option ℚ :=
  if values.length < period then none else some (linear (latest period values))

def ups (values : List ℚ) : List ℚ := List.zipWith (fun later earlier => max (later - earlier) 0) values.tail values

def downs (values : List ℚ) : List ℚ := List.zipWith (fun later earlier => max (earlier - later) 0) values.tail values

def strengthIndex (gain loss : ℚ) : ℚ :=
  if loss = 0 then if gain = 0 then 50 else 100 else 100 - 100 / (1 + gain / loss)

def rsi (period : ℕ) (values : List ℚ) : Option ℚ := do
  let gain ← wilder period (ups values)
  let loss ← wilder period (downs values)
  return strengthIndex gain loss

def ema (period : ℕ) (values : List ℚ) : Option ℚ := exponential (2 / ((period : ℚ) + 1)) period values

def macdLine (fast slow : ℕ) (values : List ℚ) : Option ℚ := do
  let quick ← ema fast values
  let steady ← ema slow values
  return quick - steady

def macd (fast slow signal : ℕ) (values : List ℚ) : Option (MACDValue ℚ) := do
  let line ← macdLine fast slow values
  let average ← ema signal (values.inits.filterMap (macdLine fast slow))
  return { macd := line, signal := average, histogram := line - average }

theorem strength_share (gain loss : ℚ) (moved : gain + loss ≠ 0) :
    strengthIndex gain loss = 100 * gain / (gain + loss) := by
  rw [strengthIndex]
  split_ifs with flat still
  · rw [flat, still, add_zero] at moved
    exact absurd rfl moved
  · rw [flat, add_zero, mul_div_assoc, div_self still, mul_one]
  · have whole : loss + gain ≠ 0 := by rwa [add_comm]
    field_simp
    ring

theorem strength_bounded (gain loss : ℚ) (gained : 0 ≤ gain) (lost : 0 ≤ loss) :
    0 ≤ strengthIndex gain loss ∧ strengthIndex gain loss ≤ 100 := by
  by_cases moved : gain + loss = 0
  · have still : gain = 0 := by linarith
    have flat : loss = 0 := by linarith
    rw [strengthIndex]
    rw [if_pos flat, if_pos still]
    norm_num
  · have positive : 0 < gain + loss := lt_of_le_of_ne (add_nonneg gained lost) (Ne.symm moved)
    rw [strength_share gain loss moved]
    constructor
    · positivity
    · rw [div_le_iff₀ positive]
      linarith

end Textbook

def Streams {σ α ρ : Type} [IIndicator σ α ρ] (fresh : σ) (batch : List α → Option ρ) (warmUp : ℤ) : Prop :=
  ∀ (values : List α) (value : α),
    (IIndicator.update (feed fresh values) value).1 = batch (values ++ [value]) ∧
      ((IIndicator.update (feed fresh values) value).1 = none ↔ (values.length : ℤ) + 1 < warmUp)

theorem ema_reading_exponential (indicator : EMA ℚ) (values : List ℚ) :
    indicator.reading values = Smoothing.exponential indicator.multiplier indicator.period values := by
  have same : indicator.recur = Smoothing.blend indicator.multiplier := by
    funext previous value
    rw [EMA.recur, Smoothing.blend]
    ring
  rw [EMA.reading, Smoothing.exponential]
  split_ifs with short
  · rfl
  · rw [Smoothing.smooth, Smoothing.mean]
    rw [same, List.length_take, min_eq_left (by omega)]
    rfl

theorem wma_reading_linear (indicator : WMA ℚ) (values : List ℚ) :
    indicator.reading values = Textbook.wma indicator.period values := by
  rw [WMA.reading, Textbook.wma]
  split_ifs with short
  · rfl
  have full : (latest indicator.period values).length = indicator.period := by
    rw [latest_length]
    omega
  rw [WMA.weighted, WMA.weightTotal, WMA.weights, Smoothing.linear]
  rw [List.zipIdx_eq_zip_range', full, List.zip, List.map_zipWith]
  simp only [rat_total, rat_of_int, Int.cast_natCast]

theorem rsi_gains_ups (values : List ℚ) : RSI.gains values = Textbook.ups values := by
  rw [RSI.gains, changes, Textbook.ups]
  rw [List.map_zipWith]
  congr
  funext later earlier
  exact rat_larger (later - earlier) 0

theorem rsi_losses_downs (values : List ℚ) : RSI.losses values = Textbook.downs values := by
  rw [RSI.losses, changes, Textbook.downs]
  rw [List.map_zipWith]
  congr
  funext later earlier
  rw [RSI.loss]
  rw [rat_larger, neg_sub]
  rfl

theorem compute_rsi_index (gain loss : ℚ) (gained : 0 ≤ gain) (lost : 0 ≤ loss) :
    RSI.computeRsiFrom gain loss = .ok (Textbook.strengthIndex gain loss) := by
  rw [RSI.computeRsiFrom, Textbook.strengthIndex]
  simp only [rat_equal, rat_literal]
  by_cases flat : loss = 0
  · rw [if_pos flat, if_pos flat]
    by_cases still : gain = 0
    · rw [if_pos still, still, if_neg (lt_irrefl 0)]
    · rw [if_neg still, if_pos (lt_of_le_of_ne gained (Ne.symm still))]
  · have ratio : 0 ≤ gain / loss := div_nonneg gained lost
    have whole : 1 + gain / loss ≠ 0 := by linarith
    rw [if_neg flat, if_neg flat]
    have divided : ∀ top bottom : ℚ, bottom ≠ 0 → pyDivide top bottom = .ok (top / bottom) := by
      intro top bottom nonzero
      exact if_neg (by rwa [rat_literal, rat_equal])
    rw [divided gain loss flat]
    change (pyDivide 100 (1 + gain / loss) >>= fun share => Except.ok (100 - share)) = _
    rw [divided 100 (1 + gain / loss) whole]
    rfl

theorem zip_nonneg (moved : ℚ → ℚ → ℚ) (later earlier : List ℚ) :
    ∀ average ∈ List.zipWith (fun a b => max (moved a b) 0) later earlier, 0 ≤ average := by
  induction later generalizing earlier with
  | nil => simp
  | cons head tail ih =>
      cases earlier with
      | nil => simp
      | cons first rest =>
          intro average inside
          cases List.mem_cons.mp inside with
          | inl same =>
              rw [same]
              exact le_max_right _ _
          | inr inside => exact ih rest average inside

theorem wilder_nonneg (period : ℕ) (positive : 0 < period) (values : List ℚ) (average : ℚ)
    (gains : ∀ value ∈ values, 0 ≤ value) (ready : Smoothing.wilder period values = some average) : 0 ≤ average := by
  have counted : (1 : ℚ) ≤ (period : ℚ) := by exact_mod_cast positive
  rw [Smoothing.wilder_exponential period positive] at ready
  refine Smoothing.exponential_nonneg _ average period values positive ⟨by positivity, ?_⟩ gains ready
  rw [div_le_one (by linarith)]
  exact counted

theorem rsi_reading_textbook (indicator : RSI ℚ) (period : ℕ) (positive : 0 < period) (values : List ℚ)
    (gaining : indicator.gainSmoother.period = period ∧ indicator.gainSmoother.multiplier = 1 / (period : ℚ))
    (losing : indicator.lossSmoother.period = period ∧ indicator.lossSmoother.multiplier = 1 / (period : ℚ)) :
    indicator.reading values = (Textbook.rsi period values).map .ok := by
  rw [RSI.reading, Textbook.rsi]
  rw [ema_reading_exponential, ema_reading_exponential, gaining.1, gaining.2, losing.1, losing.2,
    ← Smoothing.wilder_exponential period positive, ← Smoothing.wilder_exponential period positive,
    rsi_gains_ups, rsi_losses_downs]
  cases gained : Smoothing.wilder period (Textbook.ups values) with
  | none => rfl
  | some gain =>
      cases lost : Smoothing.wilder period (Textbook.downs values) with
      | none => rfl
      | some loss =>
          have up : 0 ≤ gain := wilder_nonneg period positive _ gain (zip_nonneg (fun a b => a - b) _ _) gained
          have down : 0 ≤ loss := wilder_nonneg period positive _ loss (zip_nonneg (fun a b => b - a) _ _) lost
          exact congrArg some (compute_rsi_index gain loss up down)

theorem rsi_textbook_bounded (period : ℕ) (positive : 0 < period) (values : List ℚ) (index : ℚ)
    (ready : Textbook.rsi period values = some index) : 0 ≤ index ∧ index ≤ 100 := by
  rw [Textbook.rsi] at ready
  obtain ⟨gain, gained, ready⟩ := Option.bind_eq_some_iff.mp ready
  obtain ⟨loss, lost, ready⟩ := Option.bind_eq_some_iff.mp ready
  cases ready
  apply Textbook.strength_bounded
  · exact wilder_nonneg period positive _ gain (zip_nonneg (fun a b => a - b) _ _) gained
  · exact wilder_nonneg period positive _ loss (zip_nonneg (fun a b => b - a) _ _) lost

theorem macd_line_textbook (indicator : MACD ℚ) (values : List ℚ)
    (quick : indicator.fastEma.multiplier = 2 / ((indicator.fastEma.period : ℚ) + 1))
    (steady : indicator.slowEma.multiplier = 2 / ((indicator.slowEma.period : ℚ) + 1)) :
    indicator.line values = Textbook.macdLine indicator.fastEma.period indicator.slowEma.period values := by
  unfold MACD.line Textbook.macdLine Textbook.ema
  rw [ema_reading_exponential, ema_reading_exponential, quick, steady]
  cases Smoothing.exponential (2 / ((indicator.fastEma.period : ℚ) + 1)) indicator.fastEma.period values with
  | none => rfl
  | some fast =>
      cases Smoothing.exponential (2 / ((indicator.slowEma.period : ℚ) + 1)) indicator.slowEma.period values with
      | none => rfl
      | some slow => rfl

theorem macd_lines_textbook (indicator : MACD ℚ) (values : List ℚ)
    (drawn : ∀ seen, indicator.line seen = Textbook.macdLine indicator.fastEma.period indicator.slowEma.period seen) :
    indicator.lines values =
      values.inits.filterMap (Textbook.macdLine indicator.fastEma.period indicator.slowEma.period) := by
  have positive := indicator.fastEma.positive
  induction values using List.reverseRecOn with
  | nil =>
      have early := (EMA.reading_none indicator.fastEma []).mpr positive
      have unseen : indicator.line [] = none := by
        rw [MACD.line]
        rw [early]
      rw [drawn] at unseen
      simp [MACD.lines, unseen]
  | append_singleton values value ih =>
      rw [MACD.lines_append, ih, drawn, List.inits_append, List.filterMap_append]
      rfl

theorem macd_reading_textbook (indicator : MACD ℚ) (values : List ℚ)
    (quick : indicator.fastEma.multiplier = 2 / ((indicator.fastEma.period : ℚ) + 1))
    (steady : indicator.slowEma.multiplier = 2 / ((indicator.slowEma.period : ℚ) + 1))
    (signalled : indicator.signalEma.multiplier = 2 / ((indicator.signalEma.period : ℚ) + 1)) :
    indicator.reading values =
      Textbook.macd indicator.fastEma.period indicator.slowEma.period indicator.signalEma.period values := by
  have drawn := fun seen => macd_line_textbook indicator seen quick steady
  have averaged (line : List ℚ) : indicator.signalEma.reading line = Textbook.ema indicator.signalEma.period line := by
    rw [ema_reading_exponential, signalled]
    rfl
  rw [MACD.reading, Textbook.macd]
  rw [drawn, averaged, macd_lines_textbook indicator values drawn]
  cases Textbook.macdLine indicator.fastEma.period indicator.slowEma.period values with
  | none => rfl
  | some line =>
      simp only [Option.bind_eq_bind, Option.bind_some]
      cases Textbook.ema indicator.signalEma.period _ with
      | none => rfl
      | some signal => rfl

theorem default_multiplier (period : ℤ) (indicator : EMA ℚ) (created : EMA.create period none = .ok indicator) :
    indicator.multiplier = 2 / ((indicator.period : ℚ) + 1) := by
  obtain ⟨_, counted, weight, _⟩ := EMA.create_fresh period none indicator created
  rw [weight, ← counted]
  simp

theorem multiplier_weighs (period : ℤ) (alpha : Option ℚ) (indicator : EMA ℚ)
    (created : EMA.create period alpha = .ok indicator) : 0 ≤ indicator.multiplier ∧ indicator.multiplier ≤ 1 := by
  cases alpha with
  | none =>
      have counted : (1 : ℚ) ≤ (indicator.period : ℚ) := by exact_mod_cast indicator.positive
      rw [default_multiplier period indicator created]
      refine ⟨by positivity, ?_⟩
      rw [div_le_one (by linarith)]
      linarith
  | some alpha =>
      obtain ⟨_, _, weight, admitted⟩ := EMA.create_fresh period (some alpha) indicator created
      obtain ⟨positive, atMost⟩ := admitted alpha rfl
      rw [weight]
      exact ⟨positive.le, atMost⟩

theorem ema_update_exponential (period : ℤ) (alpha : Option ℚ) (indicator : EMA ℚ)
    (created : EMA.create period alpha = .ok indicator) (values : List ℚ) (value : ℚ) :
    (IIndicator.update (feed indicator values) value).1 =
      Smoothing.exponential indicator.multiplier indicator.period (values ++ [value]) := by
  rw [← ema_reading_exponential]
  have fresh := (EMA.create_fresh period alpha indicator created).1
  exact feed_reads indicator indicator.holding indicator.reading (EMA.feed_holding indicator fresh)
    (EMA.update_holding indicator) values value

theorem ema_streams (period : ℤ) (alpha : Option ℚ) (indicator : EMA ℚ)
    (created : EMA.create period alpha = .ok indicator) :
    Streams indicator (Smoothing.exponential (alpha.getD (2 / ((period : ℚ) + 1))) period.toNat) period := by
  obtain ⟨_, counted, weight, _⟩ := EMA.create_fresh period alpha indicator created
  have period' : period.toNat = indicator.period := by omega
  have weight' : alpha.getD (2 / ((period : ℚ) + 1)) = indicator.multiplier := by
    rw [weight]
    simp
  intro values value
  rw [ema_update_exponential period alpha indicator created, period', weight', Smoothing.exponential_none,
    List.length_append, List.length_singleton]
  refine ⟨rfl, ?_⟩
  omega

theorem ema_stays_within (period : ℤ) (alpha : Option ℚ) (indicator : EMA ℚ)
    (created : EMA.create period alpha = .ok indicator) (values : List ℚ) (value average : ℚ)
    (read : (IIndicator.update (feed indicator values) value).1 = some average) :
    ∃ low ∈ values ++ [value], ∃ high ∈ values ++ [value], low ≤ average ∧ average ≤ high := by
  rw [ema_update_exponential period alpha indicator created] at read
  exact Smoothing.exponential_within _ average _ _ indicator.positive (multiplier_weighs period alpha indicator created)
    read

theorem wma_streams (period : ℤ) (indicator : WMA ℚ) (created : WMA.create period = .ok indicator) :
    Streams indicator (Textbook.wma period.toNat) period := by
  obtain ⟨fresh, counted⟩ := WMA.create_fresh period indicator created
  have period' : period.toNat = indicator.period := by omega
  intro values value
  have read : (IIndicator.update (feed indicator values) value).1 = Textbook.wma period.toNat (values ++ [value]) := by
    rw [period', ← wma_reading_linear]
    exact feed_reads indicator indicator.holding indicator.reading (WMA.feed_holding indicator fresh)
      (WMA.update_holding indicator) values value
  refine ⟨read, ?_⟩
  rw [read, Textbook.wma]
  split_ifs with short
  · rw [List.length_append, List.length_singleton] at short
    simp only [true_iff]
    omega
  · rw [List.length_append, List.length_singleton] at short
    simp only [false_iff]
    omega

theorem rsi_streams (period : ℤ) (indicator : RSI ℚ) (created : RSI.create period = .ok indicator) :
    Streams indicator (fun values => (Textbook.rsi period.toNat values).map .ok) (period + 1) := by
  obtain ⟨fresh, positive, gaining, losing⟩ := RSI.create_fresh period indicator created
  obtain ⟨_, gained, gainWeight, _⟩ := EMA.create_fresh period _ _ gaining
  obtain ⟨_, lost, lossWeight, _⟩ := EMA.create_fresh period _ _ losing
  have weight : (1 : ℚ) / (period : ℚ) = 1 / ((period.toNat : ℕ) : ℚ) := by
    rw [← Int.cast_natCast, Int.toNat_of_nonneg positive.le]
  intro values value
  have gains : indicator.gainSmoother.period = period.toNat := by omega
  have losses : indicator.lossSmoother.period = period.toNat := by omega
  have read : (IIndicator.update (feed indicator values) value).1 = indicator.reading (values ++ [value]) :=
    feed_reads indicator indicator.holding indicator.reading (RSI.feed_holding indicator fresh)
      (RSI.update_holding indicator) values value
  rw [read]
  constructor
  · exact rsi_reading_textbook indicator period.toNat (by omega) _ ⟨gains, gainWeight.trans weight⟩
      ⟨losses, lossWeight.trans weight⟩
  · rw [RSI.reading_none indicator _ period.toNat (by omega) ⟨gains, losses⟩, List.length_append, List.length_singleton]
    omega

theorem macd_streams (fast slow signal : ℤ) (indicator : MACD ℚ)
    (created : MACD.create fast slow signal = .ok indicator) :
    Streams indicator (Textbook.macd fast.toNat slow.toNat signal.toNat) (slow + signal - 1) := by
  obtain ⟨below, quick, steady, signalled⟩ := MACD.create_fresh fast slow signal indicator created
  obtain ⟨fastFresh, fastCounted, _⟩ := EMA.create_fresh _ _ _ quick
  obtain ⟨slowFresh, slowCounted, _⟩ := EMA.create_fresh _ _ _ steady
  obtain ⟨signalFresh, signalCounted, _⟩ := EMA.create_fresh _ _ _ signalled
  have ordered : indicator.fastEma.period < indicator.slowEma.period := by omega
  have slowPositive := indicator.slowEma.positive
  have signalPositive := indicator.signalEma.positive
  intro values value
  have read : (IIndicator.update (feed indicator values) value).1 = indicator.reading (values ++ [value]) :=
    feed_reads indicator indicator.holding indicator.reading
      (MACD.feed_holding indicator ⟨fastFresh, slowFresh, signalFresh⟩) (MACD.update_holding indicator) values value
  rw [read]
  constructor
  · rw [macd_reading_textbook indicator _ (default_multiplier fast _ quick) (default_multiplier slow _ steady)
      (default_multiplier signal _ signalled), ← fastCounted, ← slowCounted, ← signalCounted]
    rfl
  · rw [MACD.reading_none indicator ordered, List.length_append, List.length_singleton]
    omega

theorem streaming_is_batch :
    (∀ (period : ℤ) (alpha : Option ℚ) (indicator : EMA ℚ), EMA.create period alpha = .ok indicator →
      Streams indicator (Smoothing.exponential (alpha.getD (2 / ((period : ℚ) + 1))) period.toNat) period ∧
      ∀ values value average, (IIndicator.update (feed indicator values) value).1 = some average →
        ∃ low ∈ values ++ [value], ∃ high ∈ values ++ [value], low ≤ average ∧ average ≤ high) ∧
    (∀ (period : ℤ) (indicator : WMA ℚ), WMA.create period = .ok indicator →
      Streams indicator (Textbook.wma period.toNat) period) ∧
    (∀ (period : ℤ) (indicator : RSI ℚ), RSI.create period = .ok indicator →
      Streams indicator (fun values => (Textbook.rsi period.toNat values).map .ok) (period + 1) ∧
      ∀ values value outcome, (IIndicator.update (feed indicator values) value).1 = some outcome →
        ∃ index, outcome = .ok index ∧ 0 ≤ index ∧ index ≤ 100) ∧
    (∀ (fast slow signal : ℤ) (indicator : MACD ℚ), MACD.create fast slow signal = .ok indicator →
      Streams indicator (Textbook.macd fast.toNat slow.toNat signal.toNat) (slow + signal - 1)) := by
  refine ⟨?_, wma_streams, ?_, macd_streams⟩
  · intro period alpha indicator created
    exact ⟨ema_streams period alpha indicator created, ema_stays_within period alpha indicator created⟩
  · intro period indicator created
    have streams := rsi_streams period indicator created
    refine ⟨streams, ?_⟩
    intro values value outcome read
    rw [(streams values value).1] at read
    obtain ⟨index, indexed, rfl⟩ := Option.map_eq_some_iff.mp read
    have positive := (RSI.create_fresh period indicator created).2.1
    exact ⟨index, rfl, rsi_textbook_bounded period.toNat (by omega) _ index indexed⟩

theorem streaming_is_batch_two :
    ∃ average : EMA ℚ, EMA.create 2 none = .ok average ∧
      Streams average (Smoothing.exponential (2 / 3) 2) 2 ∧
      (IIndicator.update (feed average [10, 20]) 30).1 = some 25 := by
  refine ⟨_, rfl, ?_, by decide +kernel⟩
  have streams := (streaming_is_batch.1 2 none _ rfl).1
  norm_num at streams
  exact streams

end Sagittarius
