import Sagittarius.Domain.Oscillators

set_option autoImplicit false

namespace Sagittarius

section Calls

variable {σ α ρ : Type} [IIndicator σ α ρ]

def feed (indicator : σ) (values : List α) : σ :=
  values.foldl (fun indicator value => (IIndicator.update indicator value).2) indicator

theorem feed_append (indicator : σ) (values : List α) (value : α) :
    feed indicator (values ++ [value]) = (IIndicator.update (feed indicator values) value).2 := by
  rw [feed]
  rw [List.foldl_append]
  rfl

-- An indicator whose state and reading after each update are functions of the
-- values fed so far.
theorem feed_holds (indicator : σ) (holding : List α → σ) (reading : List α → Option ρ) (fresh : indicator = holding [])
    (updates : ∀ values value,
      IIndicator.update (holding values) value = (reading (values ++ [value]), holding (values ++ [value])))
    (values : List α) : feed indicator values = holding values := by
  induction values using List.reverseRecOn with
  | nil => exact fresh
  | append_singleton values value ih => rw [feed_append, ih, updates]

theorem feed_reads (indicator : σ) (holding : List α → σ) (reading : List α → Option ρ)
    (fed : ∀ values, feed indicator values = holding values)
    (updates : ∀ values value,
      IIndicator.update (holding values) value = (reading (values ++ [value]), holding (values ++ [value])))
    (values : List α) (value : α) : (IIndicator.update (feed indicator values) value).1 = reading (values ++ [value]) := by
  rw [fed, updates]

inductive IndicatorCall (α : Type)
  | update (value : α)
  | peek (value : α)

def IndicatorCall.committed : IndicatorCall α → Option α
  | .update value => some value
  | .peek _ => none

def committed (calls : List (IndicatorCall α)) : List α := calls.filterMap IndicatorCall.committed

def perform (indicator : σ) : IndicatorCall α → Option ρ × σ
  | .update value => IIndicator.update indicator value
  | .peek value => (IIndicator.peekProvisional indicator value, indicator)

def after (indicator : σ) (calls : List (IndicatorCall α)) : σ :=
  calls.foldl (fun indicator call => (perform indicator call).2) indicator

def updateReadings (indicator : σ) : List (IndicatorCall α) → List (Option ρ)
  | [] => []
  | .update value :: later =>
      let (reading, next) := IIndicator.update indicator value
      reading :: updateReadings next later
  | .peek value :: later => updateReadings (perform indicator (.peek value)).2 later

theorem after_committed (indicator : σ) (calls : List (IndicatorCall α)) :
    after indicator calls = feed indicator (committed calls) := by
  induction calls generalizing indicator with
  | nil => rfl
  | cons call later ih =>
      cases call with
      | update value => exact ih (IIndicator.update indicator value).2
      | peek value => exact ih indicator

theorem readings_committed (indicator : σ) (calls : List (IndicatorCall α)) :
    updateReadings indicator calls = updateReadings indicator ((committed calls).map .update) := by
  induction calls generalizing indicator with
  | nil => rfl
  | cons call later ih =>
      cases call with
      | update value => exact congrArg (List.cons _) (ih (IIndicator.update indicator value).2)
      | peek value => exact ih indicator

def PeekAgrees (indicator : σ) (value : α) : Prop :=
  IIndicator.peekProvisional indicator value = (IIndicator.update indicator value).1

-- A peek that is silent until the committed values alone are enough misses
-- the one value that completes the warm-up.
theorem late_peek_agrees (indicator : σ) (reading : List α → Option ρ) (warmUp : ℕ) (values : List α) (value : α)
    (warms : reading (values ++ [value]) = none ↔ (values ++ [value]).length < warmUp)
    (updated : (IIndicator.update indicator value).1 = reading (values ++ [value]))
    (peeked : IIndicator.peekProvisional indicator value =
      if values.length < warmUp then none else reading (values ++ [value])) :
    PeekAgrees indicator value ↔ values.length + 1 ≠ warmUp := by
  rw [PeekAgrees]
  rw [updated, peeked]
  rw [List.length_append, List.length_singleton] at warms
  split_ifs with short
  · rw [eq_comm, warms]
    omega
  · simp only [true_iff]
    omega

end Calls

variable {α : Type} [PyFloat α]

namespace EMA

def Fresh (indicator : EMA α) : Prop := indicator.seedValues = [] ∧ indicator.ema = none

omit [PyFloat α] in
theorem fresh_eq (indicator : EMA α) (fresh : indicator.Fresh) :
    indicator = { indicator with seedValues := [], ema := none } := by
  obtain ⟨period, positive, multiplier, seedValues, ema⟩ := indicator
  obtain ⟨rfl, rfl⟩ := fresh
  rfl

def recur (indicator : EMA α) (previous value : α) : α := (value - previous) * indicator.multiplier + previous

def reading (indicator : EMA α) (values : List α) : Option α :=
  if values.length < indicator.period then none
  else some ((values.drop indicator.period).foldl indicator.recur
    (PyFloat.total (values.take indicator.period) / PyFloat.ofInt indicator.period))

theorem reading_none (indicator : EMA α) (values : List α) :
    indicator.reading values = none ↔ values.length < indicator.period := by
  rw [reading]
  split_ifs with short
  · simp [short]
  · simp [short]

def holding (indicator : EMA α) (values : List α) : EMA α :=
  { indicator with
    seedValues := if values.length < indicator.period then values else []
    ema := indicator.reading values }

theorem reading_seeded (indicator : EMA α) (values : List α) (value : α) (long : indicator.period ≤ values.length) :
    ∃ previous, indicator.reading values = some previous ∧
      indicator.reading (values ++ [value]) = some (indicator.recur previous value) := by
  unfold reading
  rw [if_neg (by omega), if_neg (by simp; omega), List.drop_append_of_le_length long, List.foldl_append,
    List.take_append_of_le_length long]
  exact ⟨_, rfl, rfl⟩

theorem reading_full (indicator : EMA α) (values : List α) (full : values.length = indicator.period) :
    indicator.reading values = some (PyFloat.total values / PyFloat.ofInt indicator.period) := by
  rw [reading]
  rw [if_neg (by omega), List.drop_of_length_le (by omega), List.take_of_length_le (by omega)]
  rfl

theorem update_holding (indicator : EMA α) (values : List α) (value : α) :
    (indicator.holding values).update value =
      (indicator.reading (values ++ [value]), indicator.holding (values ++ [value])) := by
  by_cases long : indicator.period ≤ values.length
  · obtain ⟨previous, held, next⟩ := reading_seeded indicator values value long
    unfold update holding
    simp only [held, next, List.length_append, List.length_singleton]
    rw [if_neg (by omega), if_neg (by omega)]
    rfl
  · have seeding : values.length < indicator.period := by omega
    have held := (reading_none indicator values).mpr seeding
    unfold update holding
    simp only [held, if_pos seeding]
    by_cases short : (values ++ [value]).length < indicator.period
    · rw [if_pos short, if_pos short, (reading_none indicator _).mpr short]
    · have full : (values ++ [value]).length = indicator.period := by
        simp only [List.length_append, List.length_singleton] at short ⊢
        omega
      rw [if_neg short, if_neg short, reading_full indicator _ full]

theorem feed_holding (indicator : EMA α) (fresh : indicator.Fresh) (values : List α) :
    feed indicator values = indicator.holding values := by
  refine feed_holds indicator indicator.holding indicator.reading ?_ (update_holding indicator) values
  rw [fresh_eq indicator fresh]
  simp [holding, reading, indicator.positive]

-- A peek counts the value only once the seed is complete without it.
theorem peek_holding (indicator : EMA α) (values : List α) (value : α) :
    (indicator.holding values).peekProvisional value =
      if values.length < indicator.period then none else indicator.reading (values ++ [value]) := by
  rw [peekProvisional]
  split_ifs with short
  · have held := (reading_none indicator values).mpr short
    simp only [holding, held, Option.map_none]
  · obtain ⟨previous, held, next⟩ := reading_seeded indicator values value (by omega)
    simp only [holding, held, next, Option.map_some]
    rfl

theorem create_fresh (period : ℤ) (alpha : Option α) (indicator : EMA α)
    (created : create period alpha = .ok indicator) :
    indicator.Fresh ∧ (indicator.period : ℤ) = period ∧
      indicator.multiplier = alpha.getD (PyFloat.literal 2 / PyFloat.ofInt (period + 1)) ∧
      ∀ given ∈ alpha, PyFloat.literal 0 < given ∧ given ≤ PyFloat.literal 1 := by
  rw [create] at created
  split_ifs at created with positive
  have counted : ((period.toNat : ℕ) : ℤ) = period := by omega
  cases alpha with
  | none =>
      cases created
      refine ⟨⟨rfl, rfl⟩, counted, ?_, by simp⟩
      simp only [build, counted, Option.getD_none]
  | some given =>
      simp only at created
      split_ifs at created with admitted
      cases created
      refine ⟨⟨rfl, rfl⟩, counted, rfl, ?_⟩
      intro other same
      cases same
      exact admitted

end EMA

theorem peek_window {β : Type} (maxlen : ℕ) (values : List β) (value : β) (bounded : values.length ≤ maxlen) :
    (if values.length = maxlen then values.drop 1 ++ [value] else values ++ [value]) =
      dequeAppend maxlen values value := by
  rw [dequeAppend]
  split_ifs with full
  · rw [full, Nat.add_sub_cancel_left]
  · rw [show values.length + 1 - maxlen = 0 by omega, List.drop_zero]

namespace WMA

def reading (indicator : WMA α) (values : List α) : Option α :=
  if values.length < indicator.period then none else some (indicator.weighted (latest indicator.period values))

def holding (indicator : WMA α) (values : List α) : WMA α where
  period := indicator.period
  positive := indicator.positive
  values := latest indicator.period values
  bounded := by simp [latest_length]

theorem update_holding (indicator : WMA α) (values : List α) (value : α) :
    (indicator.holding values).update value =
      (indicator.reading (values ++ [value]), indicator.holding (values ++ [value])) := by
  have next : (indicator.holding values).append value = indicator.holding (values ++ [value]) := by
    simp only [append, holding, latest_append indicator.period indicator.positive]
  have filled : (indicator.holding (values ++ [value])).values.length < indicator.period ↔
      (values ++ [value]).length < indicator.period := by
    simp only [holding, latest_length]
    omega
  rw [update, reading]
  simp only [next]
  by_cases short : (values ++ [value]).length < indicator.period
  · rw [if_pos short]
    exact if_pos (filled.mpr short)
  · rw [if_neg short]
    exact if_neg fun refused => short (filled.mp refused)

theorem peek_update (indicator : WMA α) (value : α) :
    indicator.peekProvisional value = (indicator.update value).1 := by
  have window := peek_window indicator.period indicator.values value indicator.bounded
  have held : (indicator.append value).values = dequeAppend indicator.period indicator.values value := rfl
  have kept : (indicator.append value).period = indicator.period := rfl
  rw [peekProvisional, update]
  simp only [window, held, kept]
  split_ifs with short
  · rfl
  · rfl

theorem feed_holding (indicator : WMA α) (fresh : indicator.values = []) (values : List α) :
    feed indicator values = indicator.holding values := by
  refine feed_holds indicator indicator.holding indicator.reading ?_ (update_holding indicator) values
  obtain ⟨period, positive, held, bounded⟩ := indicator
  cases fresh
  simp [holding, latest]

omit [PyFloat α] in
theorem create_fresh (period : ℤ) (indicator : WMA α) (created : create period = .ok indicator) :
    indicator.values = [] ∧ (indicator.period : ℤ) = period := by
  rw [create] at created
  split_ifs at created with positive
  cases created
  exact ⟨rfl, by simp only []; omega⟩

end WMA

namespace SupportResistance

theorem peek_update (indicator : SupportResistance α) (value : α) :
    indicator.peekProvisional value = (indicator.update value).1 := by
  have window := peek_window indicator.period indicator.values value indicator.bounded
  have held : (indicator.append value).values = dequeAppend indicator.period indicator.values value := rfl
  have kept : (indicator.append value).period = indicator.period := rfl
  rw [peekProvisional, update]
  simp only [window, held, kept]
  cases dequeAppend indicator.period indicator.values value with
  | nil => rfl
  | cons first rest =>
      simp only
      split_ifs with short
      · rfl
      · rfl

def levels (window : List α) : Option (SupportResistanceValue α) :=
  match window with
  | [] => none
  | first :: rest =>
      let resistance := PyFloat.largest first rest
      let support := PyFloat.smallest first rest
      some { resistance, support, midline := (resistance + support) / PyFloat.literal 2 }

def reading (indicator : SupportResistance α) (values : List α) : Option (SupportResistanceValue α) :=
  if values.length < indicator.period then none else levels (latest indicator.period values)

def holding (indicator : SupportResistance α) (values : List α) : SupportResistance α where
  period := indicator.period
  positive := indicator.positive
  values := latest indicator.period values
  bounded := by simp [latest_length]

theorem update_holding (indicator : SupportResistance α) (values : List α) (value : α) :
    (indicator.holding values).update value =
      (indicator.reading (values ++ [value]), indicator.holding (values ++ [value])) := by
  have next : (indicator.holding values).append value = indicator.holding (values ++ [value]) := by
    have window := latest_append indicator.period indicator.positive values value
    simp only [append, holding, ← window]
    rfl
  have filled : (latest indicator.period (values ++ [value])).length < indicator.period ↔
      (values ++ [value]).length < indicator.period := by
    rw [latest_length]
    omega
  have held : (indicator.holding (values ++ [value])).values = latest indicator.period (values ++ [value]) := rfl
  have kept : (indicator.holding (values ++ [value])).period = indicator.period := rfl
  rw [update, reading]
  simp only [next, held, kept]
  generalize latest indicator.period (values ++ [value]) = window at filled
  cases window with
  | nil =>
      have short := filled.mp indicator.positive
      rw [if_pos short]
  | cons first rest =>
      by_cases short : (values ++ [value]).length < indicator.period
      · rw [if_pos short]
        exact if_pos (filled.mpr short)
      · rw [if_neg short]
        exact if_neg fun refused => short (filled.mp refused)

end SupportResistance

def changes (values : List α) : List α := List.zipWith (fun later earlier => later - earlier) values.tail values

theorem changes_append (values : List α) (previous value : α) (last : values.getLast? = some previous) :
    changes (values ++ [value]) = changes values ++ [value - previous] := by
  induction values with
  | nil => cases last
  | cons head tail ih =>
      cases tail with
      | nil =>
          cases last
          rfl
      | cons next rest => exact congrArg (List.cons (next - head)) (ih last)

theorem changes_length (values : List α) : (changes values).length = values.length - 1 := by
  rw [changes]
  rw [List.length_zipWith, List.length_tail]
  omega

theorem mapped_changes_append {β : Type} (f : α → β) (values : List α) (previous value : α)
    (last : values.getLast? = some previous) :
    (changes (values ++ [value])).map f = (changes values).map f ++ [f (value - previous)] := by
  rw [changes_append values previous value last, List.map_append]
  rfl

theorem mapped_changes_length {β : Type} (f : α → β) (values : List α) :
    ((changes values).map f).length = values.length - 1 := by
  rw [List.length_map, changes_length]

namespace RSI

def Fresh (indicator : RSI α) : Prop :=
  indicator.previousClose = none ∧ indicator.gainSmoother.Fresh ∧ indicator.lossSmoother.Fresh

def gains (values : List α) : List α := (changes values).map gain

def losses (values : List α) : List α := (changes values).map loss

def reading (indicator : RSI α) (values : List α) : Option (Except ZeroDivisionError α) :=
  match indicator.gainSmoother.reading (gains values), indicator.lossSmoother.reading (losses values) with
  | some avgGain, some avgLoss => some (computeRsiFrom avgGain avgLoss)
  | _, _ => none

def holding (indicator : RSI α) (values : List α) : RSI α :=
  { indicator with
    previousClose := values.getLast?
    gainSmoother := indicator.gainSmoother.holding (gains values)
    lossSmoother := indicator.lossSmoother.holding (losses values) }

theorem gains_append (values : List α) (previous value : α) (last : values.getLast? = some previous) :
    gains (values ++ [value]) = gains values ++ [gain (value - previous)] :=
  mapped_changes_append gain values previous value last

theorem losses_append (values : List α) (previous value : α) (last : values.getLast? = some previous) :
    losses (values ++ [value]) = losses values ++ [loss (value - previous)] :=
  mapped_changes_append loss values previous value last

theorem gains_length (values : List α) : (gains values).length = values.length - 1 := mapped_changes_length gain values

theorem losses_length (values : List α) : (losses values).length = values.length - 1 := mapped_changes_length loss values

theorem reading_none (indicator : RSI α) (values : List α) (period : ℕ) (positive : 0 < period)
    (paired : indicator.gainSmoother.period = period ∧ indicator.lossSmoother.period = period) :
    indicator.reading values = none ↔ values.length < period + 1 := by
  have gained := EMA.reading_none indicator.gainSmoother (gains values)
  have lost := EMA.reading_none indicator.lossSmoother (losses values)
  rw [gains_length, paired.1] at gained
  rw [losses_length, paired.2] at lost
  rw [reading]
  by_cases short : values.length < period + 1
  · rw [gained.mpr (by omega)]
    simp [short]
  · obtain ⟨avgGain, gained⟩ := Option.ne_none_iff_exists'.mp (gained.not.mpr (by omega))
    obtain ⟨avgLoss, lost⟩ := Option.ne_none_iff_exists'.mp (lost.not.mpr (by omega))
    simp [gained, lost, short]

theorem update_holding (indicator : RSI α) (values : List α) (value : α) :
    (indicator.holding values).update value =
      (indicator.reading (values ++ [value]), indicator.holding (values ++ [value])) := by
  cases last : values.getLast? with
  | none =>
      obtain rfl := List.getLast?_eq_none_iff.mp last
      have early : indicator.gainSmoother.reading (gains [value]) = none :=
        (EMA.reading_none _ _).mpr indicator.gainSmoother.positive
      rw [update, reading, holding]
      simp only [List.nil_append, early]
      rfl
  | some previous =>
      unfold update holding reading
      simp only [last, EMA.update_holding, gains_append values previous value last,
        losses_append values previous value last, List.getLast?_concat]
      cases indicator.gainSmoother.reading (gains values ++ [gain (value - previous)]) with
      | none => rfl
      | some avgGain =>
          cases indicator.lossSmoother.reading (losses values ++ [loss (value - previous)]) with
          | none => rfl
          | some avgLoss => rfl

theorem feed_holding (indicator : RSI α) (fresh : indicator.Fresh) (values : List α) :
    feed indicator values = indicator.holding values := by
  refine feed_holds indicator indicator.holding indicator.reading ?_ (update_holding indicator) values
  obtain ⟨period, previousClose, gainSmoother, lossSmoother⟩ := indicator
  obtain ⟨unseen, gainFresh, lossFresh⟩ := fresh
  cases unseen
  have gained := EMA.feed_holding gainSmoother gainFresh []
  have lost := EMA.feed_holding lossSmoother lossFresh []
  change RSI.mk period none gainSmoother lossSmoother =
    RSI.mk period none (gainSmoother.holding []) (lossSmoother.holding [])
  rw [← gained, ← lost]
  rfl

theorem peek_holding (indicator : RSI α) (values : List α) (value : α) (period : ℕ)
    (paired : indicator.gainSmoother.period = period ∧ indicator.lossSmoother.period = period) :
    (indicator.holding values).peekProvisional value =
      if values.length < period + 1 then none else indicator.reading (values ++ [value]) := by
  cases last : values.getLast? with
  | none =>
      obtain rfl := List.getLast?_eq_none_iff.mp last
      rw [if_pos (by simp)]
      rfl
  | some previous =>
      have filled : values ≠ [] := by
        rintro rfl
        cases last
      have counted := List.length_pos_iff.mpr filled
      rw [peekProvisional, holding, reading]
      simp only [last, EMA.peek_holding, gains_length, losses_length, paired, gains_append values previous value last,
        losses_append values previous value last]
      by_cases short : values.length < period + 1
      · rw [if_pos short, if_pos (by omega), if_pos (by omega)]
      · have enough : ¬ values.length - 1 < period := by omega
        rw [if_neg enough, if_neg enough]
        exact (if_neg short).symm

theorem create_fresh (period : ℤ) (indicator : RSI α) (created : create period = .ok indicator) :
    indicator.Fresh ∧ 0 < period ∧
      (EMA.create period (some (PyFloat.literal 1 / PyFloat.ofInt period)) = .ok indicator.gainSmoother) ∧
      (EMA.create period (some (PyFloat.literal 1 / PyFloat.ofInt period)) = .ok indicator.lossSmoother) := by
  rw [create] at created
  split_ifs at created with refused
  obtain ⟨gainSmoother, gaining, created⟩ := bind_ok _ _ _ created
  obtain ⟨lossSmoother, losing, created⟩ := bind_ok _ _ _ created
  cases created
  exact ⟨⟨rfl, (EMA.create_fresh period _ _ gaining).1, (EMA.create_fresh period _ _ losing).1⟩, by omega, gaining, losing⟩

end RSI

namespace MACD

def Fresh (indicator : MACD α) : Prop :=
  indicator.fastEma.Fresh ∧ indicator.slowEma.Fresh ∧ indicator.signalEma.Fresh

def Ordered (indicator : MACD α) : Prop := indicator.fastEma.period < indicator.slowEma.period

def line (indicator : MACD α) (values : List α) : Option α :=
  match indicator.fastEma.reading values, indicator.slowEma.reading values with
  | some fast, some slow => some (fast - slow)
  | _, _ => none

def lines (indicator : MACD α) (values : List α) : List α :=
  (List.range values.length).filterMap fun count => indicator.line (values.take (count + 1))

def reading (indicator : MACD α) (values : List α) : Option (MACDValue α) :=
  match indicator.line values with
  | some macdLine => (indicator.signalEma.reading (indicator.lines values)).map (valueOf macdLine)
  | none => none

def holding (indicator : MACD α) (values : List α) : MACD α where
  fastEma := indicator.fastEma.holding values
  slowEma := indicator.slowEma.holding values
  signalEma := indicator.signalEma.holding (indicator.lines values)

theorem line_none (indicator : MACD α) (ordered : indicator.Ordered) (values : List α) :
    indicator.line values = none ↔ values.length < indicator.slowEma.period := by
  have ordered : indicator.fastEma.period < indicator.slowEma.period := ordered
  have quick := EMA.reading_none indicator.fastEma values
  have steady := EMA.reading_none indicator.slowEma values
  rw [line]
  by_cases short : values.length < indicator.slowEma.period
  · rw [steady.mpr short]
    simp [short]
  · obtain ⟨fast, ready⟩ := Option.ne_none_iff_exists'.mp (quick.not.mpr (by omega))
    obtain ⟨slow, steady⟩ := Option.ne_none_iff_exists'.mp (steady.not.mpr short)
    simp [ready, steady, short]

theorem lines_append (indicator : MACD α) (values : List α) (value : α) :
    indicator.lines (values ++ [value]) = indicator.lines values ++ (indicator.line (values ++ [value])).toList := by
  have whole : (values ++ [value]).take (values.length + 1) = values ++ [value] := List.take_of_length_le (by simp)
  have earlier : ∀ count ∈ List.range values.length,
      indicator.line ((values ++ [value]).take (count + 1)) = indicator.line (values.take (count + 1)) := by
    intro count inside
    have below := List.mem_range.mp inside
    rw [List.take_append_of_le_length (by omega)]
  unfold lines
  rw [List.length_append, List.length_singleton, List.range_succ, List.filterMap_append, List.filterMap_congr earlier]
  cases drawn : indicator.line (values ++ [value]) with
  | none => simp [whole, drawn]
  | some macdLine => simp [whole, drawn]

theorem lines_length (indicator : MACD α) (ordered : indicator.Ordered) (values : List α) :
    (indicator.lines values).length = values.length + 1 - indicator.slowEma.period := by
  induction values using List.reverseRecOn with
  | nil =>
      have positive := indicator.slowEma.positive
      simp only [lines, List.length_nil, List.range_zero, List.filterMap_nil]
      omega
  | append_singleton values value ih =>
      have silent := line_none indicator ordered (values ++ [value])
      rw [lines_append, List.length_append, ih, List.length_append, List.length_singleton]
      rw [List.length_append, List.length_singleton] at silent
      cases drawn : indicator.line (values ++ [value]) with
      | none =>
          have short := silent.mp drawn
          simp only [Option.toList_none, List.length_nil]
          omega
      | some macdLine =>
          have long := silent.not.mp (by simp [drawn])
          simp only [Option.toList_some, List.length_singleton]
          omega

theorem reading_none (indicator : MACD α) (ordered : indicator.Ordered) (values : List α) :
    indicator.reading values = none ↔
      values.length < indicator.slowEma.period + indicator.signalEma.period - 1 := by
  have positive := indicator.signalEma.positive
  have silent := line_none indicator ordered values
  have counted := lines_length indicator ordered values
  have signalled := EMA.reading_none indicator.signalEma (indicator.lines values)
  rw [reading]
  cases drawn : indicator.line values with
  | none =>
      have short := silent.mp drawn
      simp only [true_iff]
      omega
  | some macdLine =>
      have long := silent.not.mp (by simp [drawn])
      simp only [Option.map_eq_none_iff]
      rw [signalled, counted]
      omega

theorem update_holding (indicator : MACD α) (values : List α) (value : α) :
    (indicator.holding values).update value =
      (indicator.reading (values ++ [value]), indicator.holding (values ++ [value])) := by
  unfold update holding reading
  simp only [EMA.update_holding, lines_append]
  rw [line]
  cases indicator.fastEma.reading (values ++ [value]) with
  | none => simp
  | some fast =>
      cases indicator.slowEma.reading (values ++ [value]) with
      | none => simp
      | some slow => simp

theorem feed_holding (indicator : MACD α) (fresh : indicator.Fresh) (values : List α) :
    feed indicator values = indicator.holding values := by
  refine feed_holds indicator indicator.holding indicator.reading ?_ (update_holding indicator) values
  obtain ⟨fastEma, slowEma, signalEma⟩ := indicator
  obtain ⟨fastFresh, slowFresh, signalFresh⟩ := fresh
  have quick := EMA.feed_holding fastEma fastFresh []
  have steady := EMA.feed_holding slowEma slowFresh []
  have signalled := EMA.feed_holding signalEma signalFresh []
  change MACD.mk fastEma slowEma signalEma =
    MACD.mk (fastEma.holding []) (slowEma.holding []) (signalEma.holding [])
  rw [← quick, ← steady, ← signalled]
  rfl

theorem peek_holding (indicator : MACD α) (ordered : indicator.Ordered) (values : List α) (value : α) :
    (indicator.holding values).peekProvisional value =
      if values.length < indicator.slowEma.period + indicator.signalEma.period - 1 then none
      else indicator.reading (values ++ [value]) := by
  have ordered' : indicator.fastEma.period < indicator.slowEma.period := ordered
  have positive := indicator.signalEma.positive
  have counted := lines_length indicator ordered values
  rw [peekProvisional, holding, reading]
  simp only [EMA.peek_holding, lines_append]
  by_cases short : values.length < indicator.slowEma.period
  · have early : values.length < indicator.slowEma.period + indicator.signalEma.period - 1 := by omega
    rw [if_pos short, if_pos early]
    simp
  · have warm : ¬ values.length < indicator.fastEma.period := by omega
    rw [if_neg short, if_neg warm]
    rw [line]
    cases indicator.fastEma.reading (values ++ [value]) with
    | none => simp
    | some fast =>
        cases indicator.slowEma.reading (values ++ [value]) with
        | none => simp
        | some slow =>
            simp only [Option.toList_some, counted]
            by_cases early : values.length + 1 - indicator.slowEma.period < indicator.signalEma.period
            · rw [if_pos early, if_pos (by omega), Option.map_none]
            · rw [if_neg early, if_neg (by omega)]

theorem create_fresh (fastPeriod slowPeriod signalPeriod : ℤ) (indicator : MACD α)
    (created : create fastPeriod slowPeriod signalPeriod = .ok indicator) :
    fastPeriod < slowPeriod ∧ EMA.create fastPeriod none = .ok indicator.fastEma ∧
      EMA.create slowPeriod none = .ok indicator.slowEma ∧ EMA.create signalPeriod none = .ok indicator.signalEma := by
  rw [create] at created
  split_ifs at created with refused
  obtain ⟨fastEma, quick, created⟩ := bind_ok _ _ _ created
  obtain ⟨slowEma, steady, created⟩ := bind_ok _ _ _ created
  obtain ⟨signalEma, signalled, created⟩ := bind_ok _ _ _ created
  cases created
  exact ⟨by omega, quick, steady, signalled⟩

end MACD

theorem ema_peek_agrees (period : ℤ) (alpha : Option α) (indicator : EMA α)
    (created : EMA.create period alpha = .ok indicator) (values : List α) (value : α) :
    PeekAgrees (feed indicator values) value ↔ (values.length : ℤ) + 1 ≠ period := by
  obtain ⟨fresh, counted, _⟩ := EMA.create_fresh period alpha indicator created
  rw [EMA.feed_holding indicator fresh, late_peek_agrees (indicator.holding values) indicator.reading indicator.period
    values value (EMA.reading_none indicator _) (congrArg Prod.fst (EMA.update_holding indicator values value))
    (EMA.peek_holding indicator values value)]
  omega

theorem rsi_peek_agrees (period : ℤ) (indicator : RSI α) (created : RSI.create period = .ok indicator)
    (values : List α) (value : α) :
    PeekAgrees (feed indicator values) value ↔ (values.length : ℤ) ≠ period := by
  obtain ⟨fresh, positive, gaining, losing⟩ := RSI.create_fresh period indicator created
  have gained := (EMA.create_fresh period _ _ gaining).2.1
  have lost := (EMA.create_fresh period _ _ losing).2.1
  have paired : indicator.gainSmoother.period = period.toNat ∧ indicator.lossSmoother.period = period.toNat := by
    omega
  rw [RSI.feed_holding indicator fresh, late_peek_agrees (indicator.holding values) indicator.reading (period.toNat + 1)
    values value (RSI.reading_none indicator _ _ (by omega) paired)
    (congrArg Prod.fst (RSI.update_holding indicator values value)) (RSI.peek_holding indicator values value _ paired)]
  omega

theorem macd_peek_agrees (fastPeriod slowPeriod signalPeriod : ℤ) (indicator : MACD α)
    (created : MACD.create fastPeriod slowPeriod signalPeriod = .ok indicator) (values : List α) (value : α) :
    PeekAgrees (feed indicator values) value ↔ (values.length : ℤ) + 2 ≠ slowPeriod + signalPeriod := by
  obtain ⟨below, quick, steady, signalled⟩ := MACD.create_fresh fastPeriod slowPeriod signalPeriod indicator created
  obtain ⟨fastFresh, fastCounted, _⟩ := EMA.create_fresh _ _ _ quick
  obtain ⟨slowFresh, slowCounted, _⟩ := EMA.create_fresh _ _ _ steady
  obtain ⟨signalFresh, signalCounted, _⟩ := EMA.create_fresh _ _ _ signalled
  have ordered : indicator.fastEma.period < indicator.slowEma.period := by omega
  have positive := indicator.signalEma.positive
  rw [MACD.feed_holding indicator ⟨fastFresh, slowFresh, signalFresh⟩, late_peek_agrees (indicator.holding values)
    indicator.reading (indicator.slowEma.period + indicator.signalEma.period - 1) values value
    (MACD.reading_none indicator ordered _) (congrArg Prod.fst (MACD.update_holding indicator values value))
    (MACD.peek_holding indicator ordered values value)]
  omega

theorem peek_is_update_past_seed :
    (∀ (period : ℤ) (alpha : Option α) (indicator : EMA α), EMA.create period alpha = .ok indicator →
      ∀ calls value, PeekAgrees (after indicator calls) value ↔ ((committed calls).length : ℤ) + 1 ≠ period) ∧
    (∀ (period : ℤ) (indicator : WMA α), WMA.create period = .ok indicator →
      ∀ calls value, PeekAgrees (after indicator calls) value) ∧
    (∀ (period : ℤ) (indicator : RSI α), RSI.create period = .ok indicator →
      ∀ calls value, PeekAgrees (after indicator calls) value ↔ ((committed calls).length : ℤ) ≠ period) ∧
    (∀ (fast slow signal : ℤ) (indicator : MACD α), MACD.create fast slow signal = .ok indicator →
      ∀ calls value, PeekAgrees (after indicator calls) value ↔
        ((committed calls).length : ℤ) + 2 ≠ slow + signal) ∧
    (∀ (period : ℤ) (indicator : SupportResistance α), SupportResistance.create period = .ok indicator →
      ∀ calls value, PeekAgrees (after indicator calls) value) ∧
    (∀ (σ ρ : Type) [IIndicator σ α ρ] (indicator : σ) (calls : List (IndicatorCall α)),
      after indicator calls = after indicator ((committed calls).map .update) ∧
        updateReadings indicator calls = updateReadings indicator ((committed calls).map .update)) := by
  refine ⟨?_, ?_, ?_, ?_, ?_, ?_⟩
  · intro period alpha indicator created calls value
    rw [after_committed]
    exact ema_peek_agrees period alpha indicator created (committed calls) value
  · intro period indicator _ calls value
    exact WMA.peek_update (after indicator calls) value
  · intro period indicator created calls value
    rw [after_committed]
    exact rsi_peek_agrees period indicator created (committed calls) value
  · intro fast slow signal indicator created calls value
    rw [after_committed]
    exact macd_peek_agrees fast slow signal indicator created (committed calls) value
  · intro period indicator _ calls value
    exact SupportResistance.peek_update (after indicator calls) value
  · intro σ ρ _ indicator calls
    have again : committed ((committed calls).map .update) = committed calls := by
      simp [committed, List.filterMap_map, Function.comp_def, IndicatorCall.committed]
    refine ⟨?_, readings_committed indicator calls⟩
    rw [after_committed, after_committed, again]

theorem peek_is_update_past_seed_three_bars :
    ∃ (average : EMA ℚ) (oscillator : MACD ℚ), EMA.create 2 none = .ok average ∧ MACD.create 1 2 2 = .ok oscillator ∧
      PeekAgrees (after average [.update 10, .peek 30, .update 12]) 20 ∧
      ¬ PeekAgrees (after oscillator [.update 10, .peek 30, .update 12]) 20 := by
  obtain ⟨averages, _, _, oscillators, _⟩ := peek_is_update_past_seed (α := ℚ)
  refine ⟨_, _, rfl, rfl, (averages 2 none _ rfl _ _).mpr (by decide), ?_⟩
  intro agrees
  exact (oscillators 1 2 2 _ rfl _ _).mp agrees (by decide)

-- A two-bar EMA with one bar committed is complete with the bar it peeks at.
theorem peek_misses_seed_bar :
    ∃ indicator : EMA ℚ, EMA.create 2 none = .ok indicator ∧
      IIndicator.peekProvisional (after indicator [.update 10]) 20 = none ∧
      (IIndicator.update (after indicator [.update 10]) 20).1 = some 15 ∧
      ¬ PeekAgrees (after indicator [.update 10]) 20 := by
  refine ⟨EMA.build 2 (by decide), rfl, rfl, by decide +kernel, ?_⟩
  rw [PeekAgrees]
  decide

end Sagittarius
