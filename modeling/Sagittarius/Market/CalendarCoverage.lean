import Mathlib.Algebra.Order.Group.Basic
import Sagittarius.Library.Calendar
import Sagittarius.Market.DataGaps

set_option autoImplicit false

namespace Sagittarius

variable {α : Type}

def day : ℤ := 86400000000

-- When the exchange opens its candles: weeks on Mondays, months on the first,
-- all others on the multiples of their interval.
def candleOpen (interval : TimeFrame) (candle : ℤ) : ℤ :=
  match interval with
  | .oneWeek => (4 + 7 * candle) * day
  | .oneMonth => Calendar.monthStart candle * day
  | _ => candle * interval.cadence

def exchangeTimes (interval : TimeFrame) (first past : ℤ) : List (ℤ × ℤ) :=
  (Spacing.range first past 1).map fun candle => (candleOpen interval candle, candleOpen interval (candle + 1) - 1000)

def Successive (interval : TimeFrame) (first past : ℤ) (rows : List (MarketData α)) : Prop :=
  (rows.map fun row => (row.openTime, row.closeTime)).Perm (exchangeTimes interval first past)

def FromStart (interval : TimeFrame) (startTime : Option ℤ) (first candle : ℤ) : Prop :=
  match startTime with
  | none => first ≤ candle
  | some startTime => startTime ≤ candleOpen interval candle

-- The rows are successive candles of the exchange, and none that opens in the
-- range is left out.
structure HoldsRange (interval : TimeFrame) (startTime : Option ℤ) (endTime now first past : ℤ)
    (rows : List (MarketData α)) : Prop where
  successive : Successive interval first past rows
  complete : ∀ candle, FromStart interval startTime first candle → candleOpen interval candle < min endTime now →
    first ≤ candle ∧ candle < past

structure RecognisedComplete (table : KlineTable α) (symbol : String) (interval : TimeFrame)
    (klines : List (MarketData α)) (startTime : Option ℤ) (endTime now : ℤ) : Prop where
  covered : (evaluateBacktestRangeCoverage klines interval startTime endTime now).isFullyCovered = true
  unbroken : table.getGaps symbol interval = []

def IsStored (interval : TimeFrame) (first past time : ℤ) : Prop :=
  ∃ candle, first ≤ candle ∧ candle < past ∧ candleOpen interval candle = time

def rangeStart (interval : TimeFrame) (startTime : Option ℤ) (first : ℤ) : ℤ :=
  match startTime with
  | none => candleOpen interval first
  | some startTime => ceilOpenTime startTime interval.toSeconds

-- When complete data is recognised: weeks only without a start and once the week
-- around the end is over, months only if at most two are stored, the first of at
-- most 30 days, and steps of 30 days from the start meet no other day.
def Recognisable (interval : TimeFrame) (startTime : Option ℤ) (endTime now first past : ℤ) : Prop :=
  let start := rangeStart interval startTime first
  let closedEnd := floorOpenTime (min endTime now) interval.toSeconds
  first < past ∧ start < closedEnd ∧
    match interval with
    | .oneWeek => startTime = none ∧ closedEnd + 4 * day ≤ now + 1000
    | .oneMonth =>
        (past = first + 1 ∨ past = first + 2 ∧ Calendar.monthLength first ≤ 30) ∧
          IsStored .oneMonth first past start ∧
          (closedEnd ≤ start + 30 * day ∨ closedEnd ≤ start + 60 * day ∧ IsStored .oneMonth first past (start + 30 * day)) ∧
          ∀ month, first ≤ month → month < past → start ≤ candleOpen .oneMonth month →
            candleOpen .oneMonth month < closedEnd → candleOpen .oneMonth (month + 1) ≤ now + 1000
    | _ =>
        (∀ time ∈ startTime, time ≤ start ∨ IsStored interval first past start) ∧ closedEnd ≤ now + 1000

section Candles

variable (interval : TimeFrame)

theorem candle_open_fixed (candle : ℤ) (notWeek : interval ≠ .oneWeek) (notMonth : interval ≠ .oneMonth) :
    candleOpen interval candle = candle * interval.cadence := by
  cases interval with
  | oneWeek => exact absurd rfl notWeek
  | oneMonth => exact absurd rfl notMonth
  | _ => rfl

theorem candle_open_step (candle : ℤ) : candleOpen interval candle < candleOpen interval (candle + 1) := by
  by_cases isWeek : interval = .oneWeek
  · subst isWeek
    rw [candleOpen, candleOpen, day]
    omega
  · by_cases isMonth : interval = .oneMonth
    · subst isMonth
      have longer := (Calendar.month_length_bounds candle).1
      rw [Calendar.monthLength] at longer
      rw [candleOpen, candleOpen, day]
      omega
    · have positive := cadence_positive interval
      rw [candle_open_fixed interval _ isWeek isMonth, candle_open_fixed interval _ isWeek isMonth, add_mul]
      omega

theorem candle_open_lt (a b : ℤ) : candleOpen interval a < candleOpen interval b ↔ a < b :=
  (strictMono_int_of_lt_succ (candle_open_step interval)).lt_iff_lt

theorem candle_open_le (a b : ℤ) : candleOpen interval a ≤ candleOpen interval b ↔ a ≤ b :=
  (strictMono_int_of_lt_succ (candle_open_step interval)).le_iff_le

theorem candle_open_injective (a b : ℤ) (same : candleOpen interval a = candleOpen interval b) : a = b :=
  (strictMono_int_of_lt_succ (candle_open_step interval)).injective same

theorem candle_open_seconds (candle : ℤ) : 1000000 ∣ candleOpen interval candle := by
  by_cases isWeek : interval = .oneWeek
  · subst isWeek
    exact Dvd.dvd.mul_left (by decide) _
  · by_cases isMonth : interval = .oneMonth
    · subst isMonth
      exact Dvd.dvd.mul_left (by decide) _
    · rw [candle_open_fixed interval _ isWeek isMonth, TimeFrame.cadence, ← mul_assoc]
      exact Int.dvd_mul_left _ _

theorem wider_candles (before after : ℤ) :
    widerThan interval.toSeconds (candleOpen interval before) (candleOpen interval after) = true ↔
      interval.cadence < candleOpen interval after - candleOpen interval before := by
  have secondsBefore := candle_open_seconds interval before
  have secondsAfter := candle_open_seconds interval after
  rw [widerThan, unixepoch, unixepoch, decide_eq_true_eq, TimeFrame.cadence]
  omega

end Candles

section Covered

variable (klines : List (MarketData α)) (interval : TimeFrame) (startTime : Option ℤ) (endTime now : ℤ)

theorem scoped_iff (start closedEnd : ℤ) (kline : MarketData α) :
    kline ∈ scopedKlines klines (some start) closedEnd ↔
      kline ∈ klines ∧ start ≤ kline.openTime ∧ kline.openTime < closedEnd := by
  have listed : kline ∈ chronological klines ↔ kline ∈ klines := (KeyedRows.oldest_perm MarketData.openTime klines).mem_iff
  rw [scopedKlines, List.mem_filter, listed, Option.any_some, Bool.and_eq_true, decide_eq_true_eq, decide_eq_true_eq]

theorem of_scoped_iff (start closedEnd : ℤ) (distinct : (opensOf klines).Nodup) (startSeconds : 1000000 ∣ start)
    (endSeconds : 1000000 ∣ closedEnd) :
    (BacktestRangeCoverage.ofScoped (scopedKlines klines (some start) closedEnd) interval start closedEnd
        now).isFullyCovered = true ↔
      (∀ time, interval.cadence ∣ time - start → start ≤ time → time < closedEnd → time ∈ opensOf klines) ∧
        ∀ kline ∈ klines, start ≤ kline.openTime → kline.openTime < closedEnd → kline.closeTime ≤ now := by
  have noneTwice : (opensOf (scopedKlines klines (some start) closedEnd)).Nodup :=
    ((opens_perm klines).nodup_iff.mp distinct).sublist (List.filter_sublist.map _)
  have expected := expected_iff interval start closedEnd startSeconds endSeconds
  rw [expectedOpens] at expected
  rw [BacktestRangeCoverage.ofScoped, List.dedup_eq_self.mpr noneTwice]
  simp only [sub_self, decide_true, Bool.and_true, Bool.and_eq_true, List.isEmpty_iff, List.filter_eq_nil_iff,
    decide_eq_true_eq, not_not, Bool.not_eq_true', List.any_eq_false, not_lt]
  have atOpen : ∀ time, time ∈ opensOf (scopedKlines klines (some start) closedEnd) ↔
      time ∈ opensOf klines ∧ start ≤ time ∧ time < closedEnd := by
    intro time
    rw [opensOf, List.mem_map, opensOf, List.mem_map]
    constructor
    · intro inScope
      obtain ⟨kline, isKline, rfl⟩ := inScope
      obtain ⟨held, bounds⟩ := (scoped_iff klines start closedEnd kline).mp isKline
      exact ⟨⟨kline, held, rfl⟩, bounds⟩
    · intro bounded
      obtain ⟨⟨kline, held, rfl⟩, bounds⟩ := bounded
      exact ⟨kline, (scoped_iff klines start closedEnd kline).mpr ⟨held, bounds⟩, rfl⟩
  refine and_congr ?_ ?_
  · constructor
    · intro present time onStep atLeast before
      exact ((atOpen time).mp (present time ((expected time).mpr ⟨onStep, atLeast, before⟩))).1
    · intro present time inside
      obtain ⟨onStep, atLeast, before⟩ := (expected time).mp inside
      exact (atOpen time).mpr ⟨present time onStep atLeast before, atLeast, before⟩
  · constructor
    · intro closed kline held atLeast before
      exact closed kline ((scoped_iff klines start closedEnd kline).mpr ⟨held, atLeast, before⟩)
    · intro closed kline inScope
      obtain ⟨held, atLeast, before⟩ := (scoped_iff klines start closedEnd kline).mp inScope
      exact closed kline held atLeast before

theorem cadence_seconds : (1000000 : ℤ) ∣ interval.cadence := Int.dvd_mul_left _ _

theorem fully_covered_iff (distinct : (opensOf klines).Nodup) (seconds : ∀ kline ∈ klines, 1000000 ∣ kline.openTime) :
    let closedEnd := floorOpenTime (min endTime now) interval.toSeconds
    (evaluateBacktestRangeCoverage klines interval startTime endTime now).isFullyCovered = true ↔
      ∃ start, requestedStart startTime (opensOf (chronological klines)).head? interval = some start ∧
        start < closedEnd ∧
        (∀ time, interval.cadence ∣ time - start → start ≤ time → time < closedEnd → time ∈ opensOf klines) ∧
        ∀ kline ∈ klines, start ≤ kline.openTime → kline.openTime < closedEnd → kline.closeTime ≤ now := by
  intro closedEnd
  have endSeconds := dvd_trans (cadence_seconds interval) (floor_aligned (min endTime now) interval)
  rw [evaluateBacktestRangeCoverage]
  cases isStart : requestedStart startTime (opensOf (chronological klines)).head? interval with
  | none =>
      refine iff_of_false (by simp [BacktestRangeCoverage.ofEmptyScope]) fun found => ?_
      obtain ⟨start, none, _⟩ := found
      cases none
  | some start =>
      have startSeconds : 1000000 ∣ start := by
        cases startTime with
        | some startTime =>
            cases isStart
            exact dvd_trans (cadence_seconds interval) (ceil_aligned startTime interval)
        | none =>
            obtain ⟨kline, isKline, rfl⟩ := List.mem_map.mp (List.mem_of_head? isStart)
            exact seconds kline ((KeyedRows.oldest_perm MarketData.openTime klines).mem_iff.mp isKline)
      change (if closedEnd ≤ start then BacktestRangeCoverage.ofEmptyScope (scopedKlines klines (some start) closedEnd) now
        else .ofScoped (scopedKlines klines (some start) closedEnd) interval start closedEnd now).isFullyCovered = true ↔ _
      by_cases empty : closedEnd ≤ start
      · rw [if_pos empty]
        refine iff_of_false (by simp [BacktestRangeCoverage.ofEmptyScope]) fun found => ?_
        obtain ⟨_, same, early, _⟩ := found
        cases same
        omega
      · rw [if_neg empty, of_scoped_iff klines interval now start closedEnd distinct startSeconds endSeconds]
        constructor
        · intro both
          exact ⟨start, rfl, not_le.mp empty, both⟩
        · intro found
          obtain ⟨_, same, _, both⟩ := found
          cases same
          exact both

end Covered

section Successive

variable (interval : TimeFrame) (first past : ℤ)

theorem exchange_times_mem (pair : ℤ × ℤ) :
    pair ∈ exchangeTimes interval first past ↔ ∃ candle, first ≤ candle ∧ candle < past ∧
      (candleOpen interval candle, candleOpen interval (candle + 1) - 1000) = pair := by
  rw [exchangeTimes, List.mem_map]
  constructor
  · intro listed
    obtain ⟨candle, inside, same⟩ := listed
    obtain ⟨_, low, high⟩ := (Spacing.range_iff first past 1 (by decide) candle).mp inside
    exact ⟨candle, low, high, same⟩
  · intro found
    obtain ⟨candle, low, high, same⟩ := found
    exact ⟨candle, (Spacing.range_iff first past 1 (by decide) candle).mpr ⟨one_dvd _, low, high⟩, same⟩

variable (klines : List (MarketData α)) (successive : Successive interval first past klines)

include successive

theorem kline_candle (kline : MarketData α) (isKline : kline ∈ klines) :
    ∃ candle, first ≤ candle ∧ candle < past ∧ candleOpen interval candle = kline.openTime ∧
      candleOpen interval (candle + 1) - 1000 = kline.closeTime := by
  have times := successive.mem_iff.mp (List.mem_map_of_mem isKline)
  obtain ⟨candle, low, high, same⟩ := (exchange_times_mem interval first past _).mp times
  exact ⟨candle, low, high, congrArg Prod.fst same, congrArg Prod.snd same⟩

theorem candle_kline (candle : ℤ) (low : first ≤ candle) (high : candle < past) :
    ∃ kline ∈ klines, kline.openTime = candleOpen interval candle ∧
      kline.closeTime = candleOpen interval (candle + 1) - 1000 := by
  have times := (exchange_times_mem interval first past _).mpr ⟨candle, low, high, rfl⟩
  obtain ⟨kline, isKline, same⟩ := List.mem_map.mp (successive.mem_iff.mpr times)
  exact ⟨kline, isKline, congrArg Prod.fst same, congrArg Prod.snd same⟩

theorem opens_stored (time : ℤ) : time ∈ opensOf klines ↔ IsStored interval first past time := by
  rw [opensOf, List.mem_map]
  constructor
  · intro listed
    obtain ⟨kline, isKline, rfl⟩ := listed
    obtain ⟨candle, low, high, opens, _⟩ := kline_candle interval first past klines successive kline isKline
    exact ⟨candle, low, high, opens⟩
  · intro stored
    obtain ⟨candle, low, high, rfl⟩ := stored
    obtain ⟨kline, isKline, opens, _⟩ := candle_kline interval first past klines successive candle low high
    exact ⟨kline, isKline, opens⟩

theorem chronological_stored (time : ℤ) :
    time ∈ opensOf (chronological klines) ↔ IsStored interval first past time := by
  rw [← (opens_perm klines).mem_iff, opens_stored interval first past klines successive]

theorem klines_seconds (kline : MarketData α) (isKline : kline ∈ klines) : 1000000 ∣ kline.openTime := by
  obtain ⟨candle, _, _, opens, _⟩ := kline_candle interval first past klines successive kline isKline
  rw [← opens]
  exact candle_open_seconds interval candle

variable (distinct : (opensOf klines).Nodup)

include distinct

omit successive in
theorem chronological_increasing : (opensOf (chronological klines)).Pairwise fun a b => a < b :=
  List.pairwise_map.mpr (KeyedRows.oldest_ascending MarketData.openTime klines distinct)

theorem requested_start (startTime : Option ℤ) (stored : first < past) :
    requestedStart startTime (opensOf (chronological klines)).head? interval = some (rangeStart interval startTime first) := by
  cases startTime with
  | some startTime => rfl
  | none =>
      refine Spacing.head_least _ _ (chronological_increasing klines distinct) ⟨?_, ?_⟩
      · exact (chronological_stored interval first past klines successive _).mpr ⟨first, le_refl first, stored, rfl⟩
      · intro time inside
        obtain ⟨candle, low, _, rfl⟩ := (chronological_stored interval first past klines successive time).mp inside
        exact (candle_open_le interval _ _).mpr low

theorem neighbour_candles (pair : ℤ × ℤ) :
    pair ∈ Spacing.neighbours (opensOf (chronological klines)) ↔ ∃ candle, first ≤ candle ∧ candle + 1 < past ∧
      (candleOpen interval candle, candleOpen interval (candle + 1)) = pair := by
  have stored := chronological_stored interval first past klines successive
  have neighbours := Spacing.neighbours_iff _ (chronological_increasing klines distinct)
  constructor
  · intro isNeighbour
    obtain ⟨fst, snd, less, apart⟩ := (neighbours pair.1 pair.2).mp isNeighbour
    obtain ⟨before, low, _, isBefore⟩ := (stored pair.1).mp fst
    obtain ⟨after, _, high, isAfter⟩ := (stored pair.2).mp snd
    rw [← isBefore, ← isAfter] at less apart
    have rises := (candle_open_lt interval _ _).mp less
    have next := apart _ ((stored _).mpr ⟨before + 1, by omega, by omega, rfl⟩)
    rw [candle_open_le, candle_open_le] at next
    have adjacent : after = before + 1 := by omega
    subst adjacent
    exact ⟨before, low, high, Prod.ext isBefore isAfter⟩
  · intro inRow
    obtain ⟨candle, low, high, rfl⟩ := inRow
    refine (neighbours _ _).mpr ⟨(stored _).mpr ⟨candle, low, by omega, rfl⟩,
      (stored _).mpr ⟨candle + 1, by omega, high, rfl⟩, candle_open_step interval candle, fun time inside => ?_⟩
    obtain ⟨other, _, _, rfl⟩ := (stored time).mp inside
    rw [candle_open_le, candle_open_le]
    omega

theorem gap_bounds_none_iff :
    gapBounds interval.toSeconds klines = [] ↔
      ∀ candle, first ≤ candle → candle + 1 < past →
        candleOpen interval (candle + 1) - candleOpen interval candle ≤ interval.cadence := by
  have neighbours := neighbour_candles interval first past klines successive distinct
  rw [gap_bounds_neighbours, List.filter_eq_nil_iff]
  constructor
  · intro none candle low high
    have close := none _ ((neighbours _).mpr ⟨candle, low, high, rfl⟩)
    rw [wider_candles] at close
    exact not_lt.mp close
  · intro spaced pair isNeighbour
    obtain ⟨candle, low, high, rfl⟩ := (neighbours pair).mp isNeighbour
    rw [wider_candles]
    exact not_lt.mpr (spaced candle low high)

end Successive

section Rounded

variable (interval : TimeFrame)

theorem before_end (value time : ℤ) (seconds : 1000000 ∣ time) (early : time < floorOpenTime value interval.toSeconds) :
    time < value := by
  have below := Int.ediv_mul_le (timestamp value) (seconds_positive interval).ne'
  have truncated := (timestamp_near value).1
  rw [floorOpenTime, fromtimestamp] at early
  omega

theorem start_near (time : ℤ) : time < ceilOpenTime time interval.toSeconds + 1000000 := by
  have positive := seconds_positive interval
  have above := Int.lt_ediv_add_one_mul_self (timestamp time + interval.toSeconds - 1) positive
  have truncated := (timestamp_near time).2
  rw [Int.add_mul, Int.one_mul] at above
  rw [ceilOpenTime, fromtimestamp]
  omega

end Rounded

section Recognised

variable (table : KlineTable α) (symbol : String) (interval : TimeFrame) (startTime : Option ℤ)
  (endTime now first past : ℤ) (klines : List (MarketData α)) (loaded : klines.Perm (table.pairRows symbol interval))
  (successive : Successive interval first past (table.pairRows symbol interval))

structure Accepts (interval : TimeFrame) (start closedEnd now first past : ℤ) : Prop where
  present : ∀ time, interval.cadence ∣ time - start → start ≤ time → time < closedEnd → IsStored interval first past time
  closed : ∀ candle, first ≤ candle → candle < past → start ≤ candleOpen interval candle →
    candleOpen interval candle < closedEnd → candleOpen interval (candle + 1) ≤ now + 1000
  spaced : ∀ candle, first ≤ candle → candle + 1 < past →
    candleOpen interval (candle + 1) - candleOpen interval candle ≤ interval.cadence

include loaded successive

theorem recognised_iff :
    let start := rangeStart interval startTime first
    let closedEnd := floorOpenTime (min endTime now) interval.toSeconds
    RecognisedComplete table symbol interval klines startTime endTime now ↔
      first < past ∧ start < closedEnd ∧ Accepts interval start closedEnd now first past := by
  intro start closedEnd
  have distinctRows := table.pair_distinct symbol interval
  have distinct : (opensOf klines).Nodup := (loaded.map _).nodup_iff.mpr distinctRows
  have successiveKlines : Successive interval first past klines := (loaded.map _).trans successive
  have seconds := klines_seconds interval first past klines successiveKlines
  have stored := opens_stored interval first past klines successiveKlines
  have covered := fully_covered_iff klines interval startTime endTime now distinct seconds
  have unbroken : table.getGaps symbol interval = [] ↔ gapBounds interval.toSeconds (table.pairRows symbol interval) = [] := by
    rw [KlineTable.getGaps, List.map_eq_nil_iff]
  have spaced := unbroken.trans (gap_bounds_none_iff interval first past _ successive distinctRows)
  have begins := requested_start interval first past klines successiveKlines distinct startTime
  constructor
  · intro recognised
    obtain ⟨found, isStart, early, present, closed⟩ := covered.mp recognised.covered
    obtain ⟨candle, low, high, _⟩ := (stored found).mp (present found (by simp) (le_refl found) early)
    rw [begins (by omega)] at isStart
    cases isStart
    refine ⟨by omega, early, fun time onStep atLeast before => (stored time).mp (present time onStep atLeast before), ?_,
      spaced.mp recognised.unbroken⟩
    intro candle low high atLeast before
    obtain ⟨kline, isKline, opens, closes⟩ := candle_kline interval first past klines successiveKlines candle low high
    rw [← opens] at atLeast before
    have hasClosed := closed kline isKline atLeast before
    omega
  · intro accepted
    obtain ⟨nonempty, early, accepts⟩ := accepted
    refine ⟨covered.mpr ⟨start, begins nonempty, early, ?_, ?_⟩, spaced.mpr accepts.spaced⟩
    · intro time onStep atLeast before
      exact (stored time).mpr (accepts.present time onStep atLeast before)
    · intro kline isKline atLeast before
      obtain ⟨candle, low, high, opens, closes⟩ := kline_candle interval first past klines successiveKlines kline isKline
      rw [← opens] at atLeast before
      have hasClosed := accepts.closed candle low high atLeast before
      omega

end Recognised

theorem month_spacing (month : ℤ) :
    candleOpen .oneMonth (month + 1) - candleOpen .oneMonth month = Calendar.monthLength month * day := by
  rw [Calendar.monthLength, sub_mul]
  rfl

theorem months_spaced_iff (first past : ℤ) (stored : first < past) :
    (∀ month, first ≤ month → month + 1 < past →
        candleOpen .oneMonth (month + 1) - candleOpen .oneMonth month ≤ TimeFrame.cadence .oneMonth) ↔
      past = first + 1 ∨ past = first + 2 ∧ Calendar.monthLength first ≤ 30 := by
  have cadence : TimeFrame.cadence .oneMonth = 30 * day := rfl
  constructor
  · intro spaced
    have within : ∀ month, first ≤ month → month + 1 < past → Calendar.monthLength month ≤ 30 := by
      intro month low high
      have close := spaced month low high
      rw [month_spacing, cadence] at close
      exact le_of_mul_le_mul_right close (by decide)
    by_cases single : past = first + 1
    · exact .inl single
    · have short := within first (le_refl first) (by omega)
      have long := Calendar.long_after_short first short
      by_cases more : first + 2 < past
      · have shortToo := within (first + 1) (by omega) (by omega)
        omega
      · exact .inr ⟨by omega, short⟩
  · intro few month low high
    have isFirst : month = first ∧ Calendar.monthLength first ≤ 30 := by omega
    obtain ⟨rfl, short⟩ := isFirst
    rw [month_spacing, cadence]
    exact mul_le_mul_of_nonneg_right short (by decide)

section Kinds

variable (interval : TimeFrame) (startTime : Option ℤ) (endTime now first past : ℤ)
  (complete : ∀ candle, FromStart interval startTime first candle → candleOpen interval candle < min endTime now →
    first ≤ candle ∧ candle < past)

include complete

theorem stored_before_end (candle : ℤ) (fromStart : FromStart interval startTime first candle)
    (early : candleOpen interval candle < floorOpenTime (min endTime now) interval.toSeconds) :
    IsStored interval first past (candleOpen interval candle) := by
  have opened := before_end interval (min endTime now) _ (candle_open_seconds interval candle) early
  obtain ⟨low, high⟩ := complete candle fromStart opened
  exact ⟨candle, low, high, rfl⟩

variable (start closedEnd : ℤ) (isStart : start = rangeStart interval startTime first)
  (isEnd : closedEnd = floorOpenTime (min endTime now) interval.toSeconds) (early : start < closedEnd)

include isStart isEnd early

theorem accepts_fixed (notWeek : interval ≠ .oneWeek) (notMonth : interval ≠ .oneMonth) :
    Accepts interval start closedEnd now first past ↔
      (∀ time ∈ startTime, time ≤ start ∨ IsStored interval first past start) ∧ closedEnd ≤ now + 1000 := by
  have opens : ∀ candle, candleOpen interval candle = candle * interval.cadence :=
    fun candle => candle_open_fixed interval candle notWeek notMonth
  have positive := cadence_positive interval
  have alignedEnd : interval.cadence ∣ closedEnd := isEnd ▸ floor_aligned (min endTime now) interval
  have alignedStart : interval.cadence ∣ start := by
    rw [isStart]
    cases startTime with
    | none => exact ⟨first, (opens first).trans (mul_comm _ _)⟩
    | some startTime => exact ceil_aligned startTime interval
  obtain ⟨ending, endOf⟩ := alignedEnd
  have atEnd : candleOpen interval ending = closedEnd := by rw [opens, endOf, mul_comm]
  constructor
  · intro accepts
    have stored := accepts.present start (by simp) (le_refl start) early
    refine ⟨fun time _ => .inr stored, ?_⟩
    have reach := Spacing.step_le start closedEnd alignedStart ⟨ending, endOf⟩ early
    obtain ⟨candle, low, high, isLast⟩ := accepts.present (closedEnd - interval.cadence)
      (Int.dvd_sub (Int.dvd_sub ⟨ending, endOf⟩ (Int.dvd_refl _)) alignedStart) (by omega) (by omega)
    have hasClosed := accepts.closed candle low high (by omega) (by omega)
    rw [opens] at isLast
    rw [opens, add_mul] at hasClosed
    omega
  · intro held
    obtain ⟨startHeld, hasClosed⟩ := held
    refine ⟨fun time onStep atLeast before => ?_, fun candle _ _ _ before => ?_, fun candle _ _ => ?_⟩
    · obtain ⟨candle, isCandle⟩ := (dvd_sub_left alignedStart).mp onStep
      have isOpen : candleOpen interval candle = time := by rw [opens, isCandle, mul_comm]
      have ofStart : FromStart interval startTime first candle → IsStored interval first past time := by
        intro fromStart
        rw [← isOpen]
        exact stored_before_end interval startTime endTime now first past complete candle fromStart (by omega)
      cases startTime with
      | none =>
          rw [isStart, rangeStart, ← isOpen] at atLeast
          exact ofStart ((candle_open_le interval _ _).mp atLeast)
      | some startTime =>
          rw [FromStart, isOpen] at ofStart
          by_cases atStart : time = start
          · subst atStart
            cases startHeld startTime rfl with
            | inl fromStart => exact ofStart fromStart
            | inr stored => exact stored
          · have near := start_near interval startTime
            have apart := Spacing.step_le start time alignedStart ⟨candle, isCandle⟩ (by omega)
            have second : 1000000 ≤ interval.cadence := Int.le_of_dvd positive (cadence_seconds interval)
            rw [rangeStart] at isStart
            exact ofStart (by omega)
    · rw [← atEnd] at before
      have next := (candle_open_le interval _ _).mpr
        (show candle + 1 ≤ ending from (candle_open_lt interval _ _).mp before)
      omega
    · rw [opens, opens, add_mul]
      omega

theorem accepts_week (isWeek : interval = .oneWeek) :
    Accepts interval start closedEnd now first past ↔ startTime = none ∧ closedEnd + 4 * day ≤ now + 1000 := by
  subst isWeek
  have cadence : TimeFrame.cadence .oneWeek = 7 * day := rfl
  have opens : ∀ week, candleOpen .oneWeek week = (4 + 7 * week) * day := fun week => rfl
  have alignedEnd : TimeFrame.cadence .oneWeek ∣ closedEnd := isEnd ▸ floor_aligned (min endTime now) .oneWeek
  obtain ⟨ending, endOf⟩ := alignedEnd
  rw [cadence] at endOf
  constructor
  · intro accepts
    obtain ⟨week, _, _, isOpen⟩ := accepts.present start (by simp) (le_refl start) early
    cases startTime with
    | some startTime =>
        obtain ⟨thursday, startOf⟩ := ceil_aligned startTime .oneWeek
        rw [rangeStart, startOf, cadence] at isStart
        rw [opens, day] at isOpen
        rw [day] at isStart
        omega
    | none =>
        rw [rangeStart, opens] at isStart
        have isMonday : candleOpen .oneWeek (ending - 1) = closedEnd - 3 * day := by
          rw [opens, endOf]
          ring
        have fromFirst : candleOpen .oneWeek (ending - 1) = start + 7 * day * (ending - 1 - first) := by
          rw [opens, isStart]
          ring
        have ordered : first ≤ ending - 1 := by
          rw [isStart, endOf, day] at early
          omega
        have atLeast : start ≤ candleOpen .oneWeek (ending - 1) := by
          rw [isStart, ← opens]
          exact (candle_open_le .oneWeek _ _).mpr ordered
        have before : candleOpen .oneWeek (ending - 1) < closedEnd := by
          rw [isMonday, day]
          omega
        obtain ⟨last, low, high, isLast⟩ := accepts.present (candleOpen .oneWeek (ending - 1))
          (by rw [fromFirst, cadence]; simp) atLeast before
        rw [candle_open_injective .oneWeek _ _ isLast] at low high
        have hasClosed := accepts.closed (ending - 1) low high atLeast before
        have isNext : candleOpen .oneWeek (ending - 1 + 1) = closedEnd + 4 * day := by
          rw [opens, endOf]
          ring
        exact ⟨rfl, isNext ▸ hasClosed⟩
  · intro both
    obtain ⟨rfl, hasClosed⟩ := both
    rw [rangeStart] at isStart
    refine ⟨fun time onStep atLeast before => ?_, fun week _ _ _ before => ?_, fun week _ _ => ?_⟩
    · obtain ⟨steps, isSteps⟩ := onStep
      have isOpen : candleOpen .oneWeek (first + steps) = time := by
        rw [cadence, isStart, opens] at isSteps
        rw [opens]
        linear_combination -isSteps
      rw [isStart, ← isOpen] at atLeast
      rw [← isOpen] at before ⊢
      exact stored_before_end .oneWeek none endTime now first past complete (first + steps)
        ((candle_open_le .oneWeek _ _).mp atLeast) (isEnd ▸ before)
    · rw [opens, endOf, day] at before
      rw [endOf, day] at hasClosed
      rw [opens, day]
      omega
    · have same : candleOpen .oneWeek (week + 1) - candleOpen .oneWeek week = TimeFrame.cadence .oneWeek := by
        rw [opens, opens, cadence]
        ring
      exact same.le

omit complete isStart isEnd in
theorem accepts_month :
    Accepts .oneMonth start closedEnd now first past ↔
      (past = first + 1 ∨ past = first + 2 ∧ Calendar.monthLength first ≤ 30) ∧
        IsStored .oneMonth first past start ∧
        (closedEnd ≤ start + 30 * day ∨ closedEnd ≤ start + 60 * day ∧ IsStored .oneMonth first past (start + 30 * day)) ∧
        ∀ month, first ≤ month → month < past → start ≤ candleOpen .oneMonth month →
          candleOpen .oneMonth month < closedEnd → candleOpen .oneMonth (month + 1) ≤ now + 1000 := by
  have cadence : TimeFrame.cadence .oneMonth = 30 * day := rfl
  constructor
  · intro accepts
    have stored := accepts.present start (by simp) (le_refl start) early
    obtain ⟨month, low, high, isOpen⟩ := stored
    have few := (months_spaced_iff first past (by omega)).mp accepts.spaced
    refine ⟨few, ⟨month, low, high, isOpen⟩, ?_, accepts.closed⟩
    by_cases near : closedEnd ≤ start + 30 * day
    · exact .inl near
    · refine .inr ⟨?_, accepts.present (start + 30 * day) (by simp [cadence]) (by rw [day]; omega) (not_le.mp near)⟩
      by_contra far
      obtain ⟨later, lowToo, highToo, isOpenToo⟩ := accepts.present (start + 60 * day)
        (by rw [cadence]; exact ⟨2, by ring⟩) (by rw [day]; omega) (not_le.mp far)
      have rises : month < later := by
        refine (candle_open_lt .oneMonth _ _).mp ?_
        rw [isOpen, isOpenToo, day]
        omega
      have adjacent : later = month + 1 := by omega
      have apart := month_spacing month
      have longest := (Calendar.month_length_bounds month).2
      rw [← adjacent, isOpen, isOpenToo, day] at apart
      omega
  · intro held
    obtain ⟨few, stored, reach, closed⟩ := held
    refine ⟨fun time onStep atLeast before => ?_, closed, (months_spaced_iff first past (by omega)).mpr few⟩
    obtain ⟨steps, isSteps⟩ := onStep
    rw [cadence] at isSteps
    cases reach with
    | inl near =>
        have same : time = start := by
          rw [day] at near isSteps
          omega
        exact same ▸ stored
    | inr both =>
        obtain ⟨near, storedToo⟩ := both
        have either : time = start ∨ time = start + 30 * day := by
          rw [day] at near isSteps ⊢
          omega
        cases either with
        | inl same => exact same ▸ stored
        | inr same => exact same ▸ storedToo

end Kinds

-- Held in full, a range is recognised as complete exactly as told.
theorem complete_range_recognised_iff (table : KlineTable α) (symbol : String) (interval : TimeFrame)
    (startTime : Option ℤ) (endTime now first past : ℤ) (klines : List (MarketData α))
    (loaded : klines.Perm (table.pairRows symbol interval))
    (holds : HoldsRange interval startTime endTime now first past (table.pairRows symbol interval)) :
    RecognisedComplete table symbol interval klines startTime endTime now ↔
      Recognisable interval startTime endTime now first past := by
  refine (recognised_iff table symbol interval startTime endTime now first past klines loaded holds.successive).trans ?_
  unfold Recognisable
  refine and_congr_right fun _ => and_congr_right fun early => ?_
  by_cases isWeek : interval = .oneWeek
  · have week := accepts_week interval startTime endTime now first past holds.complete _ _ rfl rfl early isWeek
    subst isWeek
    exact week
  · by_cases isMonth : interval = .oneMonth
    · subst isMonth
      exact accepts_month now first past _ _ early
    · have fixed := accepts_fixed interval startTime endTime now first past holds.complete _ _ rfl rfl early isWeek isMonth
      cases interval with
      | oneWeek => exact absurd rfl isWeek
      | oneMonth => exact absurd rfl isMonth
      | _ => exact fixed

def exchangeKline (interval : TimeFrame) (candle : ℤ) : MarketData ℚ :=
  { minuteKline 100 0 with
    interval := interval.value
    openTime := candleOpen interval candle
    closeTime := candleOpen interval (candle + 1) - 1000 }

theorem weeks_keys : (([2817, 2818].map (exchangeKline .oneWeek)).map MarketData.key).Nodup := by decide +kernel

theorem months_keys : (([648, 649, 650].map (exchangeKline .oneMonth)).map MarketData.key).Nodup := by decide +kernel

def weeksTable : KlineTable ℚ where
  rows := [2817, 2818].map (exchangeKline .oneWeek)
  keys := weeks_keys

def monthsTable : KlineTable ℚ where
  rows := [648, 649, 650].map (exchangeKline .oneMonth)
  keys := months_keys

theorem holds_from (interval : TimeFrame) (first past now : ℤ) (rows : List (MarketData α))
    (successive : Successive interval first past rows) :
    HoldsRange interval (some (candleOpen interval first)) (candleOpen interval past) now first past rows where
  successive := successive
  complete _ fromStart early := ⟨(candle_open_le interval _ _).mp fromStart,
    (candle_open_lt interval _ _).mp (early.trans_le (min_le_left _ _))⟩

theorem full_weeks_and_months_refused :
    (HoldsRange .oneWeek (some (candleOpen .oneWeek 2817)) (candleOpen .oneWeek 2819) (candleOpen .oneWeek 2830) 2817 2819
        (weeksTable.pairRows "BTCUSDT" .oneWeek) ∧
      ¬RecognisedComplete weeksTable "BTCUSDT" .oneWeek (weeksTable.pairRows "BTCUSDT" .oneWeek)
        (some (candleOpen .oneWeek 2817)) (candleOpen .oneWeek 2819) (candleOpen .oneWeek 2830)) ∧
      HoldsRange .oneMonth (some (candleOpen .oneMonth 648)) (candleOpen .oneMonth 651) (candleOpen .oneMonth 660) 648 651
        (monthsTable.pairRows "BTCUSDT" .oneMonth) ∧
      ¬RecognisedComplete monthsTable "BTCUSDT" .oneMonth (monthsTable.pairRows "BTCUSDT" .oneMonth)
        (some (candleOpen .oneMonth 648)) (candleOpen .oneMonth 651) (candleOpen .oneMonth 660) := by
  have weeks : Successive .oneWeek 2817 2819 (weeksTable.pairRows "BTCUSDT" .oneWeek) := by
    rw [Successive]
    decide +kernel
  have months : Successive .oneMonth 648 651 (monthsTable.pairRows "BTCUSDT" .oneMonth) := by
    rw [Successive]
    decide +kernel
  refine ⟨⟨holds_from .oneWeek 2817 2819 _ _ weeks, fun recognised => ?_⟩,
    holds_from .oneMonth 648 651 _ _ months, fun recognised => ?_⟩
  · exact absurd recognised.covered (by decide +kernel)
  · exact absurd recognised.unbroken (by decide +kernel)

theorem weeks_recognised_without_start :
    RecognisedComplete weeksTable "BTCUSDT" .oneWeek (weeksTable.pairRows "BTCUSDT" .oneWeek) none
      (candleOpen .oneWeek 2819) (candleOpen .oneWeek 2830) := by
  refine (complete_range_recognised_iff weeksTable "BTCUSDT" .oneWeek none (candleOpen .oneWeek 2819)
    (candleOpen .oneWeek 2830) 2817 2819 _ (List.Perm.refl _) ⟨?_, fun week fromStart early => ⟨fromStart, ?_⟩⟩).mpr ?_
  · rw [Successive]
    decide +kernel
  · exact (candle_open_lt .oneWeek _ _).mp (early.trans_le (min_le_left _ _))
  · rw [Recognisable]
    decide +kernel

end Sagittarius
