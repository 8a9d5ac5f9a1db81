import Mathlib.Algebra.Ring.Divisibility.Basic
import Sagittarius.Library.Doubles
import Sagittarius.Market.KlineRowMapper

set_option autoImplicit false

namespace Sagittarius

variable {α : Type}

-- `int(value.timestamp())`: the seconds of a time, as a float, lose what is
-- below a second, unless the float has it rounded up.
def timestamp (time : ℤ) : ℤ := PyFloat.toInt (Rat.toDouble (time / 1000000))

def fromtimestamp (seconds : ℤ) : ℤ := seconds * 1000000

def floorOpenTime (value : ℤ) (intervalSeconds : ℕ) : ℤ :=
  fromtimestamp (timestamp value / intervalSeconds * intervalSeconds)

def ceilOpenTime (value : ℤ) (intervalSeconds : ℕ) : ℤ :=
  fromtimestamp ((timestamp value + intervalSeconds - 1) / intervalSeconds * intervalSeconds)

structure BacktestRangeCoverage where
  isFullyCovered : Bool
  firstOpenTime : Option ℤ
  lastOpenTime : Option ℤ
  expectedCandles : ℤ
  actualCandles : ℕ
  duplicateCandles : ℤ
  missingOpenTimes : List ℤ
  hasUnclosedCandle : Bool
deriving DecidableEq

-- `get_range_coverage`. A symbol without a shard has no rows.
def KlineTable.getRangeCoverage (table : KlineTable α) (symbol : String) (interval : TimeFrame) (startTime : Option ℤ)
    (endTime now : ℤ) : RangeCoverageSnapshot :=
  let closedEnd := floorOpenTime (min endTime now) interval.toSeconds
  let alignedStart := startTime.map fun startTime => ceilOpenTime startTime interval.toSeconds
  rangeAggregate interval.toSeconds now ((table.pairRows symbol interval).filter fun row =>
    alignedStart.all (fun start => start ≤ row.openTime) && row.openTime < closedEnd)

namespace BacktestRangeCoverage

def ofEmptySnapshot (snapshot : RangeCoverageSnapshot) : BacktestRangeCoverage where
  isFullyCovered := false
  firstOpenTime := snapshot.firstRecord
  lastOpenTime := snapshot.lastRecord
  expectedCandles := 0
  actualCandles := snapshot.totalCandles
  duplicateCandles := snapshot.totalCandles - snapshot.distinctCandles
  missingOpenTimes := []
  hasUnclosedCandle := 0 < snapshot.unclosedCandles

def ofSnapshot (snapshot : RangeCoverageSnapshot) (timeframe : TimeFrame) (start closedEnd : ℤ) : BacktestRangeCoverage :=
  let interval := timeframe.cadence
  let expectedCandles := timestamp (closedEnd - start) / timeframe.toSeconds
  let expectedLast := closedEnd - interval
  let missing :=
    (if snapshot.firstRecord.all (fun first => start < first) then [start] else []) ++
      (snapshot.firstGapAfter.map fun after => after + interval).toList ++
      ((snapshot.lastRecord.filter fun last => last < expectedLast).map fun last => last + interval).toList
  let duplicates : ℤ := snapshot.totalCandles - snapshot.distinctCandles
  { isFullyCovered :=
      decide (snapshot.firstRecord = some start) && decide (snapshot.lastRecord = some expectedLast) &&
        decide ((snapshot.distinctCandles : ℤ) = expectedCandles) && decide (duplicates = 0) &&
        snapshot.firstGapAfter.isNone && decide (snapshot.unclosedCandles = 0)
    firstOpenTime := snapshot.firstRecord
    lastOpenTime := snapshot.lastRecord
    expectedCandles
    actualCandles := snapshot.totalCandles
    duplicateCandles := duplicates
    missingOpenTimes := missing.eraseDups.take 3
    hasUnclosedCandle := 0 < snapshot.unclosedCandles }

def ofEmptyScope (inScope : List (MarketData α)) (now : ℤ) : BacktestRangeCoverage :=
  let opens := opensOf inScope
  { isFullyCovered := false
    firstOpenTime := opens.head?
    lastOpenTime := opens.getLast?
    expectedCandles := 0
    actualCandles := opens.length
    duplicateCandles := opens.length - opens.dedup.length
    missingOpenTimes := []
    hasUnclosedCandle := inScope.any fun kline => now < kline.closeTime }

def ofScoped (inScope : List (MarketData α)) (timeframe : TimeFrame) (start closedEnd now : ℤ) : BacktestRangeCoverage :=
  let opens := opensOf inScope
  let expected := (Spacing.range (timestamp start) (timestamp closedEnd) timeframe.toSeconds).map fromtimestamp
  let missing := expected.filter fun openTime => openTime ∉ opens
  let duplicates : ℤ := opens.length - opens.dedup.length
  let hasUnclosed := inScope.any fun kline => now < kline.closeTime
  { isFullyCovered := missing.isEmpty && decide (duplicates = 0) && !hasUnclosed
    firstOpenTime := opens.head?
    lastOpenTime := opens.getLast?
    expectedCandles := expected.length
    actualCandles := opens.length
    duplicateCandles := duplicates
    missingOpenTimes := missing.take 3
    hasUnclosedCandle := hasUnclosed }

end BacktestRangeCoverage

def requestedStart (startTime available : Option ℤ) (timeframe : TimeFrame) : Option ℤ :=
  match startTime with
  | some startTime => some (ceilOpenTime startTime timeframe.toSeconds)
  | none => available

def buildBacktestRangeCoverage (snapshot : RangeCoverageSnapshot) (timeframe : TimeFrame) (startTime : Option ℤ)
    (endTime now : ℤ) : BacktestRangeCoverage :=
  let closedEnd := floorOpenTime (min endTime now) timeframe.toSeconds
  match requestedStart startTime snapshot.firstRecord timeframe with
  | none => .ofEmptySnapshot snapshot
  | some start => if closedEnd ≤ start then .ofEmptySnapshot snapshot else .ofSnapshot snapshot timeframe start closedEnd

def scopedKlines (klines : List (MarketData α)) (start : Option ℤ) (closedEnd : ℤ) : List (MarketData α) :=
  (chronological klines).filter fun kline => start.any (fun start => start ≤ kline.openTime) && kline.openTime < closedEnd

def evaluateBacktestRangeCoverage (klines : List (MarketData α)) (timeframe : TimeFrame) (startTime : Option ℤ)
    (endTime now : ℤ) : BacktestRangeCoverage :=
  let closedEnd := floorOpenTime (min endTime now) timeframe.toSeconds
  let start := requestedStart startTime (opensOf (chronological klines)).head? timeframe
  let inScope := scopedKlines klines start closedEnd
  match start with
  | none => .ofEmptyScope inScope now
  | some start => if closedEnd ≤ start then .ofEmptyScope inScope now else .ofScoped inScope timeframe start closedEnd now

namespace BacktestRangeCoverage

structure Agrees (derived evaluated : BacktestRangeCoverage) : Prop where
  isFullyCovered : derived.isFullyCovered = evaluated.isFullyCovered
  expectedCandles : derived.expectedCandles = evaluated.expectedCandles
  actualCandles : derived.actualCandles = evaluated.actualCandles
  duplicateCandles : derived.duplicateCandles = evaluated.duplicateCandles
  firstOpenTime : derived.firstOpenTime = evaluated.firstOpenTime
  lastOpenTime : derived.lastOpenTime = evaluated.lastOpenTime
  firstMissing : derived.missingOpenTimes.head? = evaluated.missingOpenTimes.head?
  hasUnclosedCandle : derived.hasUnclosedCandle = evaluated.hasUnclosedCandle

end BacktestRangeCoverage

theorem timestamp_from (seconds : ℤ) : timestamp (fromtimestamp seconds) = seconds := by
  have divided : ((fromtimestamp seconds : ℤ) : ℚ) / 1000000 = seconds := by
    rw [fromtimestamp, Int.cast_mul]
    exact mul_div_cancel_right₀ _ (by norm_num)
  rw [timestamp, divided, Rat.truncated_int]

theorem timestamp_near (time : ℤ) : timestamp time * 1000000 < time + 1000000 ∧ time < timestamp time * 1000000 + 1000000 := by
  have divided := Int.mul_ediv_add_emod time 1000000
  have remains := Int.emod_nonneg time (show (1000000 : ℤ) ≠ 0 by decide)
  have within := Int.emod_lt_of_pos time (show 0 < (1000000 : ℤ) by decide)
  rcases remains.eq_or_lt with whole | fraction
  · have seconds : time = fromtimestamp (time / 1000000) := by
      rw [fromtimestamp]
      omega
    rw [seconds, timestamp_from, fromtimestamp]
    omega
  · have below : ((time / 1000000 : ℤ) : ℚ) ≤ time / 1000000 := by
      rw [le_div_iff₀ (by norm_num)]
      exact_mod_cast show time / 1000000 * 1000000 ≤ time by omega
    have above : (time : ℚ) / 1000000 ≤ (time / 1000000 : ℤ) + 1 := by
      rw [div_le_iff₀ (by norm_num)]
      exact_mod_cast show time ≤ (time / 1000000 + 1) * 1000000 by omega
    have truncated := Rat.truncated_between _ _ below above
    rw [timestamp]
    omega

theorem floor_aligned (value : ℤ) (timeframe : TimeFrame) : timeframe.cadence ∣ floorOpenTime value timeframe.toSeconds :=
  Int.mul_dvd_mul_right _ (Int.dvd_mul_left _ _)

theorem ceil_aligned (value : ℤ) (timeframe : TimeFrame) : timeframe.cadence ∣ ceilOpenTime value timeframe.toSeconds :=
  Int.mul_dvd_mul_right _ (Int.dvd_mul_left _ _)

section Expected

variable (timeframe : TimeFrame) (start closedEnd : ℤ) (alignedStart : timeframe.cadence ∣ start)
  (alignedEnd : timeframe.cadence ∣ closedEnd)

def expectedOpens (timeframe : TimeFrame) (start closedEnd : ℤ) : List ℤ :=
  (Spacing.range (timestamp start) (timestamp closedEnd) timeframe.toSeconds).map fromtimestamp

omit alignedStart in
theorem seconds_of (time : ℤ) (aligned : timeframe.cadence ∣ time) :
    fromtimestamp (timestamp time) = time ∧ (timeframe.toSeconds : ℤ) ∣ timestamp time := by
  obtain ⟨quotient, rfl⟩ := aligned
  have regrouped : timeframe.cadence * quotient = fromtimestamp (timeframe.toSeconds * quotient) := by
    rw [TimeFrame.cadence, fromtimestamp, mul_right_comm]
  rw [regrouped, timestamp_from]
  exact ⟨rfl, Int.dvd_mul_right _ _⟩

theorem seconds_positive : 0 < (timeframe.toSeconds : ℤ) := Int.natCast_pos.mpr timeframe.to_seconds_positive

theorem expected_increasing : (expectedOpens timeframe start closedEnd).Pairwise fun a b => a < b := by
  refine List.pairwise_map.mpr ((Spacing.range_increasing _ _ _ (seconds_positive timeframe)).imp ?_)
  intro a b less
  rw [fromtimestamp, fromtimestamp]
  omega

theorem whole_second (time : ℤ) (seconds : 1000000 ∣ time) : fromtimestamp (timestamp time) = time := by
  obtain ⟨quotient, rfl⟩ := seconds
  rw [mul_comm]
  exact congrArg fromtimestamp (timestamp_from quotient)

omit alignedStart alignedEnd in
theorem expected_iff (startSeconds : 1000000 ∣ start) (endSeconds : 1000000 ∣ closedEnd) (x : ℤ) :
    x ∈ expectedOpens timeframe start closedEnd ↔ timeframe.cadence ∣ x - start ∧ start ≤ x ∧ x < closedEnd := by
  have startOf := whole_second start startSeconds
  have endOf := whole_second closedEnd endSeconds
  have listed := Spacing.range_iff (timestamp start) (timestamp closedEnd) timeframe.toSeconds
    (seconds_positive timeframe)
  rw [fromtimestamp] at startOf endOf
  rw [expectedOpens, List.mem_map]
  constructor
  · intro inside
    obtain ⟨seconds, inRange, rfl⟩ := inside
    obtain ⟨aligned, atLeast, before⟩ := (listed seconds).mp inRange
    have scaled : fromtimestamp seconds - start = (seconds - timestamp start) * 1000000 := by
      rw [fromtimestamp, sub_mul, startOf]
    rw [scaled, fromtimestamp]
    exact ⟨Int.mul_dvd_mul_right _ aligned, by omega, by omega⟩
  · intro bounds
    obtain ⟨aligned, atLeast, before⟩ := bounds
    have ofSeconds := whole_second x (by
      have apart := dvd_trans (Int.dvd_mul_left _ _ : (1000000 : ℤ) ∣ timeframe.cadence) aligned
      omega)
    rw [fromtimestamp] at ofSeconds
    have scaled : x - start = (timestamp x - timestamp start) * 1000000 := by rw [sub_mul, ofSeconds, startOf]
    rw [scaled, TimeFrame.cadence] at aligned
    refine ⟨timestamp x, (listed _).mpr ⟨Int.dvd_of_mul_dvd_mul_right (by decide) aligned, by omega, by omega⟩, ?_⟩
    exact ofSeconds

include alignedStart alignedEnd

theorem expected_mem (x : ℤ) :
    x ∈ expectedOpens timeframe start closedEnd ↔ timeframe.cadence ∣ x ∧ start ≤ x ∧ x < closedEnd := by
  have second : (1000000 : ℤ) ∣ timeframe.cadence := Int.dvd_mul_left _ _
  rw [expected_iff timeframe start closedEnd (dvd_trans second alignedStart) (dvd_trans second alignedEnd),
    dvd_sub_left alignedStart]

theorem expected_count (ordered : start ≤ closedEnd) :
    ((expectedOpens timeframe start closedEnd).length : ℤ) = timestamp (closedEnd - start) / timeframe.toSeconds ∧
      timeframe.cadence * (expectedOpens timeframe start closedEnd).length = closedEnd - start := by
  obtain ⟨startOf, startAligned⟩ := seconds_of timeframe start alignedStart
  obtain ⟨endOf, endAligned⟩ := seconds_of timeframe closedEnd alignedEnd
  obtain ⟨spanOf, _⟩ := seconds_of timeframe (closedEnd - start) (Int.dvd_sub alignedEnd alignedStart)
  rw [fromtimestamp] at startOf endOf spanOf
  have counted := Spacing.range_length (timestamp start) (timestamp closedEnd) timeframe.toSeconds
    (seconds_positive timeframe) (by omega) (Int.dvd_sub endAligned startAligned)
  rw [expectedOpens, List.length_map]
  constructor
  · have span : timestamp (closedEnd - start) = timestamp closedEnd - timestamp start := by omega
    rw [span, ← counted, Int.mul_ediv_cancel _ (seconds_positive timeframe).ne']
  · rw [TimeFrame.cadence, mul_comm, ← mul_assoc, counted]
    omega

end Expected

namespace BacktestRangeCoverage

section Branches

variable (timeframe : TimeFrame) (start closedEnd now : ℤ) (rows : List (MarketData α))

structure InRange : Prop where
  onGrid : OpensOnGrid timeframe rows
  alignedStart : timeframe.cadence ∣ start
  alignedEnd : timeframe.cadence ∣ closedEnd
  nonempty : start < closedEnd
  inside : ∀ row ∈ rows, start ≤ row.openTime ∧ row.openTime < closedEnd

def missingOpens (opens : List ℤ) : List ℤ :=
  (expectedOpens timeframe start closedEnd).filter fun openTime => openTime ∉ opens

variable (inRange : InRange timeframe start closedEnd rows)

include inRange

theorem missing_opens_mem (opens : List ℤ) (x : ℤ) :
    x ∈ missingOpens timeframe start closedEnd opens ↔ x ∈ Spacing.Missing timeframe.cadence opens start closedEnd := by
  rw [missingOpens, List.mem_filter, expected_mem timeframe start closedEnd inRange.alignedStart inRange.alignedEnd,
    decide_eq_true_eq]
  exact and_assoc.trans (and_congr_right fun _ => and_assoc)

theorem missing_opens_head (opens : List ℤ) (x : ℤ)
    (least : IsLeast (Spacing.Missing timeframe.cadence opens start closedEnd) x) :
    (missingOpens timeframe start closedEnd opens).head? = some x := by
  refine Spacing.head_least _ x ((expected_increasing timeframe start closedEnd).sublist List.filter_sublist) ?_
  have same : {point | point ∈ missingOpens timeframe start closedEnd opens} =
      Spacing.Missing timeframe.cadence opens start closedEnd :=
    Set.ext fun x => missing_opens_mem timeframe start closedEnd rows inRange opens x
  rw [same]
  exact least

def toldMissing (timeframe : TimeFrame) (start closedEnd : ℤ) (opens : List ℤ) : List ℤ :=
  (if opens.head?.all (fun first => start < first) then [start] else []) ++
    ((Spacing.holes timeframe.cadence opens).head?.map fun hole => hole.1 + timeframe.cadence).toList ++
    ((opens.getLast?.filter fun last => last < closedEnd - timeframe.cadence).map fun last =>
      last + timeframe.cadence).toList

theorem told_missing_head :
    (ofSnapshot (rangeAggregate timeframe.toSeconds now rows) timeframe start closedEnd).missingOpenTimes.head? =
      (toldMissing timeframe start closedEnd (opensOf (chronological rows))).head? := by
  have firstOf : ∀ missing : List ℤ, (missing.eraseDups.take 3).head? = missing.head? := by
    intro missing
    cases missing with
    | nil => rfl
    | cons first rest => rw [List.eraseDups_cons, List.take_succ_cons, List.head?_cons, List.head?_cons]
  rw [range_aggregate_marks timeframe now rows inRange.onGrid, ofSnapshot, firstOf, toldMissing]
  simp only [Option.map_map]
  rfl

theorem chronological_bounded (x : ℤ) (inside : x ∈ opensOf (chronological rows)) : start ≤ x ∧ x < closedEnd := by
  obtain ⟨row, isRow, rfl⟩ := List.mem_map.mp inside
  exact inRange.inside row ((KeyedRows.oldest_perm MarketData.openTime rows).mem_iff.mp isRow)

theorem told_missing_first :
    let opens := opensOf (chronological rows)
    (toldMissing timeframe start closedEnd opens).head? = (missingOpens timeframe start closedEnd opens).head? ∧
      (missingOpens timeframe start closedEnd opens = [] ↔
        opens.head? = some start ∧ opens.getLast? = some (closedEnd - timeframe.cadence) ∧
          Spacing.holes timeframe.cadence opens = []) := by
  intro opens
  have marks : Spacing.Marks timeframe.cadence opens := chronological_marks timeframe rows inRange.onGrid
  have positive := cadence_positive timeframe
  have bounded : ∀ x ∈ opens, start ≤ x ∧ x < closedEnd := chronological_bounded timeframe start closedEnd rows inRange
  have least : ∀ x, IsLeast (Spacing.Missing timeframe.cadence opens start closedEnd) x →
      (missingOpens timeframe start closedEnd opens).head? = some x :=
    missing_opens_head timeframe start closedEnd rows inRange opens
  have nonempty : ∀ x, (missingOpens timeframe start closedEnd opens).head? = some x →
      missingOpens timeframe start closedEnd opens ≠ [] := by
    intro x isHead empty
    rw [empty] at isHead
    cases isHead
  rw [toldMissing]
  cases isFirst : opens.head? with
  | none =>
      have empty := List.head?_eq_none_iff.mp isFirst
      have isLeast := least start
        ⟨⟨inRange.alignedStart, le_refl start, inRange.nonempty, by simp [empty]⟩, fun x missing => missing.2.1⟩
      exact ⟨isLeast.symm, iff_of_false (nonempty start isLeast) nofun⟩
  | some first =>
      have firstMember : first ∈ opens := List.mem_of_head? isFirst
      by_cases late : start < first
      · have absent : start ∉ opens := by
          intro inside
          have above := Spacing.first_le opens marks first isFirst start inside
          omega
        have isLeast := least start
          ⟨⟨inRange.alignedStart, le_refl start, inRange.nonempty, absent⟩, fun x missing => missing.2.1⟩
        rw [isLeast, Option.all_some, if_pos (decide_eq_true late)]
        exact ⟨rfl, iff_of_false (nonempty start isLeast) fun all => late.ne (Option.some.inj all.1).symm⟩
      · have atLeast := (bounded first firstMember).1
        have same : first = start := by omega
        subst same
        obtain ⟨last, isLast⟩ : ∃ last, opens.getLast? = some last :=
          ⟨_, List.getLast?_eq_some_getLast (List.ne_nil_of_mem firstMember)⟩
        have lastMember : last ∈ opens := List.mem_of_getLast? isLast
        have beforeEnd := (bounded last lastMember).2
        rw [Option.all_some, if_neg (by simp), List.nil_append, isLast]
        cases isHole : (Spacing.holes timeframe.cadence opens).head? with
        | some hole =>
            have isLeast := least _
              (Spacing.missing_hole opens marks first last closedEnd positive isFirst isLast beforeEnd hole isHole)
            refine ⟨isLeast.symm, iff_of_false (nonempty _ isLeast) fun all => ?_⟩
            rw [all.2.2] at isHole
            cases isHole
        | none =>
            have solid := List.head?_eq_none_iff.mp isHole
            have reach := Spacing.step_le last closedEnd (marks.aligned last lastMember) inRange.alignedEnd beforeEnd
            rw [Option.map_none, Option.toList_none, List.nil_append]
            by_cases short : last < closedEnd - timeframe.cadence
            · have isLeast := least _
                (Spacing.missing_end opens marks first last closedEnd positive isFirst isLast (by omega) solid)
              rw [Option.filter_some, if_pos (decide_eq_true short)]
              exact ⟨isLeast.symm, iff_of_false (nonempty _ isLeast) fun all => short.ne (Option.some.inj all.2.1)⟩
            · have none : missingOpens timeframe first closedEnd opens = [] := by
                refine List.eq_nil_iff_forall_not_mem.mpr fun x inside => ?_
                exact Spacing.missing_none opens marks first last closedEnd isFirst isLast (by omega) solid x
                  ((missing_opens_mem timeframe first closedEnd rows inRange opens x).mp inside)
              have atEnd : last = closedEnd - timeframe.cadence := by omega
              rw [Option.filter_some, if_neg (by simpa using short), none]
              exact ⟨rfl, iff_of_true rfl ⟨rfl, congrArg some atEnd, solid⟩⟩

omit inRange in
theorem unclosed_agrees :
    decide (0 < rows.countP fun row => now < row.closeTime) = (chronological rows).any fun row => now < row.closeTime := by
  rw [Bool.eq_iff_iff, decide_eq_true_eq, List.any_eq_true,
    ← (KeyedRows.oldest_perm MarketData.openTime rows).countP_eq]
  exact List.countP_pos_iff

theorem all_present_count (isFirst : (opensOf (chronological rows)).head? = some start)
    (isLast : (opensOf (chronological rows)).getLast? = some (closedEnd - timeframe.cadence))
    (solid : Spacing.holes timeframe.cadence (opensOf (chronological rows)) = []) :
    (opensOf (chronological rows)).length = (expectedOpens timeframe start closedEnd).length := by
  have marks := chronological_marks timeframe rows inRange.onGrid
  have counted := (expected_count timeframe start closedEnd inRange.alignedStart inRange.alignedEnd inRange.nonempty.le).2
  have account := Spacing.holes_span _ marks start (closedEnd - timeframe.cadence) isFirst isLast
  rw [solid, List.map_nil, List.sum_nil, add_zero] at account
  have scaled : timeframe.cadence * ((opensOf (chronological rows)).length : ℤ) =
      timeframe.cadence * (expectedOpens timeframe start closedEnd).length := by
    rw [account, counted]
    omega
  exact Int.ofNat_inj.mp (Int.eq_of_mul_eq_mul_left (cadence_positive timeframe).ne' scaled)

theorem of_snapshot_agrees :
    Agrees (ofSnapshot (rangeAggregate timeframe.toSeconds now rows) timeframe start closedEnd)
      (ofScoped (chronological rows) timeframe start closedEnd now) := by
  have aggregate := range_aggregate_marks timeframe now rows inRange.onGrid
  have distinct : (opensOf (chronological rows)).dedup.length = (opensOf (chronological rows)).length :=
    congrArg List.length (List.dedup_eq_self.mpr ((opens_perm rows).nodup_iff.mp inRange.onGrid.distinct))
  have counted := (expected_count timeframe start closedEnd inRange.alignedStart inRange.alignedEnd inRange.nonempty.le).1
  obtain ⟨told, none⟩ := told_missing_first timeframe start closedEnd rows inRange
  have unclosed := unclosed_agrees now rows
  refine ⟨?_, ?_, ?_, ?_, ?_, ?_, ?_, ?_⟩
  · have present := all_present_count timeframe start closedEnd rows inRange
    rw [Bool.eq_iff_iff, aggregate, ofSnapshot, ofScoped, ← unclosed, distinct]
    simp only [sub_self, decide_true, Bool.and_true, Bool.and_eq_true, decide_eq_true_eq, Option.isNone_iff_eq_none,
      Option.map_eq_none_iff, List.head?_eq_none_iff, List.isEmpty_iff, Bool.not_eq_true', decide_eq_false_iff_not]
    change _ ↔ missingOpens timeframe start closedEnd (opensOf (chronological rows)) = [] ∧ _
    rw [none, Nat.not_lt, Nat.le_zero, ← counted]
    constructor
    · intro all
      obtain ⟨⟨⟨⟨isFirst, isLast⟩, _⟩, solid⟩, closed⟩ := all
      exact ⟨⟨isFirst, isLast, solid⟩, closed⟩
    · intro all
      obtain ⟨⟨isFirst, isLast, solid⟩, closed⟩ := all
      exact ⟨⟨⟨⟨isFirst, isLast⟩, congrArg _ (present isFirst isLast solid)⟩, solid⟩, closed⟩
  · exact counted.symm
  · rw [aggregate]
    rfl
  · rw [aggregate, ofScoped, distinct]
    rfl
  · rw [aggregate]
    rfl
  · rw [aggregate]
    rfl
  · rw [told_missing_head timeframe start closedEnd now rows inRange, told, ofScoped, List.head?_take, if_neg (by decide)]
    rfl
  · rw [aggregate]
    exact unclosed

end Branches

end BacktestRangeCoverage

theorem scoped_rows (rows klines : List (MarketData α)) (distinct : (opensOf rows).Nodup) (loaded : klines.Perm rows)
    (selects : MarketData α → Bool) : chronological (rows.filter selects) = (chronological klines).filter selects := by
  rw [chronological, chronological, KeyedRows.oldest_filter MarketData.openTime selects rows distinct,
    KeyedRows.oldest_congr MarketData.openTime rows klines distinct loaded]

theorem BacktestRangeCoverage.of_empty_agrees (timeframe : TimeFrame) (now : ℤ) (rows : List (MarketData α))
    (onGrid : OpensOnGrid timeframe rows) :
    Agrees (ofEmptySnapshot (rangeAggregate timeframe.toSeconds now rows)) (ofEmptyScope (chronological rows) now) := by
  have unclosed := unclosed_agrees now rows
  have distinct : (opensOf (chronological rows)).dedup.length = (opensOf (chronological rows)).length :=
    congrArg List.length (List.dedup_eq_self.mpr ((opens_perm rows).nodup_iff.mp onGrid.distinct))
  rw [range_aggregate_marks timeframe now rows onGrid, ofEmptySnapshot, ofEmptyScope, distinct]
  exact ⟨rfl, rfl, rfl, rfl, rfl, rfl, rfl, unclosed⟩

theorem coverage_of_start (timeframe : TimeFrame) (start closedEnd now : ℤ) (rows inScope : List (MarketData α))
    (same : chronological rows = inScope) (onGrid : OpensOnGrid timeframe rows) (alignedStart : timeframe.cadence ∣ start)
    (alignedEnd : timeframe.cadence ∣ closedEnd) (inside : ∀ row ∈ rows, start ≤ row.openTime ∧ row.openTime < closedEnd) :
    let snapshot := rangeAggregate timeframe.toSeconds now rows
    BacktestRangeCoverage.Agrees
      (if closedEnd ≤ start then .ofEmptySnapshot snapshot else .ofSnapshot snapshot timeframe start closedEnd)
      (if closedEnd ≤ start then .ofEmptyScope inScope now else .ofScoped inScope timeframe start closedEnd now) := by
  intro snapshot
  subst same
  by_cases empty : closedEnd ≤ start
  · rw [if_pos empty, if_pos empty]
    exact BacktestRangeCoverage.of_empty_agrees timeframe now rows onGrid
  · rw [if_neg empty, if_neg empty]
    exact BacktestRangeCoverage.of_snapshot_agrees timeframe start closedEnd now rows
      ⟨onGrid, alignedStart, alignedEnd, not_le.mp empty, inside⟩

-- The aggregate of the database and the loop over the loaded klines tell the
-- same of a range.
theorem range_coverages_agree (table : KlineTable α) (symbol : String) (interval : TimeFrame)
    (aligned : ∀ row ∈ table.pairRows symbol interval, interval.cadence ∣ row.openTime)
    (klines : List (MarketData α)) (loaded : klines.Perm (table.pairRows symbol interval)) (startTime : Option ℤ)
    (endTime now : ℤ) :
    BacktestRangeCoverage.Agrees
      (buildBacktestRangeCoverage (table.getRangeCoverage symbol interval startTime endTime now) interval startTime
        endTime now)
      (evaluateBacktestRangeCoverage klines interval startTime endTime now) := by
  have distinct := table.pair_distinct symbol interval
  let closedEnd := floorOpenTime (min endTime now) interval.toSeconds
  have alignedEnd : interval.cadence ∣ closedEnd := floor_aligned _ interval
  cases startTime with
  | some startTime =>
      let start := ceilOpenTime startTime interval.toSeconds
      let rows := (table.pairRows symbol interval).filter fun row => start ≤ row.openTime && row.openTime < closedEnd
      refine coverage_of_start interval start closedEnd now rows (scopedKlines klines (some start) closedEnd)
        (scoped_rows _ klines distinct loaded _) (opens_on_grid_filter interval _ _ ⟨distinct, aligned⟩)
        (ceil_aligned _ interval) alignedEnd ?_
      intro row inside
      simpa using (List.mem_filter.mp inside).2
  | none =>
      let rows := (table.pairRows symbol interval).filter fun row => true && row.openTime < closedEnd
      have onGrid : OpensOnGrid interval rows := opens_on_grid_filter interval _ _ ⟨distinct, aligned⟩
      have ordered : chronological rows = (chronological klines).filter fun row => true && row.openTime < closedEnd :=
        scoped_rows _ klines distinct loaded _
      have marks : Spacing.Marks interval.cadence (opensOf (chronological klines)) := by
        rw [chronological, KeyedRows.oldest_congr MarketData.openTime _ klines distinct loaded]
        exact chronological_marks interval _ ⟨distinct, aligned⟩
      have snapshot := range_aggregate_marks interval now rows onGrid
      rw [buildBacktestRangeCoverage, evaluateBacktestRangeCoverage]
      change BacktestRangeCoverage.Agrees
        (match (rangeAggregate interval.toSeconds now rows).firstRecord with
          | none => .ofEmptySnapshot (rangeAggregate interval.toSeconds now rows)
          | some start => if closedEnd ≤ start then .ofEmptySnapshot (rangeAggregate interval.toSeconds now rows)
              else .ofSnapshot (rangeAggregate interval.toSeconds now rows) interval start closedEnd)
        (match (opensOf (chronological klines)).head? with
          | none => .ofEmptyScope (scopedKlines klines (opensOf (chronological klines)).head? closedEnd) now
          | some start =>
              if closedEnd ≤ start then
                .ofEmptyScope (scopedKlines klines (opensOf (chronological klines)).head? closedEnd) now
              else .ofScoped (scopedKlines klines (opensOf (chronological klines)).head? closedEnd) interval start
                closedEnd now)
      have firstRecord : (rangeAggregate interval.toSeconds now rows).firstRecord = (opensOf (chronological rows)).head? := by
        rw [snapshot]
      rw [firstRecord]
      cases available : (opensOf (chronological klines)).head? with
      | none =>
          have empty : chronological klines = [] := List.map_eq_nil_iff.mp (List.head?_eq_none_iff.mp available)
          have same : chronological rows = scopedKlines klines none closedEnd := by
            rw [ordered, scopedKlines, empty, List.filter_nil, List.filter_nil]
          rw [show (opensOf (chronological rows)).head? = none by rw [ordered, empty]; rfl, ← same]
          exact BacktestRangeCoverage.of_empty_agrees interval now rows onGrid
      | some first =>
          have atLeast := Spacing.first_le _ marks first available
          have same : chronological rows = scopedKlines klines (some first) closedEnd := by
            rw [ordered, scopedKlines]
            refine List.filter_congr fun row inside => ?_
            rw [Option.any_some, decide_eq_true (atLeast row.openTime (List.mem_map_of_mem inside))]
          have isFirst : (opensOf (chronological rows)).head? = Option.filter (fun first => first < closedEnd) (some first) := by
            have cut : opensOf (chronological rows) = (opensOf (chronological klines)).filter fun time => time < closedEnd := by
              rw [ordered, opensOf, opensOf, List.filter_map]
              rfl
            rw [cut, Spacing.head_filter _ closedEnd marks.increasing, available]
          have agrees := coverage_of_start interval first closedEnd now rows (scopedKlines klines (some first) closedEnd)
            same onGrid (marks.aligned first (List.mem_of_head? available)) alignedEnd
          by_cases late : closedEnd ≤ first
          · rw [isFirst, Option.filter_some, if_neg (by simpa using late)]
            simp only [if_pos late, ← same]
            exact BacktestRangeCoverage.of_empty_agrees interval now rows onGrid
          · rw [isFirst, Option.filter_some, if_pos (by simpa using late)]
            refine agrees fun row inside => ?_
            have listed : row ∈ chronological rows := (KeyedRows.oldest_perm MarketData.openTime rows).mem_iff.mpr inside
            rw [same, scopedKlines] at listed
            simpa using (List.mem_filter.mp listed).2

theorem holed_keys : (([0, 1, 3, 4].map (minuteKline 100)).map MarketData.key).Nodup := by decide +kernel

def holedTable : KlineTable ℚ where
  rows := [0, 1, 3, 4].map (minuteKline 100)
  keys := holed_keys

theorem holed_range_agrees :
    (evaluateBacktestRangeCoverage holedTable.rows .oneMinute none 300000000 300000000).missingOpenTimes = [120000000] ∧
      BacktestRangeCoverage.Agrees
        (buildBacktestRangeCoverage (holedTable.getRangeCoverage "BTCUSDT" .oneMinute none 300000000 300000000) .oneMinute
          none 300000000 300000000)
        (evaluateBacktestRangeCoverage holedTable.rows .oneMinute none 300000000 300000000) :=
  ⟨by decide +kernel, range_coverages_agree holedTable "BTCUSDT" .oneMinute (by decide +kernel) holedTable.rows
    (by decide +kernel) none 300000000 300000000⟩

end Sagittarius
