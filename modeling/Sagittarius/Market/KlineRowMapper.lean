import Mathlib.Data.List.Dedup
import Sagittarius.Library.Spacing
import Sagittarius.Market.HistoricalKlines

set_option autoImplicit false

namespace Sagittarius

variable {α : Type}

def opensOf (rows : List (MarketData α)) : List ℤ := rows.map (·.openTime)

def chronological (rows : List (MarketData α)) : List (MarketData α) := KeyedRows.oldest MarketData.openTime rows

-- `LAG(open_time) OVER (ORDER BY open_time ASC)`, beside each row.
def lagged (rows : List (MarketData α)) : List (Option ℤ × MarketData α) :=
  (none :: rows.map fun row => some row.openTime).zip rows

def unixepoch (time : ℤ) : ℤ := time / 1000000

def widerThan (expectedSeconds : ℕ) (prevTime openTime : ℤ) : Bool :=
  expectedSeconds < unixepoch openTime - unixepoch prevTime

def gapBounds (expectedSeconds : ℕ) (rows : List (MarketData α)) : List (ℤ × ℤ) :=
  (lagged (chronological rows)).filterMap fun (prevTime, row) =>
    match prevTime with
    | none => none
    | some prevTime => if widerThan expectedSeconds prevTime row.openTime then some (prevTime, row.openTime) else none

structure RangeCoverageSnapshot where
  firstRecord : Option ℤ
  lastRecord : Option ℤ
  totalCandles : ℕ
  distinctCandles : ℕ
  firstGapAfter : Option ℤ
  unclosedCandles : ℕ

def rangeAggregate (expectedSeconds : ℕ) (now : ℤ) (rows : List (MarketData α)) : RangeCoverageSnapshot :=
  if rows.length = 0 then
    { firstRecord := none
      lastRecord := none
      totalCandles := 0
      distinctCandles := 0
      firstGapAfter := none
      unclosedCandles := 0 }
  else
    { firstRecord := (opensOf rows).min?
      lastRecord := (opensOf rows).max?
      totalCandles := rows.length
      distinctCandles := (opensOf rows).dedup.length
      firstGapAfter := ((gapBounds expectedSeconds rows).map Prod.fst).min?
      unclosedCandles := rows.countP fun row => now < row.closeTime }

structure DatabaseStatusSnapshot where
  firstRecord : Option ℤ
  lastRecord : Option ℤ
  totalCandles : ℕ
  gaps : ℕ

def statusAggregate (expectedSeconds : ℕ) (rows : List (MarketData α)) : DatabaseStatusSnapshot :=
  if rows.length = 0 then { firstRecord := none, lastRecord := none, totalCandles := 0, gaps := 0 }
  else
    { firstRecord := (opensOf rows).min?
      lastRecord := (opensOf rows).max?
      totalCandles := rows.length
      gaps := (gapBounds expectedSeconds rows).length }

namespace KlineTable

def pairRows (table : KlineTable α) (symbol : String) (interval : TimeFrame) : List (MarketData α) :=
  KlineRows.ofPair table.rows symbol interval.value

def getDatabaseStatus (table : KlineTable α) (symbol : String) (interval : TimeFrame) : DatabaseStatusSnapshot :=
  statusAggregate interval.toSeconds (table.pairRows symbol interval)

end KlineTable

def TimeFrame.cadence (interval : TimeFrame) : ℤ := interval.toSeconds * 1000000

theorem cadence_positive (interval : TimeFrame) : 0 < interval.cadence := by
  have positive := interval.to_seconds_positive
  rw [TimeFrame.cadence]
  omega

theorem gap_bounds_neighbours (expectedSeconds : ℕ) (rows : List (MarketData α)) :
    gapBounds expectedSeconds rows =
      (Spacing.neighbours (opensOf (chronological rows))).filter fun pair => widerThan expectedSeconds pair.1 pair.2 := by
  have zipped : ((none :: (opensOf (chronological rows)).map some).zip (opensOf (chronological rows))) =
      (lagged (chronological rows)).map (Prod.map id fun row => row.openTime) := by
    rw [lagged, opensOf, List.map_map, List.zip_map_right]
    rfl
  rw [gapBounds, ← Spacing.neighbours_zip, zipped, List.filterMap_map, List.filter_filterMap]
  refine List.filterMap_congr fun pair _ => ?_
  obtain ⟨prevTime, row⟩ := pair
  cases prevTime with
  | none => rfl
  | some prevTime =>
      by_cases wide : widerThan expectedSeconds prevTime row.openTime = true
      · simp [wide, Option.filter]
      · simp [wide, Option.filter]

structure OpensOnGrid (interval : TimeFrame) (rows : List (MarketData α)) : Prop where
  distinct : (opensOf rows).Nodup
  aligned : ∀ row ∈ rows, interval.cadence ∣ row.openTime

theorem KlineTable.pair_distinct (table : KlineTable α) (symbol : String) (interval : TimeFrame) :
    (opensOf (table.pairRows symbol interval)).Nodup := by
  have distinct := table.selected_times_distinct { symbol, interval }
  have same : table.pairRows symbol interval =
      table.rows.filter (GetHistoricalKlinesQuery.selects { symbol, interval }) := by
    refine List.filter_congr fun row _ => ?_
    rw [Bool.eq_iff_iff, decide_eq_true_eq]
    simp [GetHistoricalKlinesQuery.selects, MarketData.key]
  rw [opensOf, same]
  exact distinct

theorem opens_on_grid_filter (interval : TimeFrame) (rows : List (MarketData α)) (selects : MarketData α → Bool)
    (onGrid : OpensOnGrid interval rows) : OpensOnGrid interval (rows.filter selects) where
  distinct := onGrid.distinct.sublist (List.filter_sublist.map _)
  aligned := fun row inside => onGrid.aligned row (List.mem_of_mem_filter inside)

theorem chronological_marks (interval : TimeFrame) (rows : List (MarketData α)) (onGrid : OpensOnGrid interval rows) :
    Spacing.Marks interval.cadence (opensOf (chronological rows)) where
  increasing := List.pairwise_map.mpr (KeyedRows.oldest_ascending MarketData.openTime rows onGrid.distinct)
  aligned := by
    intro time inside
    obtain ⟨row, isRow, rfl⟩ := List.mem_map.mp inside
    exact onGrid.aligned row ((KeyedRows.oldest_perm MarketData.openTime rows).mem_iff.mp isRow)

theorem unixepoch_aligned (interval : TimeFrame) (time : ℤ) (aligned : interval.cadence ∣ time) :
    1000000 * unixepoch time = time :=
  Int.mul_ediv_cancel' (dvd_trans (Dvd.intro_left _ rfl) aligned)

theorem gap_bounds_holes (interval : TimeFrame) (rows : List (MarketData α)) (onGrid : OpensOnGrid interval rows) :
    gapBounds interval.toSeconds rows = Spacing.holes interval.cadence (opensOf (chronological rows)) := by
  have marks := chronological_marks interval rows onGrid
  rw [gap_bounds_neighbours, Spacing.holes]
  refine List.filter_congr fun pair inside => ?_
  obtain ⟨fst, snd⟩ := Spacing.neighbours_mem _ pair inside
  have before := unixepoch_aligned interval pair.1 (marks.aligned pair.1 fst)
  have after := unixepoch_aligned interval pair.2 (marks.aligned pair.2 snd)
  rw [widerThan, TimeFrame.cadence, decide_eq_decide]
  omega

theorem opens_perm (rows : List (MarketData α)) : (opensOf rows).Perm (opensOf (chronological rows)) :=
  ((KeyedRows.oldest_perm MarketData.openTime rows).map _).symm

theorem range_aggregate_marks (interval : TimeFrame) (now : ℤ) (rows : List (MarketData α))
    (onGrid : OpensOnGrid interval rows) :
    rangeAggregate interval.toSeconds now rows =
      let opens := opensOf (chronological rows)
      { firstRecord := opens.head?
        lastRecord := opens.getLast?
        totalCandles := opens.length
        distinctCandles := opens.length
        firstGapAfter := (Spacing.holes interval.cadence opens).head?.map Prod.fst
        unclosedCandles := rows.countP fun row => now < row.closeTime } := by
  have marks := chronological_marks interval rows onGrid
  have permuted := opens_perm rows
  rw [rangeAggregate]
  by_cases empty : rows.length = 0
  · rw [if_pos empty, List.length_eq_zero_iff.mp empty]
    rfl
  · rw [if_neg empty, Spacing.min_increasing _ _ marks.increasing permuted,
      Spacing.max_increasing _ _ marks.increasing permuted, List.dedup_eq_self.mpr onGrid.distinct, gap_bounds_holes interval rows onGrid,
      Spacing.min_increasing _ _ (Spacing.holes_starts _ marks) (List.Perm.refl _), List.head?_map]
    have counted : (opensOf rows).length = rows.length := List.length_map ..
    simp only [← permuted.length_eq, counted]

end Sagittarius
