import Sagittarius.Library.Doubles
import Sagittarius.Market.DataGaps

set_option autoImplicit false

namespace Sagittarius

variable {α : Type}

structure DataGapDTO where
  gapId : ℕ
  symbol : String
  interval : String
  startTime : ℤ
  endTime : ℤ
  fetchStartTime : ℤ
  fetchEndTime : ℤ
  durationText : String
  missingCandles : ℤ
deriving DecidableEq

structure CoverageSegmentDTO where
  isGap : Bool
  startTime : ℤ
  endTime : ℤ
  ratio : ℚ
  candleCount : ℤ
deriving DecidableEq

structure GetDatabaseGapsResult where
  symbol : String
  interval : String
  gaps : List DataGapDTO
  totalMissingCandles : ℤ
  totalGaps : ℕ
  coveragePercentage : ℚ
  coverageSegments : List CoverageSegmentDTO
deriving DecidableEq

namespace DataGap

def durationHours (gap : DataGap) : ℚ :=
  Rat.toDouble (Rat.toDouble ((gap.endTime - gap.startTime : ℤ) / 1000000) / 3600)

def durationText (gap : DataGap) : String :=
  if gap.durationHours < 1 then toString (PyFloat.toInt (Rat.toDouble (gap.durationHours * 60))) ++ "m"
  else if gap.durationHours < 24 then Rat.fixedPoint 1 gap.durationHours ++ "h"
  else Rat.fixedPoint 1 (Rat.toDouble (gap.durationHours / 24)) ++ "d"

def toDTO (gap : DataGap) (gapId : ℕ) (symbol : String) (interval : TimeFrame) : DataGapDTO where
  gapId
  symbol
  interval := interval.value
  startTime := formattedStart gap.startTime
  endTime := formattedStart gap.endTime
  fetchStartTime := formattedStart gap.fetchStartTime
  fetchEndTime := formattedStart gap.fetchEndTime
  durationText := gap.durationText
  missingCandles := gap.missingCandles

end DataGap

-- A text of the format `%Y-%m-%d %H:%M`, which ends at the minutes.
def shownMinute (time : ℤ) : ℤ := time / 60000000 * 60000000

def segmentRatio (span total : ℤ) : ℚ := max (1 / 100) (min 1 ((span : ℚ) / total))

namespace CoverageSegmentDTO

def ofData (interval : TimeFrame) (total cursor ending : ℤ) : CoverageSegmentDTO where
  isGap := false
  startTime := shownMinute cursor
  endTime := shownMinute ending
  ratio := segmentRatio (ending - cursor) total
  candleCount := max 1 ((ending - cursor) / interval.cadence)

def ofGap (total : ℤ) (gap : DataGap) : CoverageSegmentDTO where
  isGap := true
  startTime := shownMinute gap.startTime
  endTime := shownMinute gap.endTime
  ratio := segmentRatio (gap.endTime - gap.startTime) total
  candleCount := gap.missingCandles

end CoverageSegmentDTO

def dataSegments (interval : TimeFrame) (total cursor ending : ℤ) : List CoverageSegmentDTO :=
  if cursor < ending then [.ofData interval total cursor ending] else []

def segmentsFrom (interval : TimeFrame) (total lastRecord : ℤ) : ℤ → List DataGap → List CoverageSegmentDTO
  | cursor, [] => dataSegments interval total cursor lastRecord
  | cursor, gap :: gaps =>
      dataSegments interval total cursor gap.startTime ++
        .ofGap total gap :: segmentsFrom interval total lastRecord gap.endTime gaps

def buildCoverageSegments (firstRecord lastRecord : ℤ) (gaps : List DataGap) (interval : TimeFrame) :
    List CoverageSegmentDTO :=
  let total := max 1000000 (lastRecord - firstRecord)
  if gaps.isEmpty then
    [{ isGap := false
       startTime := shownMinute firstRecord
       endTime := shownMinute lastRecord
       ratio := 1
       candleCount := total / interval.cadence + 1 }]
  else segmentsFrom interval total lastRecord firstRecord gaps

def getDatabaseGaps (symbol : String) (interval : TimeFrame) (status : DatabaseStatusSnapshot) (gaps : List DataGap) :
    Except PyError GetDatabaseGapsResult :=
  if symbol = "" then .error (.valueError "Symbol cannot be empty")
  else
    match status.firstRecord, status.lastRecord, status.totalCandles with
    | some firstRecord, some lastRecord, totalCandles + 1 =>
        let totalMissing := (gaps.map (·.missingCandles)).sum
        let totalExpected := (totalCandles + 1 : ℕ) + totalMissing
        .ok
          { symbol
            interval := interval.value
            gaps := gaps.zipIdx.map fun (gap, idx) => gap.toDTO (idx + 1) symbol interval
            totalMissingCandles := totalMissing
            totalGaps := gaps.length
            coveragePercentage :=
              if 0 < totalExpected then
                let percentage := Rat.toDouble (Rat.toDouble (((totalCandles + 1 : ℕ) : ℚ) / totalExpected) * 100)
                Rat.toDouble (Rat.roundHalfEven (percentage * 100) / 100)
              else 100
            coverageSegments := buildCoverageSegments firstRecord lastRecord gaps interval }
    | _, _, _ =>
        .ok
          { symbol
            interval := interval.value
            gaps := []
            totalMissingCandles := 0
            totalGaps := 0
            coveragePercentage := 0
            coverageSegments := [] }

def KlineTable.inspectGaps (table : KlineTable α) (symbol : String) (interval : TimeFrame) :
    Except PyError GetDatabaseGapsResult :=
  getDatabaseGaps symbol interval (table.getDatabaseStatus symbol interval) (table.getGaps symbol interval)

inductive Tiles : ℤ → ℤ → List CoverageSegmentDTO → Prop
  | done (time : ℤ) : Tiles time time []
  | next (segment : CoverageSegmentDTO) (rest : List CoverageSegmentDTO) (past : ℤ)
      (forward : segment.startTime ≤ segment.endTime) (tiled : Tiles segment.endTime past rest) :
      Tiles segment.startTime past (segment :: rest)

def storedCount (segments : List CoverageSegmentDTO) : ℤ :=
  ((segments.filter fun segment => !segment.isGap).map (·.candleCount)).sum

structure AccountsForEvery (status : DatabaseStatusSnapshot) (gaps : List DataGap) (segments : List CoverageSegmentDTO) :
    Prop where
  stored : storedCount segments = status.totalCandles
  missing : (segments.filter (·.isGap)).map (fun segment => (segment.startTime, segment.endTime, segment.candleCount)) =
    gaps.map fun gap => (shownMinute gap.startTime, shownMinute gap.endTime, gap.missingCandles)
  tiled : ∀ first ∈ status.firstRecord, ∀ last ∈ status.lastRecord, Tiles (shownMinute first) (shownMinute last) segments

theorem shown_minute_mono (a b : ℤ) (ordered : a ≤ b) : shownMinute a ≤ shownMinute b := by
  rw [shownMinute, shownMinute]
  omega

theorem tiles_append (first middle past : ℤ) (before after : List CoverageSegmentDTO) (tiled : Tiles first middle before)
    (tiledAfter : Tiles middle past after) : Tiles first past (before ++ after) := by
  induction tiled with
  | done time => exact tiledAfter
  | next segment rest middle forward _ ih => exact .next segment (rest ++ after) past forward (ih tiledAfter)

theorem stored_count_append (before after : List CoverageSegmentDTO) :
    storedCount (before ++ after) = storedCount before + storedCount after := by
  rw [storedCount, List.filter_append, List.map_append, List.sum_append]
  rfl

section Segments

variable (interval : TimeFrame) (total last : ℤ)

theorem data_segments_tiled (cursor ending : ℤ) (ordered : cursor ≤ ending) :
    Tiles (shownMinute cursor) (shownMinute ending) (dataSegments interval total cursor ending) := by
  rw [dataSegments]
  by_cases rises : cursor < ending
  · rw [if_pos rises]
    exact .next (.ofData interval total cursor ending) [] _ (shown_minute_mono cursor ending ordered) (.done _)
  · have same : cursor = ending := by omega
    rw [if_neg rises, same]
    exact .done _

theorem data_segments_count (cursor ending steps : ℤ) (moved : cursor < ending → 1 ≤ steps) (nonneg : 0 ≤ steps)
    (close : unixepoch ending - unixepoch cursor ≤ steps * interval.toSeconds) :
    storedCount (dataSegments interval total cursor ending) ≤ steps := by
  rw [dataSegments]
  by_cases rises : cursor < ending
  · rw [if_pos rises]
    have positive := seconds_positive interval
    have bounded : (ending - cursor) / interval.cadence < steps + 1 := by
      refine Int.ediv_lt_of_lt_mul (cadence_positive interval) ?_
      have scaled : (steps + 1) * interval.cadence = (steps * interval.toSeconds + interval.toSeconds) * 1000000 := by
        rw [TimeFrame.cadence]
        ring
      rw [scaled]
      rw [unixepoch, unixepoch] at close
      omega
    have counted : storedCount [.ofData interval total cursor ending] = max 1 ((ending - cursor) / interval.cadence) :=
      add_zero _
    rw [counted]
    exact max_le (moved rises) (by omega)
  · rw [if_neg rises]
    exact nonneg

theorem gap_segments (cursor : ℤ) (gaps : List DataGap) :
    ((segmentsFrom interval total last cursor gaps).filter (·.isGap)).map (fun segment =>
        (segment.startTime, segment.endTime, segment.candleCount)) =
      gaps.map fun gap => (shownMinute gap.startTime, shownMinute gap.endTime, gap.missingCandles) := by
  have noGap : ∀ cursor ending, (dataSegments interval total cursor ending).filter (·.isGap) = [] := by
    intro cursor ending
    rw [dataSegments]
    split_ifs <;> rfl
  induction gaps generalizing cursor with
  | nil => rw [segmentsFrom, noGap, List.map_nil, List.map_nil]
  | cons gap gaps ih =>
      rw [segmentsFrom, List.filter_append, noGap, List.nil_append, List.filter_cons_of_pos rfl, List.map_cons, ih,
        List.map_cons]
      rfl

section Walk

variable (gapOf : ℤ × ℤ → DataGap) (starts : ∀ pair, (gapOf pair).startTime = pair.1)
  (ends : ∀ pair, (gapOf pair).endTime = pair.2)

def gapsOf (interval : TimeFrame) (gapOf : ℤ × ℤ → DataGap) (points : List ℤ) : List DataGap :=
  ((Spacing.neighbours points).filter fun pair => widerThan interval.toSeconds pair.1 pair.2).map gapOf

theorem gaps_wide (a b : ℤ) (rest : List ℤ) (wide : widerThan interval.toSeconds a b = true) :
    gapsOf interval gapOf (a :: b :: rest) = gapOf (a, b) :: gapsOf interval gapOf (b :: rest) := by
  rw [gapsOf, Spacing.neighbours, List.filter_cons, if_pos wide, List.map_cons]
  rfl

theorem gaps_narrow (a b : ℤ) (rest : List ℤ) (narrow : ¬widerThan interval.toSeconds a b = true) :
    gapsOf interval gapOf (a :: b :: rest) = gapsOf interval gapOf (b :: rest) := by
  rw [gapsOf, Spacing.neighbours, List.filter_cons, if_neg narrow]
  rfl

include starts ends

theorem segments_tiled (a : ℤ) (rest : List ℤ) (increasing : (a :: rest).Pairwise fun a b => a < b)
    (isLast : (a :: rest).getLast? = some last) (cursor : ℤ) (ordered : cursor ≤ a) :
    Tiles (shownMinute cursor) (shownMinute last)
      (segmentsFrom interval total last cursor (gapsOf interval gapOf (a :: rest))) := by
  induction rest generalizing a cursor with
  | nil =>
      cases isLast
      exact data_segments_tiled interval total cursor a ordered
  | cons b rest ih =>
      obtain ⟨above, tail⟩ := List.pairwise_cons.mp increasing
      have rises := above b List.mem_cons_self
      rw [List.getLast?_cons_cons] at isLast
      by_cases wide : widerThan interval.toSeconds a b = true
      · rw [gaps_wide interval gapOf a b rest wide, segmentsFrom, starts, ends]
        refine tiles_append _ (shownMinute a) _ _ _ (data_segments_tiled interval total cursor a ordered) ?_
        have after := ih b tail isLast b (le_refl b)
        have gap := Tiles.next (.ofGap total (gapOf (a, b))) _ (shownMinute last)
          (by rw [CoverageSegmentDTO.ofGap, starts, ends]; exact shown_minute_mono a b rises.le)
          (by rw [CoverageSegmentDTO.ofGap, ends]; exact after)
        rw [CoverageSegmentDTO.ofGap, starts, ends] at gap
        rw [CoverageSegmentDTO.ofGap, starts, ends]
        exact gap
      · rw [gaps_narrow interval gapOf a b rest wide]
        exact ih b tail isLast cursor (ordered.trans rises.le)

theorem segments_count (a : ℤ) (rest : List ℤ) (increasing : (a :: rest).Pairwise fun a b => a < b)
    (isLast : (a :: rest).getLast? = some last) (cursor steps : ℤ) (ordered : cursor ≤ a)
    (moved : cursor < a → 1 ≤ steps) (nonneg : 0 ≤ steps)
    (close : unixepoch a - unixepoch cursor ≤ steps * interval.toSeconds) :
    storedCount (segmentsFrom interval total last cursor (gapsOf interval gapOf (a :: rest))) +
      (gapsOf interval gapOf (a :: rest)).length ≤ steps + rest.length := by
  induction rest generalizing a cursor steps with
  | nil =>
      cases isLast
      have counted := data_segments_count interval total cursor a steps moved nonneg close
      have none : gapsOf interval gapOf [a] = [] := rfl
      rw [none, segmentsFrom]
      simpa using counted
  | cons b rest ih =>
      obtain ⟨above, tail⟩ := List.pairwise_cons.mp increasing
      have rises := above b List.mem_cons_self
      rw [List.getLast?_cons_cons] at isLast
      by_cases wide : widerThan interval.toSeconds a b = true
      · have counted := data_segments_count interval total cursor a steps moved nonneg close
        have after := ih b tail isLast b 0 (le_refl b) (fun less => absurd less (lt_irrefl b)) (le_refl 0) (by simp)
        have gapFirst : ∀ segments, storedCount (.ofGap total (gapOf (a, b)) :: segments) = storedCount segments :=
          fun _ => rfl
        rw [gaps_wide interval gapOf a b rest wide, segmentsFrom, starts, ends, stored_count_append, gapFirst,
          List.length_cons, List.length_cons]
        push_cast
        omega
      · have narrow : unixepoch b - unixepoch a ≤ interval.toSeconds := by simpa [widerThan] using wide
        have reach : unixepoch b - unixepoch cursor ≤ (steps + 1) * interval.toSeconds := by
          rw [add_mul, one_mul]
          omega
        have after := ih b tail isLast cursor (steps + 1) (ordered.trans rises.le) (fun _ => by omega) (by omega) reach
        rw [gaps_narrow interval gapOf a b rest wide, List.length_cons]
        push_cast
        omega

end Walk

end Segments

section Timeline

variable (table : KlineTable α) (symbol : String) (interval : TimeFrame)

theorem stored_opens_increasing : (storedOpens table symbol interval).Pairwise fun a b => a < b :=
  List.pairwise_map.mpr (KeyedRows.oldest_ascending MarketData.openTime _ (table.pair_distinct symbol interval))

theorem status_stored :
    let opens := storedOpens table symbol interval
    (table.getDatabaseStatus symbol interval).firstRecord = opens.head? ∧
      (table.getDatabaseStatus symbol interval).lastRecord = opens.getLast? ∧
      (table.getDatabaseStatus symbol interval).totalCandles = opens.length := by
  intro opens
  have permuted := opens_perm (table.pairRows symbol interval)
  have increasing := stored_opens_increasing table symbol interval
  have counted : (opensOf (table.pairRows symbol interval)).length = (table.pairRows symbol interval).length :=
    List.length_map ..
  rw [KlineTable.getDatabaseStatus, statusAggregate]
  by_cases empty : (table.pairRows symbol interval).length = 0
  · have none : opens = [] := List.length_eq_zero_iff.mp (permuted.length_eq.symm.trans (counted.trans empty))
    rw [if_pos empty, none]
    exact ⟨rfl, rfl, rfl⟩
  · rw [if_neg empty]
    exact ⟨Spacing.min_increasing _ _ increasing permuted, Spacing.max_increasing _ _ increasing permuted,
      counted.symm.trans permuted.length_eq⟩

theorem gaps_of_stored :
    ∃ gapOf : ℤ × ℤ → DataGap, (∀ pair, (gapOf pair).startTime = pair.1) ∧ (∀ pair, (gapOf pair).endTime = pair.2) ∧
      table.getGaps symbol interval = gapsOf interval gapOf (storedOpens table symbol interval) := by
  rw [KlineTable.getGaps, gap_bounds_neighbours]
  exact ⟨_, fun _ => rfl, fun _ => rfl, rfl⟩

theorem answered_segments (result : GetDatabaseGapsResult) (status : DatabaseStatusSnapshot) (gaps : List DataGap)
    (answered : getDatabaseGaps symbol interval status gaps = .ok result) (first last : ℤ) (count : ℕ)
    (isFirst : status.firstRecord = some first) (isLast : status.lastRecord = some last)
    (counted : status.totalCandles = count + 1) :
    result.coverageSegments = buildCoverageSegments first last gaps interval := by
  rw [getDatabaseGaps, isFirst, isLast, counted] at answered
  by_cases empty : symbol = ""
  · rw [if_pos empty] at answered
    cases answered
  · rw [if_neg empty] at answered
    cases answered
    rfl

theorem answered_nothing (result : GetDatabaseGapsResult) (status : DatabaseStatusSnapshot) (gaps : List DataGap)
    (answered : getDatabaseGaps symbol interval status gaps = .ok result) (isFirst : status.firstRecord = none) :
    result.coverageSegments = [] := by
  rw [getDatabaseGaps, isFirst] at answered
  by_cases empty : symbol = ""
  · rw [if_pos empty] at answered
    cases answered
  · rw [if_neg empty] at answered
    cases answered
    rfl

def EvenlySpaced (interval : TimeFrame) (status : DatabaseStatusSnapshot) : Prop :=
  ∀ first ∈ status.firstRecord, ∀ last ∈ status.lastRecord,
    interval.cadence * (status.totalCandles - 1) ≤ max 1000000 (last - first) ∧
      max 1000000 (last - first) < interval.cadence * status.totalCandles

theorem block_tiled (first last : ℤ) (ordered : first ≤ last) :
    Tiles (shownMinute first) (shownMinute last) (buildCoverageSegments first last [] interval) :=
  .next
    { isGap := false
      startTime := shownMinute first
      endTime := shownMinute last
      ratio := 1
      candleCount := max 1000000 (last - first) / interval.cadence + 1 } [] _ (shown_minute_mono first last ordered) (.done _)

omit table symbol in
theorem single_block_iff (status : DatabaseStatusSnapshot) (first last : ℤ) (isFirst : status.firstRecord = some first)
    (isLast : status.lastRecord = some last) (ordered : first ≤ last) :
    AccountsForEvery status [] (buildCoverageSegments first last [] interval) ↔ EvenlySpaced interval status := by
  have block : storedCount (buildCoverageSegments first last [] interval) =
      max 1000000 (last - first) / interval.cadence + 1 := add_zero _
  have counted : max 1000000 (last - first) / interval.cadence + 1 = status.totalCandles ↔
      interval.cadence * (status.totalCandles - 1) ≤ max 1000000 (last - first) ∧
        max 1000000 (last - first) < interval.cadence * status.totalCandles := by
    have low : (status.totalCandles : ℤ) - 1 ≤ max 1000000 (last - first) / interval.cadence ↔ _ :=
      Int.le_ediv_iff_mul_le (cadence_positive interval)
    have high : max 1000000 (last - first) / interval.cadence < (status.totalCandles : ℤ) ↔ _ :=
      Int.ediv_lt_iff_lt_mul (cadence_positive interval)
    rw [mul_comm interval.cadence, mul_comm interval.cadence, ← low, ← high]
    omega
  constructor
  · intro accounts someFirst isSome someLast isSomeToo
    rw [isFirst] at isSome
    rw [isLast] at isSomeToo
    cases isSome
    cases isSomeToo
    exact counted.mp (block.symm.trans accounts.stored)
  · intro spaced
    refine ⟨block.trans (counted.mpr (spaced first isFirst last isLast)), rfl, ?_⟩
    intro someFirst isSome someLast isSomeToo
    rw [isFirst] at isSome
    rw [isLast] at isSomeToo
    cases isSome
    cases isSomeToo
    exact block_tiled interval first last ordered

theorem evenly_spaced_on_grid (aligned : ∀ row ∈ table.pairRows symbol interval, interval.cadence ∣ row.openTime)
    (unbroken : table.getGaps symbol interval = []) :
    EvenlySpaced interval (table.getDatabaseStatus symbol interval) ↔
      ¬(interval.cadence = 1000000 ∧ (table.getDatabaseStatus symbol interval).totalCandles = 1) := by
  obtain ⟨isFirst, isLast, counted⟩ := status_stored table symbol interval
  have marks := stored_marks table symbol interval aligned
  have solid : Spacing.holes interval.cadence (storedOpens table symbol interval) = [] := by
    rw [gaps_holes table symbol interval aligned] at unbroken
    exact List.map_eq_nil_iff.mp unbroken
  rw [EvenlySpaced, isFirst, isLast, counted]
  cases opens : storedOpens table symbol interval with
  | nil => simp
  | cons first rest =>
      rw [opens] at marks solid
      have account := Spacing.holes_account first rest marks
      rw [solid, List.map_nil, List.sum_nil, add_zero, List.length_cons] at account
      have second : 1000000 ≤ interval.cadence := Int.le_of_dvd (cadence_positive interval) (Int.dvd_mul_left _ _)
      have span : rest.getLastD first - first = interval.cadence * rest.length := by
        push_cast at account
        linear_combination -account
      rw [List.head?_cons, List.getLast?_cons, ← List.getLastD_eq_getLast?, List.length_cons]
      simp only [Option.mem_some_iff, forall_eq', span]
      cases rest with
      | nil =>
          simp
          omega
      | cons next rest =>
          have widened : interval.cadence ≤ interval.cadence * ((next :: rest).length : ℤ) :=
            le_mul_of_one_le_right (cadence_positive interval).le (by simp)
          have grows : interval.cadence * ((next :: rest).length : ℤ) < interval.cadence * ((next :: rest).length + 1) := by
            rw [mul_add, mul_one]
            omega
          rw [max_eq_right (second.trans widened)]
          push_cast
          rw [add_sub_cancel_right]
          refine iff_of_true ⟨le_refl _, by simpa using grows⟩ fun single => ?_
          exact absurd single.2 (by simp)

-- The timeline accounts for every candle exactly if there is no gap in it.
theorem timeline_accounts_iff (result : GetDatabaseGapsResult) (answered : table.inspectGaps symbol interval = .ok result) :
    AccountsForEvery (table.getDatabaseStatus symbol interval) (table.getGaps symbol interval) result.coverageSegments ↔
      table.getGaps symbol interval = [] ∧ EvenlySpaced interval (table.getDatabaseStatus symbol interval) := by
  obtain ⟨gapOf, starts, ends, isGaps⟩ := gaps_of_stored table symbol interval
  obtain ⟨isFirst, isLast, counted⟩ := status_stored table symbol interval
  have increasing := stored_opens_increasing table symbol interval
  rw [KlineTable.inspectGaps] at answered
  rw [isGaps] at answered ⊢
  generalize table.getDatabaseStatus symbol interval = status at *
  cases opens : storedOpens table symbol interval with
  | nil =>
      rw [opens] at isFirst counted answered
      have none := answered_nothing symbol interval result status _ answered isFirst
      have noGaps : gapsOf interval gapOf [] = [] := rfl
      rw [none, noGaps]
      refine iff_of_true ⟨counted.symm ▸ rfl, rfl, ?_⟩ ⟨rfl, ?_⟩
      · intro first isSome
        rw [isFirst] at isSome
        cases isSome
      · intro first isSome
        rw [isFirst] at isSome
        cases isSome
  | cons first rest =>
      rw [opens] at increasing isFirst isLast counted answered
      rw [List.getLast?_eq_some_getLast (List.cons_ne_nil first rest)] at isLast
      generalize isEnd : (first :: rest).getLast (List.cons_ne_nil first rest) = last at isLast
      have ordered := Spacing.head_le first last rest increasing (isEnd ▸ List.getLast_mem _)
      rw [answered_segments symbol interval result status _ answered first last rest.length isFirst isLast counted]
      by_cases none : gapsOf interval gapOf (first :: rest) = []
      · rw [none, and_iff_right rfl]
        exact single_block_iff interval status first last isFirst isLast ordered
      · refine iff_of_false (fun accounts => ?_) fun both => none both.1
        have total := segments_count interval (max 1000000 (last - first)) last gapOf starts ends first rest increasing
          (isEnd ▸ List.getLast?_eq_some_getLast (List.cons_ne_nil first rest)) first 0 (le_refl first)
          (fun less => absurd less (lt_irrefl first)) (le_refl 0) (by simp)
        have positive : 0 < (gapsOf interval gapOf (first :: rest)).length := List.length_pos_iff.mpr none
        have stored := accounts.stored
        rw [buildCoverageSegments, if_neg (by simpa using none), counted, List.length_cons] at stored
        omega

-- Gaps or not, the segments follow each other from the first candle to the last
-- and show every gap with its count.
theorem timeline_in_order (result : GetDatabaseGapsResult) (answered : table.inspectGaps symbol interval = .ok result)
    (first last : ℤ) (isFirst : (table.getDatabaseStatus symbol interval).firstRecord = some first)
    (isLast : (table.getDatabaseStatus symbol interval).lastRecord = some last) :
    Tiles (shownMinute first) (shownMinute last) result.coverageSegments ∧
      (result.coverageSegments.filter (·.isGap)).map (fun segment =>
          (segment.startTime, segment.endTime, segment.candleCount)) =
        (table.getGaps symbol interval).map fun gap =>
          (shownMinute gap.startTime, shownMinute gap.endTime, gap.missingCandles) := by
  obtain ⟨gapOf, starts, ends, isGaps⟩ := gaps_of_stored table symbol interval
  obtain ⟨firstOf, lastOf, counted⟩ := status_stored table symbol interval
  have increasing := stored_opens_increasing table symbol interval
  rw [isFirst] at firstOf
  rw [isLast] at lastOf
  obtain ⟨rest, opens⟩ := List.head?_eq_some_iff.mp firstOf.symm
  rw [opens] at increasing lastOf counted
  rw [answered_segments symbol interval result _ _ answered first last rest.length isFirst isLast counted,
    buildCoverageSegments, isGaps, opens]
  have tiled := segments_tiled interval (max 1000000 (last - first)) last gapOf starts ends first rest increasing
    lastOf.symm first (le_refl first)
  by_cases none : gapsOf interval gapOf (first :: rest) = []
  · rw [none] at tiled ⊢
    have ordered := Spacing.head_le first last rest increasing (List.mem_of_getLast? lastOf.symm)
    exact ⟨block_tiled interval first last ordered, rfl⟩
  · rw [if_neg (by simpa using none)]
    exact ⟨tiled, gap_segments interval _ last first _⟩

end Timeline

example : (holedTable.inspectGaps "BTCUSDT" .oneMinute).toOption.map (fun result =>
    (result.coveragePercentage, result.coverageSegments.map fun segment => (segment.isGap, segment.candleCount))) =
    some (80, [(false, 1), (true, 1), (false, 1)]) := by decide +kernel

theorem holed_timeline_unaccounted :
    (holedTable.getDatabaseStatus "BTCUSDT" .oneMinute).totalCandles = 4 ∧
      (holedTable.inspectGaps "BTCUSDT" .oneMinute).toOption.map (fun result => storedCount result.coverageSegments) =
        some 2 ∧
      ∀ result, holedTable.inspectGaps "BTCUSDT" .oneMinute = .ok result →
        ¬AccountsForEvery (holedTable.getDatabaseStatus "BTCUSDT" .oneMinute) (holedTable.getGaps "BTCUSDT" .oneMinute)
          result.coverageSegments := by
  have shown : (holedTable.inspectGaps "BTCUSDT" .oneMinute).toOption.map
      (fun result => storedCount result.coverageSegments) = some 2 := by decide +kernel
  have total : (holedTable.getDatabaseStatus "BTCUSDT" .oneMinute).totalCandles = 4 := by decide +kernel
  refine ⟨total, shown, fun result answered accounts => ?_⟩
  have stored := accounts.stored
  rw [answered] at shown
  have two : storedCount result.coverageSegments = 2 := Option.some.inj shown
  rw [two, total] at stored
  exact absurd stored (by decide)

theorem minutes_keys : (([0, 1, 2].map (minuteKline 100)).map MarketData.key).Nodup := by decide +kernel

def minutesTable : KlineTable ℚ where
  rows := [0, 1, 2].map (minuteKline 100)
  keys := minutes_keys

theorem minutes_timeline_accounted :
    ∃ result, minutesTable.inspectGaps "BTCUSDT" .oneMinute = .ok result ∧
      AccountsForEvery (minutesTable.getDatabaseStatus "BTCUSDT" .oneMinute)
        (minutesTable.getGaps "BTCUSDT" .oneMinute) result.coverageSegments := by
  have answered : minutesTable.inspectGaps "BTCUSDT" .oneMinute = .ok
      { symbol := "BTCUSDT"
        interval := "1m"
        gaps := []
        totalMissingCandles := 0
        totalGaps := 0
        coveragePercentage := 100
        coverageSegments :=
          [{ isGap := false, startTime := 0, endTime := 120000000, ratio := 1, candleCount := 3 }] } := by decide +kernel
  refine ⟨_, answered, (timeline_accounts_iff minutesTable "BTCUSDT" .oneMinute _ answered).mpr ⟨by decide +kernel, ?_⟩⟩
  rw [EvenlySpaced]
  decide +kernel

end Sagittarius
