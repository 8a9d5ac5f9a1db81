import Mathlib.Data.Set.Card
import Sagittarius.Market.RangeCoverage

set_option autoImplicit false

namespace Sagittarius

variable {α : Type}

structure DataGap where
  symbol : String
  interval : TimeFrame
  startTime : ℤ
  endTime : ℤ
  missingCandles : ℤ
deriving DecidableEq

namespace DataGap

def fetchStartTime (gap : DataGap) : ℤ := gap.startTime + gap.interval.cadence

def fetchEndTime (gap : DataGap) : ℤ := gap.endTime - gap.interval.cadence

end DataGap

def queriedMissing (expectedSeconds : ℕ) (prevTime openTime : ℤ) : ℤ :=
  (unixepoch openTime - unixepoch prevTime - expectedSeconds).tdiv expectedSeconds

def KlineTable.getGaps (table : KlineTable α) (symbol : String) (interval : TimeFrame) : List DataGap :=
  (gapBounds interval.toSeconds (table.pairRows symbol interval)).map fun (prevTime, openTime) =>
    let missing := queriedMissing interval.toSeconds prevTime openTime
    { symbol
      interval
      startTime := prevTime
      endTime := openTime
      missingCandles := max 1 (if missing = 0 then 1 else missing) }

structure RepairDataGapCommand where
  symbol : String
  interval : TimeFrame
  startTime : ℤ
  endTime : ℤ

structure RepairDataGapResult where
  success : Bool
  repairedCandles : ℕ
  message : String
deriving DecidableEq

structure KlineRequest where
  symbol : String
  interval : TimeFrame
  startStr : ℤ
  endStr : ℤ

inductive FetchError
  | cancelled
  | failed (message : String)

-- What one repair meets: the answer of the exchange, the cancellation check
-- after it, and a save that raises.
structure RepairRun (α : Type) where
  fetch : KlineRequest → Except FetchError (List (MarketData α))
  cancellationRequested : Bool := false
  saveRaises : Bool := false

namespace RepairDataGapCommand

def request (command : RepairDataGapCommand) : KlineRequest where
  symbol := command.symbol
  interval := command.interval
  startStr := formattedStart command.startTime
  endStr := formattedStart command.endTime

def refused (message : String) : RepairDataGapResult := { success := false, repairedCandles := 0, message }

-- `RepairDataGapCommandHandler.execute`, with the rows it leaves. No result
-- stands for the error of a save that is raised to the caller.
def execute (command : RepairDataGapCommand) (run : RepairRun α) (rows : KlineRows α) :
    Option RepairDataGapResult × KlineRows α :=
  if command.symbol = "" then (some (refused "Symbol cannot be empty."), rows)
  else
    match run.fetch command.request with
    | .error .cancelled => (some (refused "Gap repair was cancelled."), rows)
    | .error (.failed message) => (some (refused ("Error fetching data from the exchange: " ++ message)), rows)
    | .ok klines =>
        if run.cancellationRequested then (some (refused "Gap repair was cancelled."), rows)
        else
          match klines with
          | [] =>
              (some
                { success := true
                  repairedCandles := 0
                  message := "No additional candles available from the exchange for this time range." }, rows)
          | _ :: _ =>
              if run.saveRaises then (none, rows)
              else
                (some
                  { success := true
                    repairedCandles := klines.length
                    message := s!"Successfully repaired {klines.length} candles for {command.symbol} " ++
                      s!"({command.interval.value})." }, rows.saveKlines klines)

end RepairDataGapCommand

-- The command that the coordinator sends for a gap, whose times went through
-- texts without fractions of a second.
def DataGap.repairCommand (gap : DataGap) : RepairDataGapCommand where
  symbol := gap.symbol
  interval := gap.interval
  startTime := formattedStart gap.fetchStartTime
  endTime := formattedStart gap.fetchEndTime

section Gaps

variable (table : KlineTable α) (symbol : String) (interval : TimeFrame)
  (aligned : ∀ row ∈ table.pairRows symbol interval, interval.cadence ∣ row.openTime)

def storedOpens (table : KlineTable α) (symbol : String) (interval : TimeFrame) : List ℤ :=
  opensOf (chronological (table.pairRows symbol interval))

theorem stored_opens_mem (time : ℤ) :
    time ∈ storedOpens table symbol interval ↔ ∃ row ∈ table.pairRows symbol interval, row.openTime = time := by
  rw [storedOpens, ← (opens_perm (table.pairRows symbol interval)).mem_iff, opensOf, List.mem_map]

include aligned

theorem stored_marks : Spacing.Marks interval.cadence (storedOpens table symbol interval) :=
  chronological_marks interval _ ⟨table.pair_distinct symbol interval, aligned⟩

theorem gaps_holes :
    table.getGaps symbol interval =
      (Spacing.holes interval.cadence (storedOpens table symbol interval)).map fun hole =>
        { symbol, interval, startTime := hole.1, endTime := hole.2, missingCandles := Spacing.lacks interval.cadence hole } := by
  have marks := stored_marks table symbol interval aligned
  rw [KlineTable.getGaps, gap_bounds_holes interval _ ⟨table.pair_distinct symbol interval, aligned⟩]
  refine List.map_congr_left fun hole isHole => ?_
  obtain ⟨isNeighbour, wide⟩ := (Spacing.holes_mem _ hole).mp isHole
  obtain ⟨fst, snd⟩ := Spacing.neighbours_mem _ hole isNeighbour
  have before := unixepoch_aligned interval hole.1 (marks.aligned hole.1 fst)
  have after := unixepoch_aligned interval hole.2 (marks.aligned hole.2 snd)
  have lacking := Spacing.lacks_mul hole (marks.aligned hole.1 fst) (marks.aligned hole.2 snd)
  have missing : queriedMissing interval.toSeconds hole.1 hole.2 = Spacing.lacks interval.cadence hole := by
    have seconds : unixepoch hole.2 - unixepoch hole.1 - interval.toSeconds =
        interval.toSeconds * Spacing.lacks interval.cadence hole := by
      have cadence : interval.cadence * Spacing.lacks interval.cadence hole =
          1000000 * (interval.toSeconds * Spacing.lacks interval.cadence hole) := by
        rw [TimeFrame.cadence, mul_comm (interval.toSeconds : ℤ), mul_assoc]
      have unit : interval.cadence = interval.toSeconds * 1000000 := rfl
      omega
    rw [queriedMissing, seconds, Int.mul_tdiv_cancel_left _ (seconds_positive interval).ne']
  have positive : 0 < Spacing.lacks interval.cadence hole := by
    refine (mul_pos_iff_of_pos_left (cadence_positive interval)).mp ?_
    omega
  simp only [missing]
  rw [if_neg (by omega), max_eq_right (by omega)]

theorem gaps_mem (gap : DataGap) (isGap : gap ∈ table.getGaps symbol interval) :
    gap.interval = interval ∧ (gap.startTime, gap.endTime) ∈ Spacing.holes interval.cadence (storedOpens table symbol interval) := by
  rw [gaps_holes table symbol interval aligned] at isGap
  obtain ⟨hole, isHole, rfl⟩ := List.mem_map.mp isGap
  exact ⟨rfl, isHole⟩

theorem gaps_ordered :
    (table.getGaps symbol interval).Pairwise fun before after => before.endTime ≤ after.startTime := by
  rw [gaps_holes table symbol interval aligned]
  exact List.pairwise_map.mpr (Spacing.holes_ordered _ (stored_marks table symbol interval aligned))

theorem gaps_missing_iff (time : ℤ) (onGrid : interval.cadence ∣ time) :
    (∃ gap ∈ table.getGaps symbol interval, gap.startTime < time ∧ time < gap.endTime) ↔
      time ∉ storedOpens table symbol interval ∧ (∃ before ∈ storedOpens table symbol interval, before < time) ∧
        ∃ after ∈ storedOpens table symbol interval, time < after := by
  rw [← Spacing.missing_iff _ (stored_marks table symbol interval aligned) time onGrid,
    gaps_holes table symbol interval aligned]
  constructor
  · intro inGap
    obtain ⟨gap, isGap, within⟩ := inGap
    obtain ⟨hole, isHole, rfl⟩ := List.mem_map.mp isGap
    exact ⟨hole, isHole, within⟩
  · intro inHole
    obtain ⟨hole, isHole, within⟩ := inHole
    exact ⟨_, List.mem_map_of_mem isHole, within⟩

def gridInstants (interval : TimeFrame) (first last : ℤ) : Set ℤ :=
  {time | interval.cadence ∣ time ∧ first ≤ time ∧ time ≤ last}

omit aligned in
theorem grid_instants_count (first last : ℤ) (ordered : first ≤ last) (alignedFirst : interval.cadence ∣ first)
    (alignedLast : interval.cadence ∣ last) :
    interval.cadence * (gridInstants interval first last).ncard = last - first + interval.cadence := by
  have positive := cadence_positive interval
  have alignedPast : interval.cadence ∣ last + interval.cadence := Int.dvd_add alignedLast (Int.dvd_refl _)
  have counted := (expected_count interval first (last + interval.cadence) alignedFirst alignedPast (by omega)).2
  have distinct : (expectedOpens interval first (last + interval.cadence)).Nodup :=
    (expected_increasing interval first _).imp fun less => less.ne
  have same : gridInstants interval first last = (expectedOpens interval first (last + interval.cadence)).toFinset := by
    ext time
    rw [Finset.mem_coe, List.mem_toFinset, expected_mem interval first _ alignedFirst alignedPast, gridInstants,
      Set.mem_ofPred_eq]
    refine and_congr_right fun onGrid => and_congr_right fun _ => ?_
    constructor
    · intro high
      omega
    · intro high
      by_contra past
      have apart := Spacing.step_le last time alignedLast onGrid (by omega)
      omega
  rw [same, Set.ncard_coe_finset, List.toFinset_card_of_nodup distinct, counted]
  omega

theorem gaps_account (first last : ℤ) (isFirst : (storedOpens table symbol interval).head? = some first)
    (isLast : (storedOpens table symbol interval).getLast? = some last) :
    ((table.getGaps symbol interval).map (·.missingCandles)).sum + (table.pairRows symbol interval).length =
      (gridInstants interval first last).ncard := by
  have marks := stored_marks table symbol interval aligned
  have firstMember := List.mem_of_head? isFirst
  have ordered := Spacing.le_last _ marks last isLast first firstMember
  have counted := grid_instants_count interval first last ordered (marks.aligned first firstMember)
    (marks.aligned last (List.mem_of_getLast? isLast))
  have stored : (table.pairRows symbol interval).length = (storedOpens table symbol interval).length := by
    rw [storedOpens, ← (opens_perm _).length_eq, opensOf, List.length_map]
  have account := Spacing.holes_span _ marks first last isFirst isLast
  rw [gaps_holes table symbol interval aligned, stored, List.map_map]
  refine Int.eq_of_mul_eq_mul_left (cadence_positive interval).ne' ?_
  rw [counted, ← account, add_comm]
  rfl

omit aligned in
theorem formatted_start_aligned (time : ℤ) (onGrid : interval.cadence ∣ time) : formattedStart time = time :=
  Int.ediv_mul_cancel (dvd_trans (Dvd.intro_left _ rfl) onGrid)

theorem repair_covers (gap : DataGap) (isGap : gap ∈ table.getGaps symbol interval) (time : ℤ)
    (onGrid : interval.cadence ∣ time) :
    gap.repairCommand.request.startStr ≤ time ∧ time ≤ gap.repairCommand.request.endStr ↔
      gap.startTime < time ∧ time < gap.endTime := by
  obtain ⟨sameInterval, isHole⟩ := gaps_mem table symbol interval aligned gap isGap
  have marks := stored_marks table symbol interval aligned
  obtain ⟨fst, snd⟩ := Spacing.neighbours_mem _ _ ((Spacing.holes_mem _ _).mp isHole).1
  have alignedStart := marks.aligned gap.startTime fst
  have alignedEnd := marks.aligned gap.endTime snd
  have positive := cadence_positive interval
  have start : gap.repairCommand.request.startStr = gap.startTime + interval.cadence := by
    rw [RepairDataGapCommand.request, DataGap.repairCommand, DataGap.fetchStartTime, sameInterval]
    have onGridToo := Int.dvd_add alignedStart (Int.dvd_refl interval.cadence)
    rw [formatted_start_aligned interval _ onGridToo, formatted_start_aligned interval _ onGridToo]
  have ending : gap.repairCommand.request.endStr = gap.endTime - interval.cadence := by
    rw [RepairDataGapCommand.request, DataGap.repairCommand, DataGap.fetchEndTime, sameInterval]
    have onGridToo := Int.dvd_sub alignedEnd (Int.dvd_refl interval.cadence)
    rw [formatted_start_aligned interval _ onGridToo, formatted_start_aligned interval _ onGridToo]
  rw [start, ending]
  constructor
  · intro within
    omega
  · intro within
    have after := Spacing.step_le gap.startTime time alignedStart onGrid within.1
    have before := Spacing.step_le time gap.endTime onGrid alignedEnd within.2
    omega

end Gaps

def storedTimes (table : KlineTable α) (symbol : String) (interval : TimeFrame) : Set ℤ :=
  {time | ∃ row ∈ table.pairRows symbol interval, row.openTime = time}

-- The gaps are disjoint, in order and exactly what is missing inside the span,
-- their counts make up the span, and a repair asks for exactly its gap.
theorem gaps_exact (table : KlineTable α) (symbol : String) (interval : TimeFrame)
    (aligned : ∀ row ∈ table.pairRows symbol interval, interval.cadence ∣ row.openTime) :
    let gaps := table.getGaps symbol interval
    let stored := storedTimes table symbol interval
    gaps.Pairwise (fun before after => before.endTime ≤ after.startTime) ∧
      (∀ first last, IsLeast stored first → IsGreatest stored last →
        (∀ time, interval.cadence ∣ time →
          ((∃ gap ∈ gaps, gap.startTime < time ∧ time < gap.endTime) ↔ time ∉ stored ∧ first < time ∧ time < last)) ∧
        (gaps.map (·.missingCandles)).sum + (table.pairRows symbol interval).length =
          (gridInstants interval first last).ncard) ∧
      (stored = ∅ → gaps = []) ∧
      ∀ gap ∈ gaps, ∀ time, interval.cadence ∣ time →
        (gap.repairCommand.request.startStr ≤ time ∧ time ≤ gap.repairCommand.request.endStr ↔
          gap.startTime < time ∧ time < gap.endTime) := by
  intro gaps stored
  have marks := stored_marks table symbol interval aligned
  have listed : ∀ time, time ∈ storedOpens table symbol interval ↔ time ∈ stored := stored_opens_mem table symbol interval
  refine ⟨gaps_ordered table symbol interval aligned, ?_, ?_, fun gap isGap time onGrid =>
    repair_covers table symbol interval aligned gap isGap time onGrid⟩
  · intro first last least greatest
    have isFirst : (storedOpens table symbol interval).head? = some first :=
      Spacing.head_least _ first marks.increasing
        ⟨(listed first).mpr least.1, fun time inside => least.2 ((listed time).mp inside)⟩
    have isLast : (storedOpens table symbol interval).getLast? = some last := by
      rw [← Spacing.max_increasing _ _ marks.increasing (List.Perm.refl _)]
      exact List.max?_eq_some_iff.mpr ⟨(listed last).mpr greatest.1, fun time inside => greatest.2 ((listed time).mp inside)⟩
    refine ⟨fun time onGrid => ?_, gaps_account table symbol interval aligned first last isFirst isLast⟩
    rw [gaps_missing_iff table symbol interval aligned time onGrid]
    constructor
    · intro missing
      obtain ⟨absent, ⟨before, isBefore, less⟩, after, isAfter, lessToo⟩ := missing
      have low := least.2 ((listed before).mp isBefore)
      have high := greatest.2 ((listed after).mp isAfter)
      exact ⟨fun inside => absent ((listed time).mpr inside), by omega, by omega⟩
    · intro missing
      obtain ⟨absent, after, before⟩ := missing
      exact ⟨fun inside => absent ((listed time).mp inside), ⟨first, (listed first).mpr least.1, after⟩, last,
        (listed last).mpr greatest.1, before⟩
  · intro empty
    have none : storedOpens table symbol interval = [] := by
      refine List.eq_nil_iff_forall_not_mem.mpr fun time inside => ?_
      rw [listed, empty] at inside
      exact inside
    change table.getGaps symbol interval = []
    rw [gaps_holes table symbol interval aligned, none]
    rfl

theorem holed_table_gaps_exact :
    holedTable.getGaps "BTCUSDT" .oneMinute =
        [{ symbol := "BTCUSDT", interval := .oneMinute, startTime := 60000000, endTime := 180000000, missingCandles := 1 }] ∧
      (holedTable.getGaps "BTCUSDT" .oneMinute).Pairwise (fun before after => before.endTime ≤ after.startTime) := by
  have exact := gaps_exact holedTable "BTCUSDT" .oneMinute (by decide +kernel)
  exact ⟨by decide +kernel, exact.1⟩

theorem repaired_gap_closed (table : KlineTable α) (symbol : String) (interval : TimeFrame) (named : symbol ≠ "")
    (aligned : ∀ row ∈ table.pairRows symbol interval, interval.cadence ∣ row.openTime) (gap : DataGap)
    (isGap : gap ∈ table.getGaps symbol interval) (run : RepairRun α) (klines : List (MarketData α))
    (fetched : run.fetch gap.repairCommand.request = .ok klines) (kept : run.cancellationRequested = false)
    (saves : run.saveRaises = false)
    (answers : ∀ time, interval.cadence ∣ time → gap.repairCommand.request.startStr ≤ time →
      time ≤ gap.repairCommand.request.endStr → ⟨symbol, interval.value, time⟩ ∈ klines.map MarketData.key)
    (time : ℤ) (onGrid : interval.cadence ∣ time) (after : gap.startTime < time) (before : time < gap.endTime) :
    ⟨symbol, interval.value, time⟩ ∈ ((gap.repairCommand.execute run table.rows).2).map MarketData.key := by
  obtain ⟨low, high⟩ := (repair_covers table symbol interval aligned gap isGap time onGrid).mpr ⟨after, before⟩
  have answered := answers time onGrid low high
  have ofSymbol : gap.repairCommand.symbol = symbol := by
    obtain ⟨bounds, _, rfl⟩ := List.mem_map.mp isGap
    rfl
  rw [RepairDataGapCommand.execute, if_neg (by rw [ofSymbol]; exact named), fetched]
  simp only [kept]
  cases klines with
  | nil => cases answered
  | cons first rest =>
      simp only [saves]
      exact (KeyedRows.upserts_keys_iff MarketData.key table.rows (first :: rest) _).mpr (.inr answered)

end Sagittarius
