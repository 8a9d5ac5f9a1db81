import Mathlib.Algebra.Order.BigOperators.Group.List
import Sagittarius.Screen.GapCoordinator

set_option autoImplicit false

namespace Sagittarius

variable {α : Type}

def RepairRun.brings (run : RepairRun α) (request : KlineRequest) : List (MarketData α) :=
  match run.fetch request with
  | .error _ => []
  | .ok klines => if run.cancellationRequested || run.saveRaises then [] else klines

-- Klines of the pair asked for, in the range asked for, each of them once.
structure KlineRequest.Answers (request : KlineRequest) (klines : List (MarketData α)) : Prop where
  distinct : (klines.map MarketData.key).Nodup
  ofPair : ∀ kline ∈ klines, kline.symbol = request.symbol ∧ kline.interval = request.interval.value
  onGrid : ∀ kline ∈ klines, request.interval.cadence ∣ kline.openTime
  inRange : ∀ kline ∈ klines, request.startStr ≤ kline.openTime ∧ kline.openTime ≤ request.endStr

def repairedOf (answer : Except String RepairDataGapResult) : ℕ :=
  match answer with
  | .ok result => result.repairedCandles
  | .error _ => 0

theorem brought_answers (run : RepairRun α) (request : KlineRequest)
    (answers : ∀ klines, run.fetch request = .ok klines → request.Answers klines) : request.Answers (run.brings request) := by
  have none : request.Answers ([] : List (MarketData α)) :=
    { distinct := .nil, ofPair := nofun, onGrid := nofun, inRange := nofun }
  rw [RepairRun.brings]
  cases fetched : run.fetch request with
  | error exc => exact none
  | ok klines =>
      dsimp only
      split_ifs
      · exact none
      · exact answers klines fetched

theorem execute_brings (command : RepairDataGapCommand) (run : RepairRun α) (rows : KlineRows α) (saveError : String)
    (named : command.symbol ≠ "") :
    (command.execute run rows).2 = rows.saveKlines (run.brings command.request) ∧
      repairedOf (command.dispatched run rows saveError) = (run.brings command.request).length := by
  rw [RepairDataGapCommand.dispatched, RepairDataGapCommand.execute, if_neg named, RepairRun.brings]
  cases run.fetch command.request with
  | error exc => cases exc <;> exact ⟨rfl, rfl⟩
  | ok klines =>
      by_cases cancelled : run.cancellationRequested = true
      · simp [cancelled, RepairDataGapCommand.refused, KlineRows.saveKlines, repairedOf]
      · cases klines with
        | nil => simp [cancelled, KlineRows.saveKlines, repairedOf]
        | cons first rest =>
            by_cases raises : run.saveRaises = true
            · simp [cancelled, raises, KlineRows.saveKlines, repairedOf]
            · simp [cancelled, raises, repairedOf]

-- `run_repair_all_gaps` over a store: the gaps found in it are repaired one
-- after the other, numbered from 0, each in the rows that the last one left.
structure StoreRepairs (α : Type) where
  table : KlineTable α
  symbol : String
  interval : TimeFrame
  runs : ℕ → RepairRun α
  saveError : ℕ → String

namespace StoreRepairs

variable (repairs : StoreRepairs α)

def gaps : List DataGap := repairs.table.getGaps repairs.symbol repairs.interval

def rowsAfter : ℕ → KlineRows α
  | 0 => repairs.table.rows
  | number + 1 =>
      match repairs.gaps[number]? with
      | none => rowsAfter number
      | some gap => (gap.repairCommand.execute (repairs.runs number) (rowsAfter number)).2

def dispatchRepair (number : ℕ) (command : RepairDataGapCommand) : Except String RepairDataGapResult :=
  command.dispatched (repairs.runs number) (repairs.rowsAfter number) (repairs.saveError number)

def repairedCandles : ℕ → ℕ
  | 0 => 0
  | number + 1 =>
      match repairs.gaps[number]? with
      | none => repairedCandles number
      | some gap => repairedCandles number + repairedOf (repairs.dispatchRepair number gap.repairCommand)

def brought : ℕ → List (MarketData α)
  | 0 => []
  | number + 1 =>
      match repairs.gaps[number]? with
      | none => brought number
      | some gap => brought number ++ (repairs.runs number).brings gap.repairCommand.request

structure Dispatches (run : RepairAllRun) : Prop where
  symbol : run.symbol = repairs.symbol
  interval : run.interval = repairs.interval.value
  gaps : ∀ result, repairs.table.inspectGaps repairs.symbol repairs.interval = .ok result →
    run.dispatchGaps { symbol := repairs.symbol, interval := repairs.interval } = .ok result
  repair : run.dispatchRepair = repairs.dispatchRepair

theorem execute_keys (command : RepairDataGapCommand) (run : RepairRun α) (rows : KlineRows α)
    (keys : (rows.map MarketData.key).Nodup) : ((command.execute run rows).2.map MarketData.key).Nodup := by
  by_cases named : command.symbol = ""
  · rw [RepairDataGapCommand.execute, if_pos named]
    exact keys
  · rw [(execute_brings command run rows "" named).1]
    exact KeyedRows.upserts_keys MarketData.key rows _ keys

theorem rows_after_keys (number : ℕ) : ((repairs.rowsAfter number).map MarketData.key).Nodup := by
  induction number with
  | zero => exact repairs.table.keys
  | succ number ih =>
      rw [rowsAfter]
      cases repairs.gaps[number]? with
      | none => exact ih
      | some gap => exact execute_keys gap.repairCommand (repairs.runs number) _ ih

def tableAfter (number : ℕ) : KlineTable α where
  rows := repairs.rowsAfter number
  keys := repairs.rows_after_keys number

section Accounts

variable (named : repairs.symbol ≠ "")
  (aligned : ∀ row ∈ repairs.table.pairRows repairs.symbol repairs.interval, repairs.interval.cadence ∣ row.openTime)
  (answers : ∀ gap ∈ repairs.gaps, ∀ number klines,
    (repairs.runs number).fetch gap.repairCommand.request = .ok klines → gap.repairCommand.request.Answers klines)

theorem gap_of_pair (gap : DataGap) (isGap : gap ∈ repairs.gaps) :
    gap.repairCommand.symbol = repairs.symbol ∧ gap.repairCommand.interval = repairs.interval := by
  obtain ⟨bounds, _, rfl⟩ := List.mem_map.mp isGap
  exact ⟨rfl, rfl⟩

include named in
theorem repaired_count (number : ℕ) : repairs.repairedCandles number = (repairs.brought number).length := by
  induction number with
  | zero => rfl
  | succ number ih =>
      rw [repairedCandles, brought]
      cases found : repairs.gaps[number]? with
      | none => exact ih
      | some gap =>
          have ofSymbol := (repairs.gap_of_pair gap (List.mem_of_getElem? found)).1
          have counted := (execute_brings gap.repairCommand (repairs.runs number) (repairs.rowsAfter number)
            (repairs.saveError number) (by rw [ofSymbol]; exact named)).2
          dsimp only
          rw [List.length_append, ih, dispatchRepair, counted]

def FillsGap (number : ℕ) (kline : MarketData α) : Prop :=
  kline.symbol = repairs.symbol ∧ kline.interval = repairs.interval.value ∧ repairs.interval.cadence ∣ kline.openTime ∧
    ∃ gap, repairs.gaps[number]? = some gap ∧ gap.startTime < kline.openTime ∧ kline.openTime < gap.endTime

include aligned answers in
theorem brings_fill (number : ℕ) (gap : DataGap) (found : repairs.gaps[number]? = some gap) :
    (((repairs.runs number).brings gap.repairCommand.request).map MarketData.key).Nodup ∧
      ∀ kline ∈ (repairs.runs number).brings gap.repairCommand.request, repairs.FillsGap number kline := by
  have isGap := List.mem_of_getElem? found
  obtain ⟨ofSymbol, ofInterval⟩ := repairs.gap_of_pair gap isGap
  have answered := brought_answers (repairs.runs number) gap.repairCommand.request (answers gap isGap number)
  refine ⟨answered.distinct, fun kline isKline => ?_⟩
  have onGrid : repairs.interval.cadence ∣ kline.openTime := ofInterval ▸ answered.onGrid kline isKline
  have within := (repair_covers repairs.table repairs.symbol repairs.interval aligned gap isGap kline.openTime onGrid).mp
    (answered.inRange kline isKline)
  exact ⟨(answered.ofPair kline isKline).1.trans ofSymbol,
    (answered.ofPair kline isKline).2.trans (congrArg TimeFrame.value ofInterval), onGrid, gap, found, within⟩

include aligned answers in
theorem brought_fill (number : ℕ) :
    ∀ kline ∈ repairs.brought number, ∃ before < number, repairs.FillsGap before kline := by
  induction number with
  | zero => exact nofun
  | succ number ih =>
      intro kline isKline
      rw [brought] at isKline
      cases found : repairs.gaps[number]? with
      | none =>
          rw [found] at isKline
          obtain ⟨before, less, fills⟩ := ih kline isKline
          exact ⟨before, less.trans (Nat.lt_succ_self number), fills⟩
      | some gap =>
          rw [found] at isKline
          cases List.mem_append.mp isKline with
          | inl earlier =>
              obtain ⟨before, less, fills⟩ := ih kline earlier
              exact ⟨before, less.trans (Nat.lt_succ_self number), fills⟩
          | inr new =>
              exact ⟨number, Nat.lt_succ_self number, (repairs.brings_fill aligned answers number gap found).2 kline new⟩

theorem key_stored (table : KlineTable α) (symbol : String) (interval : TimeFrame) (time : ℤ) :
    ⟨symbol, interval.value, time⟩ ∈ table.rows.map MarketData.key ↔ time ∈ storedOpens table symbol interval := by
  rw [stored_opens_mem, List.mem_map]
  constructor
  · rintro ⟨row, isRow, same⟩
    have parts := KlineKey.mk.inj same
    exact ⟨row, List.mem_filter.mpr ⟨isRow, decide_eq_true ⟨parts.1, parts.2.1⟩⟩, parts.2.2⟩
  · rintro ⟨row, isRow, same⟩
    obtain ⟨listed, ofPair⟩ := List.mem_filter.mp isRow
    obtain ⟨ofSymbol, ofInterval⟩ := of_decide_eq_true ofPair
    exact ⟨row, listed, by rw [← same, ← ofSymbol, ← ofInterval]; rfl⟩

include aligned in
theorem fill_absent (number : ℕ) (kline : MarketData α) (fills : repairs.FillsGap number kline) :
    kline.key ∉ repairs.table.rows.map MarketData.key := by
  obtain ⟨ofSymbol, ofInterval, onGrid, gap, found, within⟩ := fills
  have missing := ((gaps_missing_iff repairs.table repairs.symbol repairs.interval aligned kline.openTime onGrid).mp
    ⟨gap, List.mem_of_getElem? found, within⟩).1
  rw [MarketData.key, ofSymbol, ofInterval, key_stored]
  exact missing

include aligned in
theorem fills_apart (before after : ℕ) (less : before < after) (first second : MarketData α)
    (fillsFirst : repairs.FillsGap before first) (fillsSecond : repairs.FillsGap after second) :
    first.openTime < second.openTime := by
  obtain ⟨_, _, _, gap, found, _, high⟩ := fillsFirst
  obtain ⟨_, _, _, later, foundLater, low, _⟩ := fillsSecond
  obtain ⟨bound, isGap⟩ := List.getElem?_eq_some_iff.mp found
  obtain ⟨boundLater, isLater⟩ := List.getElem?_eq_some_iff.mp foundLater
  have ordered := List.pairwise_iff_getElem.mp (gaps_ordered repairs.table repairs.symbol repairs.interval aligned)
    before after bound boundLater less
  change repairs.gaps[before].endTime ≤ repairs.gaps[after].startTime at ordered
  rw [isGap, isLater] at ordered
  omega

include named aligned answers in
theorem rows_after_append (number : ℕ) : repairs.rowsAfter number = repairs.table.rows ++ repairs.brought number := by
  induction number with
  | zero => exact (List.append_nil _).symm
  | succ number ih =>
      rw [rowsAfter, brought]
      cases found : repairs.gaps[number]? with
      | none => exact ih
      | some gap =>
          have ofSymbol := (repairs.gap_of_pair gap (List.mem_of_getElem? found)).1
          obtain ⟨distinct, fill⟩ := repairs.brings_fill aligned answers number gap found
          dsimp only
          rw [(execute_brings gap.repairCommand (repairs.runs number) (repairs.rowsAfter number) ""
            (by rw [ofSymbol]; exact named)).1, KlineRows.saveKlines, KeyedRows.upsert_new, ih, List.append_assoc]
          rw [List.map_append]
          refine List.Nodup.append (repairs.rows_after_keys number) distinct fun key stored new => ?_
          obtain ⟨kline, isNew, rfl⟩ := List.mem_map.mp new
          have fills := fill kline isNew
          rw [ih, List.map_append, List.mem_append] at stored
          cases stored with
          | inl old => exact repairs.fill_absent aligned number kline fills old
          | inr earlier =>
              obtain ⟨other, isEarlier, same⟩ := List.mem_map.mp earlier
              obtain ⟨before, less, fillsOther⟩ := repairs.brought_fill aligned answers number other isEarlier
              have apart := repairs.fills_apart aligned before number less other kline fillsOther fills
              exact apart.ne (congrArg KlineKey.openTime same)

include named aligned answers in
theorem pair_rows_after (number : ℕ) :
    (repairs.tableAfter number).pairRows repairs.symbol repairs.interval =
      repairs.table.pairRows repairs.symbol repairs.interval ++ repairs.brought number := by
  have ofPair : KlineRows.ofPair (repairs.brought number) repairs.symbol repairs.interval.value = repairs.brought number := by
    refine List.filter_eq_self.mpr fun kline isKline => decide_eq_true ?_
    obtain ⟨before, _, ofSymbol, ofInterval, _⟩ := repairs.brought_fill aligned answers number kline isKline
    exact ⟨ofSymbol, ofInterval⟩
  have appended := repairs.rows_after_append named aligned answers number
  change KlineRows.ofPair (repairs.rowsAfter number) repairs.symbol repairs.interval.value = _
  rw [appended, KlineRows.ofPair, List.filter_append]
  exact congrArg (repairs.table.pairRows repairs.symbol repairs.interval ++ ·) ofPair

include named aligned answers in
theorem stored_after_mem (number : ℕ) (time : ℤ) :
    time ∈ storedOpens (repairs.tableAfter number) repairs.symbol repairs.interval ↔
      time ∈ storedOpens repairs.table repairs.symbol repairs.interval ∨ time ∈ opensOf (repairs.brought number) := by
  rw [stored_opens_mem, stored_opens_mem, repairs.pair_rows_after named aligned answers, opensOf, List.mem_map]
  simp only [List.mem_append, or_and_right, exists_or]

include named aligned answers in
theorem aligned_after (number : ℕ) :
    ∀ row ∈ (repairs.tableAfter number).pairRows repairs.symbol repairs.interval,
      repairs.interval.cadence ∣ row.openTime := by
  intro row isRow
  rw [repairs.pair_rows_after named aligned answers] at isRow
  cases List.mem_append.mp isRow with
  | inl old => exact aligned row old
  | inr new =>
      obtain ⟨before, _, _, _, onGrid, _⟩ := repairs.brought_fill aligned answers number row new
      exact onGrid

include aligned answers in
theorem brought_between (number : ℕ) (time : ℤ) (isTime : time ∈ opensOf (repairs.brought number)) :
    ∃ low ∈ storedOpens repairs.table repairs.symbol repairs.interval,
      ∃ high ∈ storedOpens repairs.table repairs.symbol repairs.interval, low < time ∧ time < high := by
  obtain ⟨kline, isKline, rfl⟩ := List.mem_map.mp isTime
  obtain ⟨before, _, _, _, _, gap, found, within⟩ := repairs.brought_fill aligned answers number kline isKline
  have isHole := (gaps_mem repairs.table repairs.symbol repairs.interval aligned gap (List.mem_of_getElem? found)).2
  obtain ⟨low, high⟩ := Spacing.neighbours_mem _ _ ((Spacing.holes_mem _ _).mp isHole).1
  exact ⟨gap.startTime, low, gap.endTime, high, within⟩

include named aligned answers in
theorem still_missing (number : ℕ) (time : ℤ) (onGrid : repairs.interval.cadence ∣ time) :
    (∃ gap ∈ (repairs.tableAfter number).getGaps repairs.symbol repairs.interval,
        gap.startTime < time ∧ time < gap.endTime) ↔
      (∃ gap ∈ repairs.gaps, gap.startTime < time ∧ time < gap.endTime) ∧ time ∉ opensOf (repairs.brought number) := by
  have member := repairs.stored_after_mem named aligned answers number
  rw [gaps, gaps_missing_iff _ _ _ (repairs.aligned_after named aligned answers number) time onGrid,
    gaps_missing_iff _ _ _ aligned time onGrid, member]
  constructor
  · intro missing
    obtain ⟨absent, ⟨before, isBefore, less⟩, after, isAfter, more⟩ := missing
    refine ⟨⟨fun old => absent (.inl old), ?_, ?_⟩, fun new => absent (.inr new)⟩
    · cases (member before).mp isBefore with
      | inl old => exact ⟨before, old, less⟩
      | inr new =>
          obtain ⟨low, isLow, _, _, lower, _⟩ := repairs.brought_between aligned answers number before new
          exact ⟨low, isLow, lower.trans less⟩
    · cases (member after).mp isAfter with
      | inl old => exact ⟨after, old, more⟩
      | inr new =>
          obtain ⟨_, _, high, isHigh, _, higher⟩ := repairs.brought_between aligned answers number after new
          exact ⟨high, isHigh, more.trans higher⟩
  · intro missing
    obtain ⟨⟨absent, ⟨before, isBefore, less⟩, after, isAfter, more⟩, notBrought⟩ := missing
    exact ⟨fun either => either.elim absent notBrought, ⟨before, (member before).mpr (.inl isBefore), less⟩, after,
      (member after).mpr (.inl isAfter), more⟩

def missingCandles (table : KlineTable α) : ℤ :=
  ((table.getGaps repairs.symbol repairs.interval).map (·.missingCandles)).sum

include named aligned answers in
theorem missing_account (number : ℕ) :
    repairs.missingCandles (repairs.tableAfter number) + (repairs.brought number).length =
      repairs.missingCandles repairs.table := by
  have member := repairs.stored_after_mem named aligned answers number
  have alignedAfter := repairs.aligned_after named aligned answers number
  have between := repairs.brought_between aligned answers number
  have marks := stored_marks repairs.table repairs.symbol repairs.interval aligned
  have marksAfter := stored_marks (repairs.tableAfter number) repairs.symbol repairs.interval alignedAfter
  rw [missingCandles, missingCandles]
  cases isFirst : (storedOpens repairs.table repairs.symbol repairs.interval).head? with
  | none =>
      have empty := List.head?_eq_none_iff.mp isFirst
      have nothing : repairs.brought number = [] := by
        refine List.eq_nil_iff_forall_not_mem.mpr fun kline isKline => ?_
        obtain ⟨low, isLow, _⟩ := between kline.openTime (List.mem_map_of_mem isKline)
        rw [empty] at isLow
        cases isLow
      have emptyAfter : storedOpens (repairs.tableAfter number) repairs.symbol repairs.interval = [] := by
        refine List.eq_nil_iff_forall_not_mem.mpr fun time inside => ?_
        rw [member, empty, nothing] at inside
        simp [opensOf] at inside
      rw [gaps_holes _ _ _ alignedAfter, gaps_holes _ _ _ aligned, empty, emptyAfter, nothing]
      rfl
  | some first =>
      obtain ⟨last, isLast⟩ : ∃ last, (storedOpens repairs.table repairs.symbol repairs.interval).getLast? = some last :=
        ⟨_, List.getLast?_eq_some_getLast (List.ne_nil_of_mem (List.mem_of_head? isFirst))⟩
      have firstLe := Spacing.first_le _ marks first isFirst
      have leLast := Spacing.le_last _ marks last isLast
      have isFirstAfter : (storedOpens (repairs.tableAfter number) repairs.symbol repairs.interval).head? = some first := by
        refine Spacing.head_least _ first marksAfter.increasing ⟨(member first).mpr (.inl (List.mem_of_head? isFirst)), ?_⟩
        intro time inside
        cases (member time).mp inside with
        | inl old => exact firstLe time old
        | inr new =>
            obtain ⟨low, isLow, _, _, lower, _⟩ := between time new
            exact (firstLe low isLow).trans lower.le
      have isLastAfter : (storedOpens (repairs.tableAfter number) repairs.symbol repairs.interval).getLast? = some last := by
        rw [← Spacing.max_increasing _ _ marksAfter.increasing (List.Perm.refl _), List.max?_eq_some_iff]
        refine ⟨(member last).mpr (.inl (List.mem_of_getLast? isLast)), fun time inside => ?_⟩
        cases (member time).mp inside with
        | inl old => exact leLast time old
        | inr new =>
            obtain ⟨_, _, high, isHigh, _, higher⟩ := between time new
            exact higher.le.trans (leLast high isHigh)
      have account := gaps_account repairs.table repairs.symbol repairs.interval aligned first last isFirst isLast
      have accountAfter := gaps_account (repairs.tableAfter number) repairs.symbol repairs.interval alignedAfter first last
        isFirstAfter isLastAfter
      rw [repairs.pair_rows_after named aligned answers, List.length_append] at accountAfter
      push_cast at accountAfter
      omega

theorem gap_lacks (table : KlineTable α) (gap : DataGap) (isGap : gap ∈ table.getGaps repairs.symbol repairs.interval) :
    1 ≤ gap.missingCandles := by
  obtain ⟨bounds, _, rfl⟩ := List.mem_map.mp isGap
  exact le_max_left _ _

theorem missing_none_iff (table : KlineTable α) :
    repairs.missingCandles table = 0 ↔ table.getGaps repairs.symbol repairs.interval = [] := by
  rw [missingCandles]
  constructor
  · intro none
    refine List.eq_nil_iff_forall_not_mem.mpr fun gap isGap => ?_
    have positive := List.single_le_sum (l := (table.getGaps repairs.symbol repairs.interval).map (·.missingCandles))
      (fun count isCount => by
        obtain ⟨other, isOther, rfl⟩ := List.mem_map.mp isCount
        exact (Int.one_nonneg).trans (repairs.gap_lacks table other isOther))
      gap.missingCandles (List.mem_map_of_mem isGap)
    have lacks := repairs.gap_lacks table gap isGap
    omega
  · intro none
    rw [none]
    rfl

end Accounts

theorem inspected_missing (table : KlineTable α) (named : repairs.symbol ≠ "") :
    ∃ result, table.inspectGaps repairs.symbol repairs.interval = .ok result ∧
      result.totalMissingCandles = repairs.missingCandles table ∧
      result.gaps = (table.getGaps repairs.symbol repairs.interval).zipIdx.map fun (gap, idx) =>
        gap.toDTO (idx + 1) repairs.symbol repairs.interval := by
  obtain ⟨isFirst, isLast, count⟩ := status_stored table repairs.symbol repairs.interval
  rw [KlineTable.inspectGaps, getDatabaseGaps, if_neg named, isFirst, isLast, count, missingCandles]
  cases opens : storedOpens table repairs.symbol repairs.interval with
  | nil =>
      have none : table.getGaps repairs.symbol repairs.interval = [] := by
        obtain ⟨gapOf, _, _, isGaps⟩ := gaps_of_stored table repairs.symbol repairs.interval
        rw [isGaps, opens]
        rfl
      rw [none]
      exact ⟨_, rfl, rfl, rfl⟩
  | cons first rest =>
      rw [List.getLast?_eq_some_getLast (List.cons_ne_nil first rest)]
      exact ⟨_, rfl, rfl, rfl⟩

theorem success_dispatches_all (named : repairs.symbol ≠ "") (run : RepairAllRun) (tracker : GapTracker)
    (dispatches : repairs.Dispatches run) (reports : ReportsSuccess .repairAllGaps (run.runRepairAllGaps tracker).1)
    (number : ℕ) (gap : DataGap) (found : repairs.gaps[number]? = some gap) :
    run.cancelledBefore number = false ∧ ∃ result, repairs.dispatchRepair number gap.repairCommand = .ok result := by
  obtain ⟨_, uninterrupted, _⟩ := (run.reports_iff tracker).mp reports
  obtain ⟨result, inspected, _, shown⟩ := repairs.inspected_missing repairs.table named
  obtain ⟨ofSymbol, ofInterval⟩ := repairs.gap_of_pair gap (List.mem_of_getElem? found)
  have isFound : run.found = .ok (repairs.interval, result) := by
    have read : timeFrameOf repairs.interval.value = .ok repairs.interval := by
      rw [timeFrameOf, TimeFrame.value_read_back]
    rw [RepairAllRun.found, dispatches.interval, dispatches.symbol, read]
    change (run.dispatchGaps { symbol := repairs.symbol, interval := repairs.interval } >>= _) = _
    rw [dispatches.gaps result inspected]
    rfl
  have isAttempt : (number, repairs.dispatchRepair number gap.repairCommand) ∈ run.attempts := by
    rw [RepairAllRun.attempts, isFound]
    have listed : (gap.toDTO (number + 1) repairs.symbol repairs.interval, number) ∈ result.gaps.zipIdx := by
      rw [List.mem_zipIdx_iff_getElem?, shown, List.getElem?_map, List.getElem?_zipIdx]
      change Option.map _ (Option.map _ repairs.gaps[number]?) = _
      rw [found]
      simp
    have asked : run.repair repairs.interval number (gap.toDTO (number + 1) repairs.symbol repairs.interval) =
        repairs.dispatchRepair number gap.repairCommand := by
      rw [RepairAllRun.repair, dispatches.repair, dispatches.symbol, ← ofSymbol, ← ofInterval]
      rfl
    exact List.mem_map.mpr ⟨_, listed, congrArg (Prod.mk number) asked⟩
  constructor
  · exact Bool.eq_false_iff.mpr fun cancelled => uninterrupted ⟨_, isAttempt, .inl cancelled⟩
  · cases answered : repairs.dispatchRepair number gap.repairCommand with
    | error exc => exact absurd ⟨_, isAttempt, .inr ⟨exc, answered⟩⟩ uninterrupted
    | ok answer => exact ⟨answer, rfl⟩

end StoreRepairs

-- A pass of repairs keeps every stored candle and adds those it counts, all of
-- them in gaps. An inspection afterwards misses as many fewer, and none only if
-- all are repaired. A success is told of no pass that was left unfinished.
theorem repairs_accounted (repairs : StoreRepairs α) (named : repairs.symbol ≠ "")
    (aligned : ∀ row ∈ repairs.table.pairRows repairs.symbol repairs.interval, repairs.interval.cadence ∣ row.openTime)
    (answers : ∀ gap ∈ repairs.gaps, ∀ number klines,
      (repairs.runs number).fetch gap.repairCommand.request = .ok klines → gap.repairCommand.request.Answers klines)
    (number : ℕ) :
    let after := repairs.tableAfter number
    (∃ candles, after.rows = repairs.table.rows ++ candles ∧ candles.length = repairs.repairedCandles number ∧
        ∀ kline ∈ candles, kline.symbol = repairs.symbol ∧ kline.interval = repairs.interval.value ∧
          ∃ gap ∈ repairs.gaps, gap.startTime < kline.openTime ∧ kline.openTime < gap.endTime) ∧
      (∃ inspected inspectedAfter, repairs.table.inspectGaps repairs.symbol repairs.interval = .ok inspected ∧
        after.inspectGaps repairs.symbol repairs.interval = .ok inspectedAfter ∧
        inspectedAfter.totalMissingCandles + repairs.repairedCandles number = inspected.totalMissingCandles ∧
        (inspectedAfter.gaps = [] ↔ repairs.repairedCandles number = inspected.totalMissingCandles)) ∧
      (∀ time, repairs.interval.cadence ∣ time →
        ((∃ gap ∈ after.getGaps repairs.symbol repairs.interval, gap.startTime < time ∧ time < gap.endTime) ↔
          (∃ gap ∈ repairs.gaps, gap.startTime < time ∧ time < gap.endTime) ∧
            time ∉ storedTimes after repairs.symbol repairs.interval)) ∧
      ∀ run tracker, repairs.Dispatches run → ReportsSuccess .repairAllGaps (run.runRepairAllGaps tracker).1 →
        ∀ index gap, repairs.gaps[index]? = some gap →
          run.cancelledBefore index = false ∧ ∃ result, repairs.dispatchRepair index gap.repairCommand = .ok result := by
  intro after
  have counted := repairs.repaired_count named number
  refine ⟨⟨repairs.brought number, repairs.rows_after_append named aligned answers number, counted.symm, ?_⟩, ?_, ?_,
    fun run tracker dispatches reports index gap found =>
      repairs.success_dispatches_all named run tracker dispatches reports index gap found⟩
  · intro kline isKline
    obtain ⟨_, _, ofSymbol, ofInterval, _, gap, found, within⟩ := repairs.brought_fill aligned answers number kline isKline
    exact ⟨ofSymbol, ofInterval, gap, List.mem_of_getElem? found, within⟩
  · obtain ⟨inspected, isInspected, total, _⟩ := repairs.inspected_missing repairs.table named
    obtain ⟨inspectedAfter, isAfter, totalAfter, shown⟩ := repairs.inspected_missing after named
    have account := repairs.missing_account named aligned answers number
    have sum : inspectedAfter.totalMissingCandles + repairs.repairedCandles number = inspected.totalMissingCandles := by
      rw [total, totalAfter, counted]
      exact account
    refine ⟨inspected, inspectedAfter, isInspected, isAfter, sum, ?_⟩
    have none : inspectedAfter.gaps = [] ↔ repairs.missingCandles after = 0 := by
      rw [repairs.missing_none_iff, shown, List.map_eq_nil_iff, List.zipIdx_eq_nil_iff]
    rw [none, ← totalAfter]
    omega
  · intro time onGrid
    rw [repairs.still_missing named aligned answers number time onGrid]
    refine and_congr_right fun wasMissing => not_congr ?_
    have absent := ((gaps_missing_iff _ _ _ aligned time onGrid).mp wasMissing).1
    change _ ↔ ∃ row ∈ after.pairRows repairs.symbol repairs.interval, row.openTime = time
    rw [← stored_opens_mem, repairs.stored_after_mem named aligned answers number]
    exact (or_iff_right absent).symm

def holedRepairs : StoreRepairs ℚ where
  table := holedTable
  symbol := "BTCUSDT"
  interval := .oneMinute
  runs := fun _ => { fetch := fun _ => .ok [minuteKline 100 2] }
  saveError := fun _ => ""

theorem holed_repairs_answered (gap : DataGap) (isGap : gap ∈ holedRepairs.gaps) (number : ℕ)
    (klines : List (MarketData ℚ)) (fetched : (holedRepairs.runs number).fetch gap.repairCommand.request = .ok klines) :
    gap.repairCommand.request.Answers klines := by
  have only : holedRepairs.gaps = [{ symbol := "BTCUSDT", interval := .oneMinute, startTime := 60000000
                                     endTime := 180000000, missingCandles := 1 }] := by decide +kernel
  rw [only, List.mem_singleton] at isGap
  subst isGap
  cases fetched
  exact { distinct := by decide +kernel, ofPair := by decide +kernel, onGrid := by decide +kernel, inRange := by decide +kernel }

theorem holed_repairs_accounted :
    ∃ inspectedAfter, (holedRepairs.tableAfter 1).inspectGaps "BTCUSDT" .oneMinute = .ok inspectedAfter ∧
      inspectedAfter.gaps = [] := by
  obtain ⟨_, ⟨inspected, inspectedAfter, isInspected, isAfter, _, none⟩, _⟩ :=
    repairs_accounted holedRepairs (by decide) (by decide +kernel) holed_repairs_answered 1
  refine ⟨inspectedAfter, isAfter, none.mpr ?_⟩
  have total : (holedTable.inspectGaps "BTCUSDT" .oneMinute).toOption.map (·.totalMissingCandles) = some 1 := by
    decide +kernel
  change holedTable.inspectGaps "BTCUSDT" .oneMinute = _ at isInspected
  rw [isInspected] at total
  have repaired : holedRepairs.repairedCandles 1 = 1 := by decide +kernel
  rw [repaired]
  exact (Option.some.inj total).symm

end Sagittarius
