import Mathlib.Data.List.Basic
import Mathlib.Data.Rat.Defs
import Mathlib.Tactic.Linarith

set_option autoImplicit false

namespace Sagittarius

structure ProgressThrottle where
  minIntervalSeconds : ℚ := 15 / 100
  lastEmitTime : Option ℚ := none

def ProgressThrottle.shouldEmit (throttle : ProgressThrottle) (index total : ℕ) (clock : ℚ) : Bool × ProgressThrottle :=
  if index ≤ 1 ∨ total ≤ index then (true, { throttle with lastEmitTime := some clock })
  else if throttle.lastEmitTime.all fun last => throttle.minIntervalSeconds ≤ clock - last then
    (true, { throttle with lastEmitTime := some clock })
  else (false, throttle)

-- A phase of a replay: how many bars it expects, and what the clock says as
-- each of those it gets to is done. A cancelled phase gets to fewer.
structure ReplayPhase where
  name : String
  barCount : ℕ
  clocks : List ℚ
  bounded : clocks.length ≤ barCount

structure ProgressReport where
  phase : String
  processed : ℕ
  clock : ℚ
deriving DecidableEq

namespace ReplayPhase

def emitted (total : ℕ) : ProgressThrottle → ℕ → List ℚ → List (ℕ × ℚ)
  | _, _, [] => []
  | throttle, index, clock :: rest =>
      let (emit, next) := throttle.shouldEmit index total clock
      (if emit then [(index, clock)] else []) ++ emitted total next (index + 1) rest

def reports (phase : ReplayPhase) (completedBefore : ℕ) : List ProgressReport :=
  (emitted phase.barCount {} 1 phase.clocks).map fun (index, clock) =>
    { phase := phase.name, processed := completedBefore + index, clock }

end ReplayPhase

-- Each phase has a throttle of its own and goes on counting where the one
-- before it ended.
def progressReports : ℕ → List ReplayPhase → List ProgressReport
  | _, [] => []
  | completed, phase :: rest => phase.reports completed ++ progressReports (completed + phase.barCount) rest

namespace ReplayPhase

-- A report is made exactly when the bar is the first or the last or when the
-- last report is old enough.
theorem should_emit_cases (throttle : ProgressThrottle) (index total : ℕ) (clock last : ℚ)
    (said : throttle.lastEmitTime = some last) (later : 1 < index) :
    (throttle.shouldEmit index total clock = (true, { throttle with lastEmitTime := some clock }) ∧
        (total ≤ index ∨ throttle.minIntervalSeconds ≤ clock - last)) ∨
      throttle.shouldEmit index total clock = (false, throttle) ∧ index < total ∧
        clock - last < throttle.minIntervalSeconds := by
  unfold ProgressThrottle.shouldEmit
  by_cases ends : total ≤ index
  · exact .inl ⟨if_pos (.inr ends), .inl ends⟩
  · rw [if_neg (by omega), said]
    by_cases old : throttle.minIntervalSeconds ≤ clock - last
    · exact .inl ⟨if_pos (by simpa using old), .inr old⟩
    · exact .inr ⟨if_neg (by simpa using old), by omega, not_le.mp old⟩

theorem emitted_indices (total : ℕ) (throttle : ProgressThrottle) (index : ℕ) (clocks : List ℚ) :
    ((emitted total throttle index clocks).map Prod.fst).Pairwise (· < ·) ∧
      ∀ report ∈ emitted total throttle index clocks, index ≤ report.1 ∧ report.1 < index + clocks.length ∧
        clocks[report.1 - index]? = some report.2 := by
  induction clocks generalizing throttle index with
  | nil => simp [emitted]
  | cons clock rest ih =>
      rw [emitted]
      generalize throttle.shouldEmit index total clock = answer
      obtain ⟨increasing, located⟩ := ih answer.2 (index + 1)
      have after : ∀ report ∈ emitted total answer.2 (index + 1) rest, index ≤ report.1 ∧
          report.1 < index + (clock :: rest).length ∧ (clock :: rest)[report.1 - index]? = some report.2 := by
        intro report listed
        obtain ⟨above, below, read⟩ := located report listed
        refine ⟨by omega, by rw [List.length_cons]; omega, ?_⟩
        rw [show report.1 - index = report.1 - (index + 1) + 1 by omega, List.getElem?_cons_succ]
        exact read
      obtain ⟨emit, next⟩ := answer
      cases emit with
      | false => exact ⟨increasing, after⟩
      | true =>
          refine ⟨List.pairwise_cons.mpr ⟨fun later listed => ?_, increasing⟩, fun report listed => ?_⟩
          · obtain ⟨report, isReport, rfl⟩ := List.mem_map.mp listed
            exact (located report isReport).1
          · rcases List.mem_cons.mp listed with rfl | later
            · exact ⟨le_rfl, by simp, by simp⟩
            · exact after report later

-- By induction on the bars: what is still to be reported fits into the time
-- that passes after the last report, up to the last bar's.
theorem emitted_sparse (total : ℕ) (throttle : ProgressThrottle) (index : ℕ) (clocks : List ℚ) (last final : ℚ)
    (said : throttle.lastEmitTime = some last) (later : 1 < index) (fits : index + clocks.length ≤ total + 1)
    (nonnegative : 0 ≤ throttle.minIntervalSeconds) (untilFinal : ∀ clock ∈ clocks, clock ≤ final)
    (ends : last ≤ final) :
    throttle.minIntervalSeconds * (emitted total throttle index clocks).length ≤
      final - last + throttle.minIntervalSeconds := by
  induction clocks generalizing throttle index last with
  | nil =>
      simp only [emitted, List.length_nil, Nat.cast_zero, mul_zero]
      linarith
  | cons clock rest ih =>
      have atMost := untilFinal clock (by simp)
      have restFits : index + 1 + rest.length ≤ total + 1 := by
        rw [List.length_cons] at fits
        omega
      have restFinal : ∀ other ∈ rest, other ≤ final := fun other listed => untilFinal other (by simp [listed])
      rcases should_emit_cases throttle index total clock last said later with ⟨answer, isLast | isOld⟩ | ⟨answer, _, _⟩
      · have none_left : rest = [] := List.length_eq_zero_iff.mp (by omega)
        simp only [emitted, answer, none_left, if_true, List.append_nil, List.length_singleton, Nat.cast_one, mul_one]
        linarith
      · have more := ih { throttle with lastEmitTime := some clock } (index + 1) clock rfl (by omega) restFits nonnegative
          restFinal atMost
        simp only [emitted, answer, if_true, List.length_append, List.length_singleton, Nat.cast_add, Nat.cast_one,
          mul_add, mul_one] at more ⊢
        linarith
      · have more := ih throttle (index + 1) last said (by omega) restFits nonnegative restFinal ends
        simpa only [emitted, answer, Bool.false_eq_true, if_false, List.nil_append] using more

theorem emitted_recent (total : ℕ) (throttle : ProgressThrottle) (index : ℕ) (clocks : List ℚ) (last : ℚ)
    (said : throttle.lastEmitTime = some last) (later : 1 < index) (positive : 0 < throttle.minIntervalSeconds) (i : ℕ)
    (clock : ℚ) (read : clocks[i]? = some clock) :
    clock - last < throttle.minIntervalSeconds ∨
      ∃ report ∈ emitted total throttle index clocks, report.1 ≤ index + i ∧
        clock - report.2 < throttle.minIntervalSeconds := by
  induction clocks generalizing throttle index last i with
  | nil => cases read
  | cons first rest ih =>
      rcases should_emit_cases throttle index total first last said later with ⟨answer, _⟩ | ⟨answer, _, recent⟩
      · right
        simp only [emitted, answer, if_true, List.singleton_append, List.mem_cons]
        cases i with
        | zero =>
            cases read
            exact ⟨_, .inl rfl, le_rfl, by simpa using positive⟩
        | succ i =>
            rcases ih { throttle with lastEmitTime := some first } (index + 1) first rfl (by omega) positive i read with
              fresh | ⟨report, listed, before, fresh⟩
            · exact ⟨_, .inl rfl, Nat.le_add_right _ _, fresh⟩
            · exact ⟨report, .inr listed, by omega, fresh⟩
      · simp only [emitted, answer, Bool.false_eq_true, if_false, List.nil_append]
        cases i with
        | zero =>
            cases read
            exact .inl recent
        | succ i =>
            refine (ih throttle (index + 1) last said (by omega) positive i read).imp_right ?_
            rintro ⟨report, listed, before, fresh⟩
            exact ⟨report, listed, by omega, fresh⟩

theorem emitted_last (total : ℕ) (throttle : ProgressThrottle) (index : ℕ) (clocks : List ℚ) (final : ℚ)
    (ends : index + clocks.length = total + 1) (isLast : clocks.getLast? = some final) :
    (emitted total throttle index clocks).getLast? = some (total, final) := by
  induction clocks generalizing throttle index with
  | nil => cases isLast
  | cons clock rest ih =>
      rw [emitted]
      cases rest with
      | nil =>
          cases isLast
          have atEnd : index = total := by simpa using ends
          simp [ProgressThrottle.shouldEmit, atEnd, emitted]
      | cons second others =>
          rw [List.getLast?_cons_cons] at isLast
          rw [List.getLast?_append, ih _ (index + 1) (by rw [List.length_cons] at ends; omega) isLast]
          rfl

theorem reports_counted (phase : ReplayPhase) (completedBefore : ℕ) :
    ((phase.reports completedBefore).map (·.processed)).Pairwise (· < ·) ∧
      ∀ report ∈ phase.reports completedBefore, completedBefore < report.processed ∧
        report.processed ≤ completedBefore + phase.barCount := by
  obtain ⟨increasing, located⟩ := emitted_indices phase.barCount {} 1 phase.clocks
  have bounded := phase.bounded
  constructor
  · rw [reports, List.map_map]
    rw [List.pairwise_map] at increasing ⊢
    exact increasing.imp fun less => Nat.add_lt_add_left less completedBefore
  · intro report listed
    obtain ⟨⟨index, clock⟩, isEmitted, rfl⟩ := List.mem_map.mp listed
    obtain ⟨above, below, _⟩ := located _ isEmitted
    dsimp only at above below ⊢
    omega

theorem emitted_first (total : ℕ) (first : ℚ) (rest : List ℚ) :
    emitted total {} 1 (first :: rest) = (1, first) :: emitted total { lastEmitTime := some first } 2 rest := rfl

theorem reports_sparse (phase : ReplayPhase) (completedBefore : ℕ) (start final : ℚ)
    (within : ∀ clock ∈ phase.clocks, start ≤ clock ∧ clock ≤ final) (ends : start ≤ final) :
    15 / 100 * ((phase.reports completedBefore).length : ℚ) ≤ 2 * (15 / 100) + (final - start) := by
  rw [reports, List.length_map]
  have bounded := phase.bounded
  cases read : phase.clocks with
  | nil =>
      simp only [emitted, List.length_nil, Nat.cast_zero, mul_zero]
      linarith
  | cons first rest =>
      rw [read, List.length_cons] at bounded
      rw [read] at within
      have atFirst := within first (by simp)
      have sparse := emitted_sparse phase.barCount { lastEmitTime := some first } 2 rest first final rfl (by omega)
        (by omega) (by norm_num) (fun clock listed => (within clock (by simp [listed])).2) atFirst.2
      rw [emitted_first, List.length_cons, Nat.cast_add, Nat.cast_one]
      dsimp only at sparse
      linarith

theorem reports_recent (phase : ReplayPhase) (completedBefore i : ℕ) (clock : ℚ) (read : phase.clocks[i]? = some clock) :
    ∃ report ∈ phase.reports completedBefore,
      report.processed ≤ completedBefore + i + 1 ∧ clock - report.clock < 15 / 100 := by
  suffices found : ∃ report ∈ emitted phase.barCount {} 1 phase.clocks, report.1 ≤ i + 1 ∧ clock - report.2 < 15 / 100 by
    obtain ⟨report, listed, before, fresh⟩ := found
    exact ⟨_, List.mem_map.mpr ⟨report, listed, rfl⟩, Nat.add_le_add_left before completedBefore, fresh⟩
  cases clocks : phase.clocks with
  | nil =>
      rw [clocks] at read
      cases read
  | cons first rest =>
      rw [clocks] at read
      rw [emitted_first]
      cases i with
      | zero =>
          cases read
          exact ⟨_, List.mem_cons_self, le_rfl, by norm_num⟩
      | succ i =>
          rcases emitted_recent phase.barCount { lastEmitTime := some first } 2 rest first rfl (by omega) (by norm_num) i clock
            read with fresh | ⟨report, listed, before, fresh⟩
          · exact ⟨_, List.mem_cons_self, by simp, fresh⟩
          · exact ⟨report, List.mem_cons_of_mem _ listed, by omega, fresh⟩

end ReplayPhase

theorem progress_split (before : List ReplayPhase) (phase : ReplayPhase) (after : List ReplayPhase) (completed : ℕ) :
    progressReports completed (before ++ phase :: after) = progressReports completed before ++
      (phase.reports (completed + (before.map (·.barCount)).sum) ++
        progressReports (completed + (before.map (·.barCount)).sum + phase.barCount) after) := by
  induction before generalizing completed with
  | nil => rfl
  | cons first rest ih =>
      rw [List.cons_append, progressReports, ih, progressReports, List.map_cons, List.sum_cons, ← Nat.add_assoc,
        List.append_assoc]

theorem progress_counted (phases : List ReplayPhase) (completed : ℕ) :
    ((progressReports completed phases).map (·.processed)).Pairwise (· < ·) ∧
      ∀ report ∈ progressReports completed phases, completed < report.processed := by
  induction phases generalizing completed with
  | nil => exact ⟨List.Pairwise.nil, by simp [progressReports]⟩
  | cons phase rest ih =>
      obtain ⟨increasing, within⟩ := phase.reports_counted completed
      obtain ⟨laterIncreasing, later⟩ := ih (completed + phase.barCount)
      constructor
      · rw [progressReports, List.map_append]
        refine List.pairwise_append.mpr ⟨increasing, laterIncreasing, fun one isOne two isTwo => ?_⟩
        obtain ⟨first, listedFirst, rfl⟩ := List.mem_map.mp isOne
        obtain ⟨second, listedSecond, rfl⟩ := List.mem_map.mp isTwo
        exact (within first listedFirst).2.trans_lt (later second listedSecond)
      · intro report listed
        rcases List.mem_append.mp listed with here | after
        · exact (within report here).1
        · exact (Nat.le_add_right _ _).trans_lt (later report after)

theorem progress_sparse (phases : List ReplayPhase) (completed : ℕ) (start final : ℚ)
    (ordered : (phases.flatMap (·.clocks)).Pairwise (· ≤ ·))
    (within : ∀ clock ∈ phases.flatMap (·.clocks), start ≤ clock ∧ clock ≤ final) (ends : start ≤ final) :
    15 / 100 * ((progressReports completed phases).length : ℚ) ≤ 2 * (15 / 100) * phases.length + (final - start) := by
  induction phases generalizing completed start with
  | nil =>
      simp only [progressReports, List.length_nil, Nat.cast_zero, mul_zero]
      linarith
  | cons phase rest ih =>
      rw [List.flatMap_cons] at ordered within
      obtain ⟨inPhase, inRest, across⟩ := List.pairwise_append.mp ordered
      obtain ⟨middle, above, below, phaseUpTo, restFrom⟩ : ∃ middle, start ≤ middle ∧ middle ≤ final ∧
          (∀ clock ∈ phase.clocks, clock ≤ middle) ∧ ∀ clock ∈ rest.flatMap (·.clocks), middle ≤ clock := by
        rcases List.eq_nil_or_concat' phase.clocks with empty | ⟨front, last, same⟩
        · exact ⟨start, le_rfl, ends, by simp [empty], fun clock listed =>
            (within clock (List.mem_append_right _ listed)).1⟩
        · have isLast : last ∈ phase.clocks := by simp [same]
          obtain ⟨lower, upper⟩ := within last (List.mem_append_left _ isLast)
          refine ⟨last, lower, upper, fun clock listed => ?_, fun clock listed => across last isLast clock listed⟩
          rw [same] at inPhase listed
          rcases List.mem_append.mp listed with earlier | atEnd
          · exact (List.pairwise_append.mp inPhase).2.2 clock earlier last (by simp)
          · rw [List.mem_singleton.mp atEnd]
      have here := phase.reports_sparse completed start middle
        (fun clock listed => ⟨(within clock (List.mem_append_left _ listed)).1, phaseUpTo clock listed⟩) above
      have after := ih (completed + phase.barCount) middle inRest
        (fun clock listed => ⟨restFrom clock listed, (within clock (List.mem_append_right _ listed)).2⟩) below
      rw [progressReports, List.length_append, List.length_cons, Nat.cast_add, Nat.cast_add, Nat.cast_one]
      linarith

theorem progress_last (phases : List ReplayPhase) (completed : ℕ) (some_phase : phases ≠ [])
    (finished : ∀ phase ∈ phases, 0 < phase.barCount ∧ phase.clocks.length = phase.barCount) :
    ∃ report, (progressReports completed phases).getLast? = some report ∧
      report.processed = completed + (phases.map (·.barCount)).sum := by
  induction phases generalizing completed with
  | nil => exact absurd rfl some_phase
  | cons phase rest ih =>
      cases rest with
      | nil =>
          obtain ⟨positive, complete⟩ := finished phase (by simp)
          obtain ⟨last, isLast⟩ : ∃ last, phase.clocks.getLast? = some last :=
            Option.isSome_iff_exists.mp (by simpa [← List.length_pos_iff, complete] using positive)
          have ends := ReplayPhase.emitted_last phase.barCount {} 1 phase.clocks last (by omega) isLast
          refine ⟨{ phase := phase.name, processed := completed + phase.barCount, clock := last }, ?_, by simp⟩
          rw [progressReports, progressReports, List.append_nil, ReplayPhase.reports, List.getLast?_map, ends]
          rfl
      | cons second others =>
          obtain ⟨report, isLast, processed⟩ := ih (completed + phase.barCount) (by simp) fun other listed =>
            finished other (by simp [listed])
          refine ⟨report, ?_, ?_⟩
          · rw [progressReports, List.getLast?_append, isLast]
            rfl
          · simp [processed, Nat.add_assoc]

-- The progress bar never runs backwards or stops for long, a replay that ends
-- ends it at the total, and what it is told is bounded by the time it takes.
theorem replay_progress_throttled (phases : List ReplayPhase) (ordered : (phases.flatMap (·.clocks)).Pairwise (· ≤ ·)) :
    ((progressReports 0 phases).map (·.processed)).Pairwise (· < ·) ∧
      (∀ before phase after, phases = before ++ phase :: after → ∀ i clock, phase.clocks[i]? = some clock →
        ∃ report ∈ progressReports 0 phases, report.processed ≤ (before.map (·.barCount)).sum + i + 1 ∧
          clock - report.clock < 15 / 100) ∧
      (phases ≠ [] → (∀ phase ∈ phases, 0 < phase.barCount ∧ phase.clocks.length = phase.barCount) →
        ∃ report, (progressReports 0 phases).getLast? = some report ∧
          report.processed = (phases.map (·.barCount)).sum) ∧
      ∀ start final, (∀ clock ∈ phases.flatMap (·.clocks), start ≤ clock ∧ clock ≤ final) → start ≤ final →
        15 / 100 * ((progressReports 0 phases).length : ℚ) ≤ 2 * (15 / 100) * phases.length + (final - start) := by
  refine ⟨(progress_counted phases 0).1, ?_, ?_, ?_⟩
  · intro before phase after split i clock read
    obtain ⟨report, listed, counted, fresh⟩ := phase.reports_recent (0 + (before.map (·.barCount)).sum) i clock read
    refine ⟨report, ?_, by simpa using counted, fresh⟩
    rw [split, progress_split]
    exact List.mem_append_right _ (List.mem_append_left _ listed)
  · intro nonempty finished
    simpa using progress_last phases 0 nonempty finished
  · exact fun start final within ends => progress_sparse phases 0 start final ordered within ends

def shortReplay : List ReplayPhase :=
  [⟨"in_sample", 3, [0, 1 / 10, 2 / 10], by decide⟩, ⟨"out_of_sample", 1, [3 / 10], by decide⟩,
    ⟨"full", 4, [4 / 10, 5 / 10, 6 / 10, 7 / 10], by decide⟩]

theorem short_replay_throttled :
    ((progressReports 0 shortReplay).map (·.processed)) = [1, 3, 4, 5, 7, 8] ∧
      ((progressReports 0 shortReplay).map (·.processed)).Pairwise (· < ·) :=
  ⟨by decide +kernel, (replay_progress_throttled shortReplay (by decide +kernel)).1⟩

end Sagittarius
