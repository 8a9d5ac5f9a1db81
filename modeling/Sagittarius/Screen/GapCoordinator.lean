import Sagittarius.Market.CoverageTimeline
import Sagittarius.Screen.TradingPresenter

set_option autoImplicit false

namespace Sagittarius

variable {α : Type}

inductive DataManagementActionKind
  | autoDiscover
  | scanStatus
  | scanAll
  | clearData
  | purgeAll
  | vacuum
  | syncSingle
  | syncBulk
  | inspectGaps
  | repairGap
  | repairAllGaps
  | inspectKlines
  | runAudit
deriving DecidableEq

abbrev GapTracker := ActionOwnershipTracker DataManagementActionKind

structure GetDatabaseGapsQuery where
  symbol : String
  interval : TimeFrame

inductive GapEvent
  | log (message : String)
  | errorLog (message : String)
  | gapInspector (payload : GetDatabaseGapsResult)
  | finish (kind : DataManagementActionKind) (outcome : ActionOutcome) (recorded : Bool)
  | staleCallback (callback : String)
  | checkStatus (symbol interval : String)
  | unlock
deriving DecidableEq

def timeFrameOf (interval : String) : Except String TimeFrame :=
  match TimeFrame.ofValue interval with
  | some timeFrame => .ok timeFrame
  | none => .error (pyRepr interval ++ " is not a valid TimeFrame")

-- One call of `run_inspect_gaps`: what the dispatcher answers, and what other
-- threads do to the tracker before it does.
structure InspectRun where
  symbol : String
  interval : String
  dispatch : GetDatabaseGapsQuery → Except String GetDatabaseGapsResult
  meanwhile : GapTracker → GapTracker

namespace InspectRun

variable (run : InspectRun) (tracker : GapTracker)

def answer : Except String GetDatabaseGapsResult := do
  let interval ← timeFrameOf run.interval
  run.dispatch { symbol := run.symbol, interval }

def runInspectGaps : List GapEvent × GapTracker :=
  let (action, begun) := tracker.beginAction .inspectGaps
  let tracker := run.meanwhile begun
  match run.answer with
  | .error exc =>
      let (recorded, tracker) := tracker.finishAction action.actionId .failed
      ([.errorLog s!"Error inspecting gaps for {run.symbol}: {exc}", .finish .inspectGaps .failed recorded], tracker)
  | .ok result =>
      if tracker.isCurrentPending action.actionId .inspectGaps then
        let (recorded, tracker) := tracker.finishAction action.actionId .succeeded
        ([.gapInspector result, .finish .inspectGaps .succeeded recorded], tracker)
      else ([.staleCallback "inspect_gaps"], tracker)

end InspectRun

-- What a repair does once it is finished: the gaps are inspected again and the
-- status is checked, unless the token is cancelled by then.
structure Refresh where
  cancelled : Bool
  inspection : InspectRun
  checkStatus : Except String Unit

def Refresh.run (refresh : Refresh) (symbol interval : String) (kind : DataManagementActionKind) (actionId : ℕ)
    (failure : String) (tracker : GapTracker) : List GapEvent × GapTracker :=
  if refresh.cancelled then ([], tracker)
  else
    let (inspected, tracker) := refresh.inspection.runInspectGaps tracker
    match refresh.checkStatus with
    | .ok _ => (inspected ++ [.checkStatus symbol interval], tracker)
    | .error exc =>
        let (recorded, tracker) := tracker.finishAction actionId .failed
        (inspected ++ [.checkStatus symbol interval, .errorLog (failure ++ exc), .finish kind .failed recorded], tracker)

structure RepairGapRun where
  symbol : String
  interval : String
  startIso : String
  endIso : String
  fromisoformat : String → Except String ℤ
  dispatch : RepairDataGapCommand → Except String RepairDataGapResult
  meanwhile : GapTracker → GapTracker
  refresh : Refresh

namespace RepairGapRun

variable (run : RepairGapRun) (tracker : GapTracker)

def answer : Except String RepairDataGapResult := do
  let startTime ← run.fromisoformat run.startIso
  let endTime ← run.fromisoformat run.endIso
  let interval ← timeFrameOf run.interval
  run.dispatch { symbol := run.symbol, interval, startTime, endTime }

def runRepairGap : List GapEvent × GapTracker :=
  let (action, begun) := tracker.beginAction .repairGap
  let tracker := run.meanwhile begun
  let failure := "Failed to repair gap: "
  match run.answer with
  | .error exc =>
      let (recorded, tracker) := tracker.finishAction action.actionId .failed
      ([.errorLog (failure ++ exc), .finish .repairGap .failed recorded, .unlock], tracker)
  | .ok result =>
      if tracker.isCurrentPending action.actionId .repairGap then
        let (recorded, tracker) := tracker.finishAction action.actionId (if result.success then .succeeded else .failed)
        let reported : List GapEvent :=
          if result.success then [.log result.message, .finish .repairGap .succeeded recorded]
          else [.errorLog result.message, .finish .repairGap .failed recorded]
        let (refreshed, tracker) := run.refresh.run run.symbol run.interval .repairGap action.actionId failure tracker
        (reported ++ refreshed ++ [.unlock], tracker)
      else ([.staleCallback "repair_gap", .unlock], tracker)

end RepairGapRun

inductive RepairLoopEnd
  | stopped
  | raised (exc : String)
  | finished
deriving DecidableEq

-- One call of `run_repair_all_gaps`. Repairs and cancellation checks are
-- numbered from 0. Without a token no check finds it cancelled.
structure RepairAllRun where
  symbol : String
  interval : String
  dispatchGaps : GetDatabaseGapsQuery → Except String GetDatabaseGapsResult
  cancelledBefore : ℕ → Bool
  dispatchRepair : ℕ → RepairDataGapCommand → Except String RepairDataGapResult
  meanwhile : GapTracker → GapTracker
  whileReporting : GapTracker → GapTracker
  refresh : Refresh

namespace RepairAllRun

variable (run : RepairAllRun) (tracker : GapTracker)

def found : Except String (TimeFrame × GetDatabaseGapsResult) := do
  let interval ← timeFrameOf run.interval
  let result ← run.dispatchGaps { symbol := run.symbol, interval }
  return (interval, result)

def repair (interval : TimeFrame) (number : ℕ) (gap : DataGapDTO) : Except String RepairDataGapResult :=
  run.dispatchRepair number
    { symbol := run.symbol, interval, startTime := gap.fetchStartTime, endTime := gap.fetchEndTime }

-- The result of a repair is not looked at.
def repairGaps (interval : TimeFrame) : ℕ → List DataGapDTO → RepairLoopEnd
  | _, [] => .finished
  | number, gap :: gaps =>
      if run.cancelledBefore number then .stopped
      else
        match run.repair interval number gap with
        | .error exc => .raised exc
        | .ok _ => repairGaps interval (number + 1) gaps

def runRepairAllGaps : List GapEvent × GapTracker :=
  let (action, begun) := tracker.beginAction .repairAllGaps
  let tracker := run.meanwhile begun
  let failure := "Failed to repair all gaps: "
  let raised (exc : String) : List GapEvent × GapTracker :=
    let (recorded, tracker) := tracker.finishAction action.actionId .failed
    ([.errorLog (failure ++ exc), .finish .repairAllGaps .failed recorded, .unlock], tracker)
  match run.found with
  | .error exc => raised exc
  | .ok (interval, result) =>
      match run.repairGaps interval 0 result.gaps with
      | .stopped =>
          let (recorded, tracker) := tracker.finishAction action.actionId .cancelled
          ([.log "Gap repair process stopped.", .finish .repairAllGaps .cancelled recorded, .unlock], tracker)
      | .raised exc => raised exc
      | .finished =>
          if tracker.isCurrentPending action.actionId .repairAllGaps then
            let (recorded, tracker) := (run.whileReporting tracker).finishAction action.actionId .succeeded
            let (refreshed, tracker) :=
              run.refresh.run run.symbol run.interval .repairAllGaps action.actionId failure tracker
            ([.log s!"Finished repairing all {result.totalGaps} gap(s) for {run.symbol} ({run.interval}).",
              .finish .repairAllGaps .succeeded recorded] ++ refreshed ++ [.unlock], tracker)
          else ([.staleCallback "repair_all_gaps", .unlock], tracker)

end RepairAllRun

def ReportsSuccess (kind : DataManagementActionKind) (events : List GapEvent) : Prop :=
  ∃ recorded, .finish kind .succeeded recorded ∈ events

section Reports

variable (tracker : GapTracker) (kind : DataManagementActionKind) (recorded : Bool)

theorem inspect_reports (run : InspectRun) (reported : .finish kind .succeeded recorded ∈ (run.runInspectGaps tracker).1) :
    kind = .inspectGaps := by
  rw [InspectRun.runInspectGaps] at reported
  cases answered : run.answer with
  | error exc => simp [answered] at reported
  | ok result =>
      by_cases current : (run.meanwhile (tracker.beginAction .inspectGaps).2).isCurrentPending
          (tracker.beginAction DataManagementActionKind.inspectGaps).1.actionId .inspectGaps = true
      · simp [answered, current] at reported
        exact reported.1
      · simp [answered, current] at reported

theorem refresh_reports (refresh : Refresh) (symbol interval : String) (ofKind : DataManagementActionKind) (actionId : ℕ)
    (failure : String)
    (reported : .finish kind .succeeded recorded ∈ (refresh.run symbol interval ofKind actionId failure tracker).1) :
    kind = .inspectGaps := by
  rw [Refresh.run] at reported
  by_cases cancelled : refresh.cancelled = true
  · rw [if_pos cancelled] at reported
    cases reported
  · rw [if_neg cancelled] at reported
    have inspected : .finish kind .succeeded recorded ∈ (refresh.inspection.runInspectGaps tracker).1 := by
      cases checked : refresh.checkStatus with
      | ok _ => simpa [checked] using reported
      | error exc => simpa [checked] using reported
    exact inspect_reports tracker kind recorded refresh.inspection inspected

end Reports

namespace RepairGapRun

theorem single_repair_truthful (run : RepairGapRun) (tracker : GapTracker)
    (reports : ReportsSuccess .repairGap (run.runRepairGap tracker).1) :
    ∃ result, run.answer = .ok result ∧ result.success = true := by
  obtain ⟨recorded, reported⟩ := reports
  rw [runRepairGap] at reported
  cases answered : run.answer with
  | error exc => simp [answered] at reported
  | ok result =>
      refine ⟨result, rfl, ?_⟩
      by_contra refused
      by_cases current : (run.meanwhile (tracker.beginAction .repairGap).2).isCurrentPending
          (tracker.beginAction DataManagementActionKind.repairGap).1.actionId .repairGap = true
      · have refreshed := refresh_reports _ _ recorded run.refresh run.symbol run.interval .repairGap _ _
          (by simpa [answered, current, refused] using reported)
        cases refreshed
      · simp [answered, current] at reported

end RepairGapRun

namespace RepairAllRun

variable (run : RepairAllRun) (tracker : GapTracker)

def attempts : List (ℕ × Except String RepairDataGapResult) :=
  match run.found with
  | .error _ => []
  | .ok (interval, result) => result.gaps.zipIdx.map fun (gap, number) => (number, run.repair interval number gap)

def AllRepaired : Prop := ∀ attempt ∈ run.attempts, ∃ result, attempt.2 = .ok result ∧ result.success = true

def Interrupted : Prop := ∃ attempt ∈ run.attempts, run.cancelledBefore attempt.1 = true ∨ ∃ exc, attempt.2 = .error exc

def NoneRefused : Prop := ∀ attempt ∈ run.attempts, ∀ result, attempt.2 = .ok result → result.success = true

def StillCurrent : Prop :=
  (run.meanwhile (tracker.beginAction .repairAllGaps).2).isCurrentPending
    (tracker.beginAction DataManagementActionKind.repairAllGaps).1.actionId .repairAllGaps = true

theorem repairs_finish_iff (interval : TimeFrame) (number : ℕ) (gaps : List DataGapDTO) :
    run.repairGaps interval number gaps = .finished ↔
      ∀ attempt ∈ (gaps.zipIdx number).map fun (gap, number) => (number, run.repair interval number gap),
        run.cancelledBefore attempt.1 = false ∧ ∃ result, attempt.2 = .ok result := by
  induction gaps generalizing number with
  | nil => simp [repairGaps]
  | cons gap gaps ih =>
      rw [repairGaps, List.zipIdx_cons, List.map_cons, List.forall_mem_cons, ← ih (number + 1)]
      by_cases cancelled : run.cancelledBefore number = true
      · rw [if_pos cancelled]
        exact iff_of_false nofun fun both => absurd cancelled (by simp [both.1.1])
      · rw [if_neg cancelled]
        cases answered : run.repair interval number gap with
        | error exc =>
            refine iff_of_false nofun fun both => ?_
            obtain ⟨⟨_, result, isOk⟩, _⟩ := both
            exact absurd (answered.symm.trans isOk) nofun
        | ok result =>
            refine (and_iff_right ⟨Bool.eq_false_iff.mpr cancelled, result, answered⟩).symm

theorem attempt_found (attempt : ℕ × Except String RepairDataGapResult) (isAttempt : attempt ∈ run.attempts) :
    ∃ found, run.found = .ok found := by
  rw [attempts] at isAttempt
  cases found : run.found with
  | error exc =>
      rw [found] at isAttempt
      cases isAttempt
  | ok pair => exact ⟨pair, rfl⟩

theorem finish_iff (interval : TimeFrame) (result : GetDatabaseGapsResult) (found : run.found = .ok (interval, result)) :
    run.repairGaps interval 0 result.gaps = .finished ↔ ¬run.Interrupted := by
  rw [repairs_finish_iff, Interrupted, attempts, found]
  constructor
  · intro all interrupted
    obtain ⟨attempt, isAttempt, either⟩ := interrupted
    obtain ⟨notCancelled, answer, isOk⟩ := all attempt isAttempt
    cases either with
    | inl cancelled => exact absurd cancelled (by simp [notCancelled])
    | inr raised =>
        obtain ⟨exc, isError⟩ := raised
        rw [isOk] at isError
        cases isError
  · intro uninterrupted attempt isAttempt
    constructor
    · exact Bool.eq_false_iff.mpr fun cancelled => uninterrupted ⟨attempt, isAttempt, .inl cancelled⟩
    · cases answered : attempt.2 with
      | error exc => exact absurd ⟨attempt, isAttempt, .inr ⟨exc, answered⟩⟩ uninterrupted
      | ok answer => exact ⟨answer, rfl⟩

theorem reports_iff :
    ReportsSuccess .repairAllGaps (run.runRepairAllGaps tracker).1 ↔
      (∃ found, run.found = .ok found) ∧ ¬run.Interrupted ∧ run.StillCurrent tracker := by
  rw [runRepairAllGaps, StillCurrent]
  cases found : run.found with
  | error exc => simp [ReportsSuccess]
  | ok pair =>
      obtain ⟨interval, result⟩ := pair
      rw [← finish_iff run interval result found]
      cases ending : run.repairGaps interval 0 result.gaps with
      | stopped => simp [ReportsSuccess, ending]
      | raised exc => simp [ReportsSuccess, ending]
      | finished =>
          by_cases current : (run.meanwhile (tracker.beginAction .repairAllGaps).2).isCurrentPending
              (tracker.beginAction DataManagementActionKind.repairAllGaps).1.actionId .repairAllGaps = true
          · simp [ReportsSuccess, ending, current]
          · simp [ReportsSuccess, ending, current]

-- Success is only reported of a full repair exactly if no repair that is
-- refused goes by unseen.
theorem repair_all_truthful_iff (run : RepairAllRun) (tracker : GapTracker) :
    (ReportsSuccess .repairAllGaps (run.runRepairAllGaps tracker).1 → run.AllRepaired) ↔
      run.Interrupted ∨ ¬run.StillCurrent tracker ∨ run.NoneRefused := by
  rw [reports_iff]
  constructor
  · intro truthful
    by_cases interrupted : run.Interrupted
    · exact .inl interrupted
    · by_cases current : run.StillCurrent tracker
      · refine .inr (.inr fun attempt isAttempt result isOk => ?_)
        obtain ⟨answer, isAnswer, success⟩ := truthful ⟨run.attempt_found attempt isAttempt, interrupted, current⟩
          attempt isAttempt
        rw [isOk] at isAnswer
        cases isAnswer
        exact success
      · exact .inr (.inl current)
  · intro condition reports attempt isAttempt
    obtain ⟨_, uninterrupted, current⟩ := reports
    cases answered : attempt.2 with
    | error exc => exact absurd ⟨attempt, isAttempt, .inr ⟨exc, answered⟩⟩ uninterrupted
    | ok result =>
        cases condition with
        | inl interrupted => exact absurd interrupted uninterrupted
        | inr rest =>
            cases rest with
            | inl superseded => exact absurd current superseded
            | inr noneRefused => exact ⟨result, rfl, noneRefused attempt isAttempt result answered⟩

end RepairAllRun

-- What the dispatcher hands back of the handler. `saveError` is the error of a
-- save that raises.
def RepairDataGapCommand.dispatched (command : RepairDataGapCommand) (run : RepairRun α) (rows : KlineRows α)
    (saveError : String) : Except String RepairDataGapResult :=
  match (command.execute run rows).1 with
  | some result => .ok result
  | none => .error saveError

theorem dispatched_success_iff (command : RepairDataGapCommand) (run : RepairRun α) (rows : KlineRows α)
    (saveError : String) :
    (∃ result, command.dispatched run rows saveError = .ok result ∧ result.success = true) ↔
      command.symbol ≠ "" ∧ run.cancellationRequested = false ∧
        ∃ klines, run.fetch command.request = .ok klines ∧ (klines ≠ [] → run.saveRaises = false) := by
  rw [RepairDataGapCommand.dispatched, RepairDataGapCommand.execute]
  by_cases unnamed : command.symbol = ""
  · rw [if_pos unnamed]
    simp [RepairDataGapCommand.refused, unnamed]
  · rw [if_neg unnamed]
    cases run.fetch command.request with
    | error exc =>
        cases exc with
        | cancelled => simp [RepairDataGapCommand.refused]
        | failed message => simp [RepairDataGapCommand.refused]
    | ok klines =>
        by_cases cancelled : run.cancellationRequested = true
        · simp [RepairDataGapCommand.refused, cancelled]
        · cases klines with
          | nil => simp [cancelled, unnamed]
          | cons first rest =>
              by_cases raises : run.saveRaises = true
              · simp [cancelled, raises]
              · simp [cancelled, raises, unnamed]

def silentExchange : RepairRun ℚ where
  fetch := fun _ => .error (.failed "timeout")

def inspectHoled (query : GetDatabaseGapsQuery) : Except String GetDatabaseGapsResult :=
  match holedTable.inspectGaps query.symbol query.interval with
  | .ok result => .ok result
  | .error exc => .error exc.text

def unansweredRun : RepairAllRun where
  symbol := "BTCUSDT"
  interval := "1m"
  dispatchGaps := inspectHoled
  cancelledBefore := fun _ => false
  dispatchRepair := fun _ command => command.dispatched silentExchange holedTable.rows "disk full"
  meanwhile := id
  whileReporting := id
  refresh :=
    { cancelled := false
      inspection := { symbol := "BTCUSDT", interval := "1m", dispatch := inspectHoled, meanwhile := id }
      checkStatus := .ok () }

theorem unanswered_repairs_reported :
    .log "Finished repairing all 1 gap(s) for BTCUSDT (1m)." ∈ (unansweredRun.runRepairAllGaps {}).1 ∧
      ReportsSuccess .repairAllGaps (unansweredRun.runRepairAllGaps {}).1 ∧ ¬unansweredRun.AllRepaired := by
  have only : unansweredRun.attempts =
      [(0, .ok (RepairDataGapCommand.refused "Error fetching data from the exchange: timeout"))] := by decide +kernel
  refine ⟨by decide +kernel, ⟨true, by decide +kernel⟩, fun repaired => ?_⟩
  obtain ⟨result, answered, success⟩ := repaired (0, _) (by rw [only]; exact List.mem_singleton.mpr rfl)
  cases answered
  cases success

end Sagittarius
