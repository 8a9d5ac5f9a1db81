import Sagittarius.Backtest.ReplayWindow

set_option autoImplicit false

namespace Sagittarius

open Interleaving RunBacktestCommandHandler

variable {α : Type} [PyFloat α]

-- How far a call of `RunBacktestCommandHandler.execute` has come. The flag is
-- read at `called` and at `looping`, and written at `fetched` and at `leaving`.
inductive BacktestExecution (α : Type)
  | idle
  | called (command : RunBacktestCommand)
  | accepted (command : RunBacktestCommand)
  | fetched (klines : List (MarketData α))
  | looping (klines : List (MarketData α))
  | publishing (kline : MarketData α) (rest : List (MarketData α))
  | leaving
  | finished

inductive ExecutionStep (α : Type)
  | call (command : RunBacktestCommand)
  | checkRunning
  | fetch (table : KlineTable α)
  | begin
  | next
  | publish
  | leave
  | raise

inductive StopExecution
  | idle
  | signaling
  | returned
deriving DecidableEq

inductive StopStep
  | read
  | write

namespace BacktestExecution

def pending : BacktestExecution α → Bool
  | .accepted _ => true
  | .fetched _ => true
  | _ => false

def inLoop : BacktestExecution α → Bool
  | .looping _ => true
  | .publishing .. => true
  | _ => false

def ended : BacktestExecution α → Bool
  | .leaving => true
  | .finished => true
  | _ => false

def inProgress : BacktestExecution α → ℕ
  | .publishing .. => 1
  | _ => 0

-- The phase after a step, the flag it leaves and the kline it publishes. An
-- error of the repository or of a subscriber leaves the handler at once.
def advance (isRunning : Bool) :
    BacktestExecution α → ExecutionStep α → Option (BacktestExecution α × Bool × Option (MarketData α))
  | .idle, .call command => some (.called command, isRunning, none)
  | .called command, .checkRunning => some (if isRunning then .finished else .accepted command, isRunning, none)
  | .accepted command, .fetch table =>
      some ((fetchHistoricalData table command).elim .finished .fetched, isRunning, none)
  | .accepted _, .raise => some (.finished, isRunning, none)
  | .fetched klines, .begin => some (.looping klines, true, none)
  | .looping [], .next => some (.leaving, isRunning, none)
  | .looping (kline :: rest), .next => some (if isRunning then .publishing kline rest else .leaving, isRunning, none)
  | .publishing kline rest, .publish => some (.looping rest, isRunning, some kline)
  | .publishing kline _, .raise => some (.finished, isRunning, some kline)
  | .leaving, .leave => some (.finished, false, none)
  | _, _ => none

end BacktestExecution

-- `published` is newest first, each kline with the execution that published it.
structure BacktestRuns (α : Type) where
  isRunning : Bool := false
  executions : ℕ → BacktestExecution α := fun _ => .idle
  stops : ℕ → StopExecution := fun _ => .idle
  published : List (ℕ × MarketData α) := []

inductive RunsLabel (α : Type)
  | execution (party : ℕ) (step : ExecutionStep α)
  | stop (party : ℕ) (step : StopStep)

namespace BacktestRuns

def step (runs : BacktestRuns α) : RunsLabel α → Option (BacktestRuns α)
  | .execution party step =>
      match (runs.executions party).advance runs.isRunning step with
      | none => none
      | some (after, isRunning, published) =>
          some { runs with
            isRunning
            executions := Function.update runs.executions party after
            published := published.toList.map (fun kline => (party, kline)) ++ runs.published }
  | .stop party step =>
      match runs.stops party, step with
      | .idle, .read =>
          some { runs with stops := Function.update runs.stops party (if runs.isRunning then .signaling else .returned) }
      | .signaling, .write =>
          some { runs with isRunning := false, stops := Function.update runs.stops party .returned }
      | _, _ => none

def publishedBy (runs : BacktestRuns α) (execution : ℕ) : ℕ := runs.published.countP fun entry => entry.1 = execution

def AtMostOneLoop (runs : BacktestRuns α) : Prop :=
  ∀ first second, (runs.executions first).inLoop = true → (runs.executions second).inLoop = true → first = second

end BacktestRuns

def BacktestExecution.isAccepted (execution : BacktestExecution α) : Prop :=
  execution.pending = true ∨ execution.inLoop = true ∨ execution = .leaving

-- A stop that reads the flag once an execution has been accepted leaves it, on
-- returning, at most the event in progress to publish.
def StopsEnd (labels : List (RunsLabel α)) : Prop :=
  ∀ (before between after : List (RunsLabel α)) (stop execution : ℕ) (issued returned final : BacktestRuns α),
    labels = before ++ (.stop stop .read :: between) ++ after → run BacktestRuns.step {} before = some issued →
    (issued.executions execution).isAccepted → run BacktestRuns.step issued (.stop stop .read :: between) = some returned →
    returned.stops stop = .returned → run BacktestRuns.step returned after = some final →
    final.publishedBy execution ≤ returned.publishedBy execution + (returned.executions execution).inProgress

-- A check is passed while no other execution is between its own check and the
-- end of its loop, and no stop reads the flag before an accepted execution has
-- raised it.
def BacktestRuns.Guarded (runs : BacktestRuns α) : RunsLabel α → Prop
  | .execution party .checkRunning =>
      runs.isRunning = false → ∀ other, other ≠ party →
        (runs.executions other).pending = false ∧ (runs.executions other).inLoop = false
  | .stop _ .read => ∀ execution, (runs.executions execution).pending = false
  | _ => True

namespace BacktestExecution

def begun (execution : BacktestExecution α) : Bool := execution.inLoop || execution.ended

-- What a step of one execution can do: only a passed check accepts, only an
-- accepted execution raises the flag, and a loop whose flag is down publishes
-- nothing but the event in progress.
structure Advances (isRunning : Bool) (phase : BacktestExecution α) (step : ExecutionStep α)
    (after : BacktestExecution α) (flag : Bool) (published : Option (MarketData α)) : Prop where
  accepts : after.pending = true → phase.pending = true ∨ step = .checkRunning ∧ isRunning = false
  loops : after.inLoop = true → phase.pending = true ∨ phase.inLoop = true
  raises : flag = true → isRunning = true ∨ phase.pending = true
  begins : phase.begun = true → after.begun = true
  publishes : phase.begun = true → (phase.inLoop = true → isRunning = false) →
    published.toList.length + after.inProgress ≤ phase.inProgress

theorem advance_advances (isRunning : Bool) (phase after : BacktestExecution α) (step : ExecutionStep α) (flag : Bool)
    (published : Option (MarketData α)) (moved : phase.advance isRunning step = some (after, flag, published)) :
    Advances isRunning phase step after flag published := by
  unfold advance at moved
  split at moved
  case h_2 =>
    cases isRunning with
    | true =>
        cases moved
        exact ⟨by simp [pending], by simp [inLoop], by simp, by simp [begun, inLoop, ended], by simp [begun, inLoop, ended]⟩
    | false =>
        cases moved
        exact ⟨by simp, by simp [inLoop], by simp, by simp [begun, inLoop, ended], by simp [begun, inLoop, ended]⟩
  case h_3 command table =>
    cases moved
    exact ⟨fun _ => .inl rfl, fun _ => .inl rfl, fun _ => .inr rfl, by simp [begun, inLoop, ended],
      by simp [begun, inLoop, ended]⟩
  case h_7 kline rest =>
    cases isRunning with
    | true =>
        cases moved
        exact ⟨by simp [pending], by simp [inLoop], by simp, by simp [begun, inLoop], by simp [inLoop]⟩
    | false =>
        cases moved
        exact ⟨by simp [pending], by simp [inLoop], by simp, by simp [begun, inLoop, ended], by simp [inProgress]⟩
  all_goals
    cases moved
    try exact ⟨by simp [pending], by simp [pending, inLoop], by simp [pending], by simp [begun, inLoop, ended],
      by simp [begun, inLoop, ended, inProgress]⟩

omit [PyFloat α] in
theorem begun_not_pending (execution : BacktestExecution α) (begun : execution.begun = true) :
    execution.pending = false := by
  cases execution with
  | accepted => cases begun
  | fetched => cases begun
  | _ => rfl

end BacktestExecution

namespace BacktestRuns

def InWindow (runs : BacktestRuns α) (execution : ℕ) : Prop :=
  (runs.executions execution).pending = true ∨ (runs.executions execution).inLoop = true

def Alone (runs : BacktestRuns α) : Prop := ∀ first second, runs.InWindow first → runs.InWindow second → first = second

-- Past the raising of its flag, with the flag down if it is still in its loop.
def Silenced (runs : BacktestRuns α) (execution : ℕ) : Prop :=
  (runs.executions execution).begun = true ∧ ((runs.executions execution).inLoop = true → runs.isRunning = false)

theorem execution_step_cases (runs next : BacktestRuns α) (party : ℕ) (step : ExecutionStep α)
    (moved : runs.step (.execution party step) = some next) :
    ∃ after published,
      BacktestExecution.Advances runs.isRunning (runs.executions party) step after next.isRunning published ∧
        next.executions = Function.update runs.executions party after ∧ next.stops = runs.stops ∧
        next.published = published.toList.map (fun kline => (party, kline)) ++ runs.published := by
  cases advanced : (runs.executions party).advance runs.isRunning step with
  | none => simp [BacktestRuns.step, advanced] at moved
  | some result =>
      obtain ⟨after, flag, published⟩ := result
      simp only [BacktestRuns.step, advanced, Option.some.injEq] at moved
      cases moved
      exact ⟨after, published, BacktestExecution.advance_advances _ _ _ _ _ _ advanced, rfl, rfl, rfl⟩

theorem stop_step_cases (runs next : BacktestRuns α) (party : ℕ) (step : StopStep)
    (moved : runs.step (.stop party step) = some next) :
    next.executions = runs.executions ∧ next.published = runs.published ∧
      ((∃ after, runs.stops party = .idle ∧ next.isRunning = runs.isRunning ∧
          next.stops = Function.update runs.stops party after ∧ (runs.isRunning = true → after = .signaling)) ∨
        next.isRunning = false ∧ runs.stops party = .signaling ∧
          next.stops = Function.update runs.stops party .returned) := by
  cases phase : runs.stops party <;> cases step <;> simp only [BacktestRuns.step, phase] at moved <;> cases moved
  · exact ⟨rfl, rfl, .inl ⟨_, rfl, rfl, rfl, fun running => if_pos running⟩⟩
  · exact ⟨rfl, rfl, .inr ⟨rfl, rfl, rfl⟩⟩

theorem alone_step (runs next : BacktestRuns α) (label : RunsLabel α) (alone : runs.Alone) (guarded : runs.Guarded label)
    (moved : runs.step label = some next) : next.Alone := by
  cases label with
  | stop party step =>
      obtain ⟨executions, -, -⟩ := stop_step_cases runs next party step moved
      simp only [Alone, InWindow, executions]
      exact alone
  | execution party step =>
      obtain ⟨after, published, advances, executions, -, -⟩ := execution_step_cases runs next party step moved
      have stays : ∀ other, other ≠ party → next.InWindow other → runs.InWindow other := by
        intro other apart inside
        rw [InWindow, executions, Function.update_of_ne apart] at inside
        exact inside
      have known : ∀ other, other ≠ party → next.InWindow party → next.InWindow other → other = party := by
        intro other apart accepted inside
        rw [InWindow, executions, Function.update_self] at accepted
        have wasInside := stays other apart inside
        have loops : (runs.executions party).pending = true ∨ (runs.executions party).inLoop = true → other = party :=
          alone other party wasInside
        rcases accepted with pending | inLoop
        · rcases advances.accepts pending with pending | ⟨rfl, lowered⟩
          · exact loops (.inl pending)
          · obtain ⟨notPending, notLooping⟩ := guarded lowered other apart
            rw [InWindow, notPending, notLooping] at wasInside
            simp at wasInside
        · exact loops (advances.loops inLoop)
      intro first second isFirst isSecond
      by_cases firstMoved : first = party
      · subst firstMoved
        by_contra apart
        exact apart (known second (Ne.symm apart) isFirst isSecond).symm
      · by_cases secondMoved : second = party
        · subst secondMoved
          exact known first firstMoved isSecond isFirst
        · exact alone first second (stays first firstMoved isFirst) (stays second secondMoved isSecond)

theorem begun_step (runs next : BacktestRuns α) (label : RunsLabel α) (execution : ℕ)
    (begun : (runs.executions execution).begun = true) (moved : runs.step label = some next) :
    (next.executions execution).begun = true := by
  cases label with
  | stop party step =>
      obtain ⟨executions, -, -⟩ := stop_step_cases runs next party step moved
      rw [executions]
      exact begun
  | execution party step =>
      obtain ⟨after, published, advances, executions, -, -⟩ := execution_step_cases runs next party step moved
      by_cases mine : execution = party
      · subst mine
        rw [executions, Function.update_self]
        exact advances.begins begun
      · rw [executions, Function.update_of_ne mine]
        exact begun

-- The flag of a silenced execution stays down while it is in its loop: only an
-- accepted execution raises it, and no other one is accepted.
theorem silenced_step (runs next : BacktestRuns α) (label : RunsLabel α) (execution : ℕ) (alone : runs.Alone)
    (silenced : runs.Silenced execution) (moved : runs.step label = some next) : next.Silenced execution := by
  refine ⟨begun_step runs next label execution silenced.1 moved, fun inLoop => ?_⟩
  cases label with
  | stop party step =>
      obtain ⟨executions, -, ⟨after, -, flag, -, -⟩ | ⟨flag, -, -⟩⟩ := stop_step_cases runs next party step moved
      · rw [executions] at inLoop
        exact flag.trans (silenced.2 inLoop)
      · exact flag
  | execution party step =>
      obtain ⟨after, published, advances, executions, -, -⟩ := execution_step_cases runs next party step moved
      have wasInLoop : (runs.executions execution).inLoop = true := by
        by_cases mine : execution = party
        · subst mine
          rw [executions, Function.update_self] at inLoop
          rcases advances.loops inLoop with pending | looping
          · rw [BacktestExecution.begun_not_pending _ silenced.1] at pending
            cases pending
          · exact looping
        · rw [executions, Function.update_of_ne mine] at inLoop
          exact inLoop
      by_contra raised
      rcases advances.raises (by simpa using raised) with running | pending
      · rw [silenced.2 wasInLoop] at running
        cases running
      · have same := alone party execution (.inl pending) (.inr wasInLoop)
        subst same
        rw [BacktestExecution.begun_not_pending _ silenced.1] at pending
        cases pending

-- What a silenced execution published, with its event in progress, grows no more.
theorem quiet_step (runs next : BacktestRuns α) (label : RunsLabel α) (execution : ℕ) (silenced : runs.Silenced execution)
    (moved : runs.step label = some next) :
    next.publishedBy execution + (next.executions execution).inProgress ≤
      runs.publishedBy execution + (runs.executions execution).inProgress := by
  cases label with
  | stop party step =>
      obtain ⟨executions, published, -⟩ := stop_step_cases runs next party step moved
      rw [publishedBy, publishedBy, published, executions]
  | execution party step =>
      obtain ⟨after, published, advances, executions, -, log⟩ := execution_step_cases runs next party step moved
      rw [publishedBy, publishedBy, log, List.countP_append, List.countP_map, executions]
      by_cases mine : execution = party
      · subst mine
        have bounded := advances.publishes silenced.1 silenced.2
        have all : published.toList.countP ((fun entry : ℕ × MarketData α => entry.1 = execution) ∘ fun kline => (execution, kline)) =
            published.toList.length := List.countP_eq_length.mpr fun kline _ => by simp
        rw [Function.update_self, all]
        omega
      · have none : published.toList.countP ((fun entry : ℕ × MarketData α => entry.1 = execution) ∘ fun kline => (party, kline)) =
            0 := List.countP_eq_zero.mpr fun kline _ => by simpa using Ne.symm mine
        rw [Function.update_of_ne mine, none, Nat.zero_add]

-- From the stop's read on: the flag is not down yet or the execution silenced.
def Stopping (runs : BacktestRuns α) (stop execution : ℕ) : Prop :=
  (runs.executions execution).begun = true ∧ (runs.stops stop = .signaling ∨ runs.Silenced execution)

theorem stopping_read (issued next : BacktestRuns α) (stop execution : ℕ) (accepted : (issued.executions execution).isAccepted)
    (guarded : issued.Guarded (.stop stop .read)) (moved : issued.step (.stop stop .read) = some next) :
    next.Stopping stop execution := by
  obtain ⟨executions, -, ⟨after, -, flag, stops, signals⟩ | ⟨-, waiting, -⟩⟩ := stop_step_cases issued next stop .read moved
  · have begun : (issued.executions execution).begun = true := by
      rcases accepted with pending | inLoop | leaving
      · rw [guarded execution] at pending
        cases pending
      · rw [BacktestExecution.begun, inLoop, Bool.true_or]
      · rw [leaving]
        rfl
    rw [Stopping, Silenced, executions, flag, stops, Function.update_self]
    refine ⟨begun, ?_⟩
    by_cases running : issued.isRunning = true
    · exact .inl (signals running)
    · exact .inr ⟨begun, fun _ => by simpa using running⟩
  · simp only [BacktestRuns.step, waiting] at moved
    cases moved

theorem stopping_step (runs next : BacktestRuns α) (label : RunsLabel α) (stop execution : ℕ) (alone : runs.Alone)
    (stopping : runs.Stopping stop execution) (moved : runs.step label = some next) : next.Stopping stop execution := by
  have begun := begun_step runs next label execution stopping.1 moved
  refine ⟨begun, ?_⟩
  rcases stopping.2 with signaling | silenced
  · cases label with
    | execution party step =>
        obtain ⟨after, published, -, -, stops, -⟩ := execution_step_cases runs next party step moved
        exact .inl (by rw [stops, signaling])
    | stop party step =>
        obtain ⟨-, -, ⟨after, wasIdle, -, stops, -⟩ | ⟨lowered, -, -⟩⟩ := stop_step_cases runs next party step moved
        · have apart : stop ≠ party := by
            rintro rfl
            rw [signaling] at wasIdle
            cases wasIdle
          exact .inl (by rw [stops, Function.update_of_ne apart, signaling])
        · exact .inr ⟨begun, fun _ => lowered⟩
  · exact .inr (silenced_step runs next label execution alone silenced moved)

end BacktestRuns

omit [PyFloat α] in
theorem alone_start : BacktestRuns.Alone ({} : BacktestRuns α) := by
  intro first second isFirst
  rcases isFirst with pending | inLoop
  · cases pending
  · cases inLoop

theorem guarded_runs_alone (labels : List (RunsLabel α)) (final : BacktestRuns α)
    (meets : StepsMeet BacktestRuns.step BacktestRuns.Guarded {} labels)
    (completed : run BacktestRuns.step {} labels = some final) : final.Alone :=
  run_invariant_meeting BacktestRuns.step BacktestRuns.Guarded BacktestRuns.Alone
    (fun runs label next alone guarded moved => runs.alone_step next label alone guarded moved) labels {} final
    alone_start meets completed

theorem guarded_stops_end (labels : List (RunsLabel α))
    (meets : StepsMeet BacktestRuns.step BacktestRuns.Guarded {} labels) : StopsEnd labels := by
  intro before between after stop execution issued returned final split reached accepted continued isReturned completed
  rw [split, List.append_assoc] at meets
  have fromIssued := steps_meet_rest BacktestRuns.step BacktestRuns.Guarded before _ {} issued meets reached
  have alone := guarded_runs_alone before issued (steps_meet_front BacktestRuns.step BacktestRuns.Guarded before _ {} meets) reached
  have fromReturned := steps_meet_rest _ _ (.stop stop .read :: between) after issued returned fromIssued continued
  have meetsBetween := steps_meet_front _ _ (.stop stop .read :: between) after issued fromIssued
  obtain ⟨read, moved, continued⟩ := run_cons_some _ issued returned _ between continued
  have stopping : returned.Alone ∧ returned.Stopping stop execution :=
    run_invariant_meeting BacktestRuns.step BacktestRuns.Guarded (fun runs => runs.Alone ∧ runs.Stopping stop execution)
      (fun runs label next inv guarded moved =>
        ⟨runs.alone_step next label inv.1 guarded moved, runs.stopping_step next label stop execution inv.1 inv.2 moved⟩)
      between read returned
      ⟨issued.alone_step read _ alone meetsBetween.1 moved,
        issued.stopping_read read stop execution accepted meetsBetween.1 moved⟩
      (meetsBetween.2 read moved) continued
  have silenced : returned.Silenced execution := by
    refine stopping.2.2.resolve_left ?_
    rw [isReturned]
    exact fun signaling => by cases signaling
  have bounded := run_invariant_meeting BacktestRuns.step BacktestRuns.Guarded
    (fun runs => (runs.Alone ∧ runs.Silenced execution) ∧
      runs.publishedBy execution + (runs.executions execution).inProgress ≤
        returned.publishedBy execution + (returned.executions execution).inProgress)
    (fun runs label next inv guarded moved =>
      ⟨⟨runs.alone_step next label inv.1.1 guarded moved, runs.silenced_step next label execution inv.1.1 inv.1.2 moved⟩,
        (runs.quiet_step next label execution inv.1.2 moved).trans inv.2⟩)
    after returned final ⟨⟨stopping.1, silenced⟩, le_refl _⟩ fromReturned completed
  exact (Nat.le_add_right _ _).trans bounded.2

theorem guarded_replays_stop (labels : List (RunsLabel α)) (final : BacktestRuns α)
    (completed : run BacktestRuns.step {} labels = some final)
    (meets : StepsMeet BacktestRuns.step BacktestRuns.Guarded {} labels) : final.AtMostOneLoop ∧ StopsEnd labels :=
  ⟨fun first second isFirst isSecond =>
    guarded_runs_alone labels final meets completed first second (.inr isFirst) (.inr isSecond),
    guarded_stops_end labels meets⟩

def loopSteps (klines : List (MarketData α)) : List (ExecutionStep α) :=
  klines.flatMap (fun _ => [.next, .publish]) ++ [.next, .leave]

def undisturbed (table : KlineTable α) (command : RunBacktestCommand) (klines : List (MarketData α)) :
    List (ExecutionStep α) :=
  [.call command, .checkRunning, .fetch table, .begin] ++ loopSteps klines

theorem undisturbed_loop (party : ℕ) (klines : List (MarketData α)) (runs : BacktestRuns α)
    (running : runs.isRunning = true) (looping : runs.executions party = .looping klines) :
    ∃ final, run BacktestRuns.step runs ((loopSteps klines).map (.execution party)) = some final ∧
      final.published = (klines.map fun kline => (party, kline)).reverse ++ runs.published ∧ final.isRunning = false := by
  induction klines generalizing runs with
  | nil => simp [loopSteps, run, BacktestRuns.step, looping, BacktestExecution.advance]
  | cons kline rest ih =>
      obtain ⟨final, completed, published, lowered⟩ := ih
        { runs with
          executions := Function.update (Function.update runs.executions party (.publishing kline rest)) party (.looping rest)
          published := (party, kline) :: runs.published } running (Function.update_self ..)
      refine ⟨final, ?_, ?_, lowered⟩
      · simpa [loopSteps, run, BacktestRuns.step, looping, running, BacktestExecution.advance] using completed
      · simp [published]

theorem undisturbed_execution (party : ℕ) (table : KlineTable α) (command : RunBacktestCommand)
    (klines : List (MarketData α)) (fetched : fetchHistoricalData table command = some klines) :
    ∃ final, run BacktestRuns.step {} ((undisturbed table command klines).map (.execution party)) = some final ∧
      final.published.reverse = (execute {} table command).1.map (fun kline => (party, kline)) ∧
      final.isRunning = (execute {} table command).2.isRunning := by
  obtain ⟨final, completed, published, lowered⟩ := undisturbed_loop party klines
    { isRunning := true
      executions := Function.update (Function.update (Function.update (Function.update (fun _ => .idle) party (.called command))
        party (.accepted command)) party (.fetched klines)) party (.looping klines)
      published := [] } rfl (Function.update_self ..)
  have executed : execute {} table command = (klines, { isRunning := false }) := by
    rw [execute, if_neg (by decide), fetched]
    exact run_simulation_loop_eq klines
  refine ⟨final, ?_, ?_, ?_⟩
  · simpa [undisturbed, run, BacktestRuns.step, BacktestExecution.advance, fetched] using completed
  · rw [published, executed]
    simp
  · rw [lowered, executed]

def holedCommand : RunBacktestCommand := { symbol := "BTCUSDT", interval := "1m" }

def holedSteps : List (ExecutionStep ℚ) := [.call holedCommand, .checkRunning, .fetch holedTable, .begin, .next, .publish]

def stoppedSchedule : List (RunsLabel ℚ) :=
  holedSteps.map (.execution 0) ++ [.stop 0 .read, .stop 0 .write, .execution 0 .next, .execution 0 .leave]

def BacktestRuns.singleGuard (runs : BacktestRuns α) : RunsLabel α → Bool
  | .execution party _ => party = 0
  | .stop _ .read => !(runs.executions 0).pending
  | _ => true

theorem single_guarded (labels : List (RunsLabel α))
    (meets : StepsMeet BacktestRuns.step (fun runs label => runs.singleGuard label = true) {} labels) :
    StepsMeet BacktestRuns.step BacktestRuns.Guarded {} labels := by
  refine steps_meet_of_invariant BacktestRuns.step _ _ (fun runs => ∀ other, other ≠ 0 → runs.executions other = .idle)
    ?_ ?_ labels {} (fun _ _ => rfl) meets
  · intro runs label idle single
    cases label with
    | execution party step =>
        cases of_decide_eq_true single
        cases step <;> try exact trivial
        intro _ other apart
        rw [idle other apart]
        exact ⟨rfl, rfl⟩
    | stop party step =>
        cases step with
        | write => trivial
        | read =>
            intro execution
            by_cases first : execution = 0
            · rw [first]
              simpa [BacktestRuns.singleGuard] using single
            · rw [idle execution first]
              rfl
  · intro runs label next idle single moved other apart
    cases label with
    | execution party step =>
        cases of_decide_eq_true single
        obtain ⟨after, published, -, executions, -, -⟩ := BacktestRuns.execution_step_cases runs next 0 step moved
        rw [executions, Function.update_of_ne apart, idle other apart]
    | stop party step =>
        obtain ⟨executions, -, -⟩ := BacktestRuns.stop_step_cases runs next party step moved
        rw [executions, idle other apart]

theorem stopped_replay_ends :
    ∃ final, run BacktestRuns.step {} stoppedSchedule = some final ∧ final.AtMostOneLoop ∧ StopsEnd stoppedSchedule := by
  have runs : (run BacktestRuns.step {} stoppedSchedule).isSome = true := by decide +kernel
  obtain ⟨final, completed⟩ := Option.isSome_iff_exists.mp runs
  exact ⟨final, completed, guarded_replays_stop stoppedSchedule final completed (single_guarded _ (by decide +kernel))⟩

def overlappingSchedule : List (RunsLabel ℚ) :=
  [.execution 0 (.call holedCommand), .execution 0 .checkRunning, .execution 1 (.call holedCommand),
    .execution 1 .checkRunning, .execution 0 (.fetch holedTable), .execution 1 (.fetch holedTable),
    .execution 0 .begin, .execution 1 .begin]

def acceptedSteps : List (RunsLabel ℚ) := [.execution 0 (.call holedCommand), .execution 0 .checkRunning]

def publishingSteps : List (RunsLabel ℚ) :=
  [.execution 0 (.fetch holedTable), .execution 0 .begin, .execution 0 .next, .execution 0 .publish]

theorem replays_overlap :
    (¬ ∀ (labels : List (RunsLabel ℚ)) (final : BacktestRuns ℚ),
      run BacktestRuns.step {} labels = some final → final.AtMostOneLoop) ∧
    ¬ ∀ (labels : List (RunsLabel ℚ)) (final : BacktestRuns ℚ),
      run BacktestRuns.step {} labels = some final → StopsEnd labels := by
  constructor
  · intro claimed
    have loops : (run BacktestRuns.step {} overlappingSchedule).map
        (fun runs => ((runs.executions 0).inLoop, (runs.executions 1).inLoop)) = some (true, true) := by decide +kernel
    obtain ⟨final, completed, both⟩ := Option.map_eq_some_iff.mp loops
    have same := claimed _ final completed 0 1 (congrArg Prod.fst both) (congrArg Prod.snd both)
    cases same
  · intro claimed
    have accepts : (run BacktestRuns.step {} acceptedSteps).map (fun runs => (runs.executions 0).pending) = some true := by
      decide +kernel
    have returns : ((run BacktestRuns.step {} acceptedSteps).bind fun runs => run BacktestRuns.step runs [.stop 0 .read]).map
        (fun runs => (runs.stops 0, runs.publishedBy 0 + (runs.executions 0).inProgress)) = some (.returned, 0) := by
      decide +kernel
    have publishes : (((run BacktestRuns.step {} acceptedSteps).bind fun runs =>
        run BacktestRuns.step runs [.stop 0 .read]).bind fun runs => run BacktestRuns.step runs publishingSteps).map
        (fun runs => runs.publishedBy 0) = some 1 := by decide +kernel
    have runs : (run BacktestRuns.step {} (acceptedSteps ++ (.stop 0 .read :: []) ++ publishingSteps)).isSome = true := by
      decide +kernel
    obtain ⟨whole, completed⟩ := Option.isSome_iff_exists.mp runs
    obtain ⟨issued, reached, pending⟩ := Option.map_eq_some_iff.mp accepts
    rw [reached, Option.bind_some] at returns publishes
    obtain ⟨returned, continued, state⟩ := Option.map_eq_some_iff.mp returns
    rw [continued, Option.bind_some] at publishes
    obtain ⟨final, finished, counted⟩ := Option.map_eq_some_iff.mp publishes
    have bounded := claimed _ whole completed acceptedSteps [] publishingSteps 0 0 issued returned final rfl reached
      (.inl pending) continued (congrArg Prod.fst state) finished
    have silent : returned.publishedBy 0 + (returned.executions 0).inProgress = 0 := congrArg Prod.snd state
    omega

end Sagittarius
