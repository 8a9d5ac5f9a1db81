import Mathlib.Data.List.Sort
import Sagittarius.Library.Machine
import Sagittarius.Live.LiveStrategySession

set_option autoImplicit false

namespace Sagittarius

open Interleaving

variable {α : Type} [PyFloat α]

structure RunBacktestCommand where
  symbol : String
  interval : String
  limit : ℤ := 1000
deriving DecidableEq

-- `get_klines` with no time range. A stored row is a closed candle, and a
-- negative limit is none.
def getKlines (stored : List (MarketData α)) (symbol interval : String) (limit : ℤ) : List (MarketData α) :=
  let rows := (stored.filter fun row => row.symbol = symbol ∧ row.interval = interval).insertionSort
    fun first second => first.openTime ≤ second.openTime
  (if limit < 0 then rows else rows.take limit.toNat).map fun row => { row with isClosed := true }

inductive Replay (α : Type)
  | idle
  | called (command : RunBacktestCommand)
  | starting (command : RunBacktestCommand)
  | fetched (klines : List (MarketData α))
  | looping (klines : List (MarketData α))
  | finished

inductive ReplayStep (α : Type)
  | call (command : RunBacktestCommand)
  | checkRunning
  | fetch (stored : List (MarketData α))
  | begin
  | iterate

inductive Simulation (α : Type) [PyFloat α]
  | idle
  | simulating (engine : StrategyEngine α)
  | finished

inductive SimulationStep (α : Type) [PyFloat α]
  | noData (reason : String)
  | startPhase (choice : StrategyChoice α)
  | candle (marketData : MarketData α) (currentSide : Option PositionSide)
  | formingBar (signal : Option (Signal α))
  | complete
  | cancel

inductive BusEvent (α : Type)
  | marketTick (marketData : MarketData α)
  | signalGenerated (signal : Signal α)
  | backtestCompleted
  | backtestFailed (reason : String)

inductive EventSource
  | liveStream
  | runBacktest
  | simulation
deriving DecidableEq

-- `handled` lists the calls of `LiveTradingCoordinator.handle`, each with
-- whose event led to it.
structure ReplaySystem (α : Type) [PyFloat α] where
  session : LiveStrategySession α := {}
  isRunning : Bool := false
  replays : ℕ → Replay α := fun _ => .idle
  simulations : ℕ → Simulation α := fun _ => .idle
  handled : List (EventSource × Signal α) := []

inductive ReplayLabel (α : Type) [PyFloat α]
  | replay (party : ℕ) (step : ReplayStep α)
  | simulation (party : ℕ) (step : SimulationStep α)
  | stopBacktest
  | liveTick (marketData : MarketData α)
  | arm (config : LiveStrategyConfig α)
  | disarm

namespace ReplaySystem

-- `EngineEventPublisher.publish`. Of the subscribers only
-- `MarketTickEventHandler` leads to the session; the others are feeds of the
-- user interface, and so is every subscriber of the other events.
def publish (system : ReplaySystem α) (source : EventSource) : BusEvent α → ReplaySystem α
  | .marketTick marketData =>
      match system.session.dispatchTick marketData with
      | .error _ => system
      | .ok (signal, session) =>
          { system with session, handled := (signal.toList.map fun signal => (source, signal)) ++ system.handled }
  | .signalGenerated _ => system
  | .backtestCompleted => system
  | .backtestFailed _ => system

def publishSignal (system : ReplaySystem α) (signal : Option (Signal α)) : ReplaySystem α :=
  signal.elim system fun signal => system.publish .simulation (.signalGenerated signal)

def setReplay (system : ReplaySystem α) (party : ℕ) (after : Replay α) : ReplaySystem α :=
  { system with replays := Function.update system.replays party after }

def setSimulation (system : ReplaySystem α) (party : ℕ) (after : Simulation α) : ReplaySystem α :=
  { system with simulations := Function.update system.simulations party after }

def replayStep (system : ReplaySystem α) (party : ℕ) (step : ReplayStep α) : Option (ReplaySystem α) :=
  match system.replays party, step with
  | .idle, .call command => some (system.setReplay party (.called command))
  | .called command, .checkRunning =>
      some (system.setReplay party (if system.isRunning then .finished else .starting command))
  | .starting command, .fetch stored =>
      let klines := getKlines stored command.symbol command.interval command.limit
      some (system.setReplay party (if klines.isEmpty then .finished else .fetched klines))
  | .fetched klines, .begin => some { system.setReplay party (.looping klines) with isRunning := true }
  | .looping klines, .iterate =>
      match klines with
      | [] => some { system.setReplay party .finished with isRunning := false }
      | kline :: rest =>
          if system.isRunning then some ((system.setReplay party (.looping rest)).publish .runBacktest (.marketTick kline))
          else some (system.setReplay party .finished)
  | _, _ => none

def simulationStep (system : ReplaySystem α) (party : ℕ) (step : SimulationStep α) : Option (ReplaySystem α) :=
  match system.simulations party, step with
  | .idle, .noData reason =>
      some ((system.setSimulation party .finished).publish .simulation (.backtestFailed reason))
  | .idle, .startPhase choice => some (system.setSimulation party (.simulating (.build choice)))
  | .simulating _, .startPhase choice => some (system.setSimulation party (.simulating (.build choice)))
  | .simulating engine, .candle marketData currentSide =>
      match engine.onTick marketData currentSide with
      | .error _ => some (system.setSimulation party .finished)
      | .ok (signal, engine) => some ((system.setSimulation party (.simulating engine)).publishSignal signal)
  | .simulating _, .formingBar signal => some (system.publishSignal signal)
  | .simulating _, .complete => some ((system.setSimulation party .finished).publish .simulation .backtestCompleted)
  | .simulating _, .cancel => some (system.setSimulation party .finished)
  | _, _ => none

def step (system : ReplaySystem α) : ReplayLabel α → Option (ReplaySystem α)
  | .replay party step => system.replayStep party step
  | .simulation party step => system.simulationStep party step
  | .stopBacktest => some { system with isRunning := false }
  | .liveTick marketData => some (system.publish .liveStream (.marketTick marketData))
  | .arm config =>
      match system.session.arm config with
      | .error _ => some system
      | .ok session => some { system with session }
  | .disarm => some { system with session := system.session.disarm }

end ReplaySystem

def StrategyEngine.Idle (engine : StrategyEngine α) (candle : MarketData α) : Prop :=
  ∀ readings decision strategy, (StrategyEngine.updateIndicators engine.indicators candle).1 = some readings →
    engine.strategy.decide { candle, indicators := readings } = .ok (decision, strategy) → decision.action = .hold

theorem on_tick_idle (engine next : StrategyEngine α) (candle : MarketData α) (signal : Option (Signal α))
    (ticked : engine.onTick candle = .ok (signal, next)) : signal = none ↔ engine.Idle candle := by
  unfold StrategyEngine.onTick at ticked
  unfold StrategyEngine.Idle
  split at ticked
  · rename_i updated
    cases ticked
    exact iff_of_true rfl fun readings _ _ ready => by simp [updated] at ready
  · rename_i ready indicators updated
    cases decided : engine.strategy.decide { candle, indicators := ready } with
    | error raised =>
        simp only [Strategy.evaluate, decided, bind, Except.bind] at ticked
        cases ticked
    | ok result =>
        obtain ⟨decision, strategy⟩ := result
        simp only [Strategy.evaluate, decided, bind, Except.bind, pure, Except.pure] at ticked
        cases ticked
        have emits : StrategyEngine.actionable (decision.signal candle) = none ↔ decision.action = .hold :=
          StrategyEngine.actionable_none _
        rw [emits]
        constructor
        · rintro held readings other _ isReady decides
          rw [updated] at isReady
          cases isReady
          rw [decided] at decides
          cases decides
          exact held
        · intro idle
          exact idle ready decision strategy (by rw [updated]) decided

def ReplaySystem.nextKline (system : ReplaySystem α) : ReplayLabel α → Option (MarketData α)
  | .replay party .iterate =>
      match system.replays party with
      | .looping (kline :: _) => if system.isRunning then some kline else none
      | _ => none
  | _ => none

-- No strategy is armed on the kline's symbol and interval, or the one that is
-- is warming up or holds on it.
def LiveStrategySession.Ignores (session : LiveStrategySession α) (kline : MarketData α) : Prop :=
  ∀ armed, session.armed = some armed → armed.config.covers kline = true → armed.engine.Idle kline

theorem dispatch_tick_ignores (session next : LiveStrategySession α) (marketData : MarketData α)
    (signal : Option (Signal α)) (dispatched : session.dispatchTick marketData = .ok (signal, next)) :
    signal = none ↔ session.Ignores marketData := by
  obtain ⟨armed, generation⟩ := session
  cases armed with
  | none =>
      cases dispatched
      exact iff_of_true rfl fun _ isArmed => by cases isArmed
  | some armed =>
      change (armedOn armed.config generation armed.engine).dispatchTick marketData = _ at dispatched
      cases covered : armed.config.covers marketData with
      | false =>
          rw [dispatch_other armed.config generation armed.engine marketData covered] at dispatched
          cases dispatched
          refine iff_of_true rfl fun other isArmed isCovered => ?_
          cases isArmed
          rw [covered] at isCovered
          cases isCovered
      | true =>
          rw [dispatch_covered armed.config generation armed.engine marketData covered] at dispatched
          cases ticked : armed.engine.onTick marketData with
          | error raised =>
              rw [ticked] at dispatched
              cases dispatched
          | ok result =>
              rw [ticked] at dispatched
              cases dispatched
              rw [on_tick_idle armed.engine result.2 marketData result.1 ticked]
              constructor
              · intro idle other isArmed _
                cases isArmed
                exact idle
              · intro ignores
                exact ignores armed rfl covered

def ReplaySystem.OnlyLive (system : ReplaySystem α) : Prop := ∀ entry ∈ system.handled, entry.1 = .liveStream

theorem publish_tick (system : ReplaySystem α) (source : EventSource) (marketData : MarketData α)
    (aligned : system.session.Aligned) :
    (system.publish source (.marketTick marketData)).session.Aligned ∧
      ((system.publish source (.marketTick marketData)).OnlyLive ↔
        system.OnlyLive ∧ (source = .liveStream ∨ system.session.Ignores marketData)) := by
  obtain ⟨signal, next, dispatched, nextAligned⟩ := dispatch_tick_returns system.session marketData aligned
  have ignored := dispatch_tick_ignores system.session next marketData signal dispatched
  simp only [ReplaySystem.publish, dispatched, ReplaySystem.OnlyLive, List.mem_append, List.mem_map, Option.mem_toList]
  refine ⟨nextAligned, ?_⟩
  rw [← ignored]
  constructor
  · intro live
    refine ⟨fun entry member => live entry (.inr member), ?_⟩
    cases signal with
    | none => exact .inr rfl
    | some signal => exact .inl (live (source, signal) (.inl ⟨signal, rfl, rfl⟩))
  · rintro ⟨live, harmless⟩ entry (⟨emitted, isEmitted, rfl⟩ | member)
    · exact harmless.resolve_right (by rw [isEmitted]; simp)
    · exact live entry member

theorem replay_step_cases (system next : ReplaySystem α) (party : ℕ) (step : ReplayStep α)
    (completed : system.replayStep party step = some next) :
    (next.session = system.session ∧ next.handled = system.handled ∧ system.nextKline (.replay party step) = none) ∨
      ∃ kline after, system.nextKline (.replay party step) = some kline ∧
        next = (system.setReplay party after).publish .runBacktest (.marketTick kline) := by
  unfold ReplaySystem.replayStep at completed
  split at completed
  case h_5 looping =>
    split at completed
    · cases completed
      exact .inl ⟨rfl, rfl, by simp [ReplaySystem.nextKline, looping]⟩
    · rename_i kline rest
      split_ifs at completed with running
      · cases completed
        exact .inr ⟨kline, .looping rest, by simp [ReplaySystem.nextKline, looping, running], rfl⟩
      · cases completed
        exact .inl ⟨rfl, rfl, by simp [ReplaySystem.nextKline, looping, running]⟩
  all_goals
    cases completed
    try exact .inl ⟨rfl, rfl, rfl⟩

theorem simulation_step_apart (system next : ReplaySystem α) (party : ℕ) (step : SimulationStep α)
    (completed : system.simulationStep party step = some next) :
    next.session = system.session ∧ next.handled = system.handled := by
  have signals : ∀ (base : ReplaySystem α) (signal : Option (Signal α)), base.publishSignal signal = base := by
    intro base signal
    cases signal <;> rfl
  unfold ReplaySystem.simulationStep at completed
  split at completed
  case h_4 =>
    split at completed
    · cases completed
      exact ⟨rfl, rfl⟩
    · cases completed
      rw [signals]
      exact ⟨rfl, rfl⟩
  case h_5 =>
    cases completed
    rw [signals]
    exact ⟨rfl, rfl⟩
  all_goals
    cases completed
    try exact ⟨rfl, rfl⟩

def ReplaySystem.IgnoresReplays (system : ReplaySystem α) (label : ReplayLabel α) : Prop :=
  ∀ kline, system.nextKline label = some kline → system.session.Ignores kline

theorem replay_system_step (system : ReplaySystem α) (label : ReplayLabel α) (next : ReplaySystem α)
    (aligned : system.session.Aligned) (completed : system.step label = some next) :
    next.session.Aligned ∧ (next.OnlyLive ↔ system.OnlyLive ∧ system.IgnoresReplays label) := by
  have apart : system.nextKline label = none → system.IgnoresReplays label := fun none kline isNext => by
    rw [none] at isNext
    cases isNext
  have untouched : next.session = system.session → next.handled = system.handled → system.nextKline label = none →
      next.session.Aligned ∧ (next.OnlyLive ↔ system.OnlyLive ∧ system.IgnoresReplays label) := by
    intro session handled silent
    rw [session, ReplaySystem.OnlyLive, handled]
    exact ⟨aligned, (and_iff_left (apart silent)).symm⟩
  cases label with
  | replay party step =>
      rcases replay_step_cases system next party step completed with ⟨session, handled, silent⟩ | ⟨kline, after, isNext, rfl⟩
      · exact untouched session handled silent
      · obtain ⟨nextAligned, live⟩ := publish_tick (system.setReplay party after) .runBacktest kline aligned
        refine ⟨nextAligned, live.trans (and_congr_right fun _ => ?_)⟩
        simp [ReplaySystem.IgnoresReplays, isNext, ReplaySystem.setReplay]
  | simulation party step =>
      obtain ⟨session, handled⟩ := simulation_step_apart system next party step completed
      exact untouched session handled rfl
  | stopBacktest =>
      cases completed
      exact untouched rfl rfl rfl
  | liveTick marketData =>
      cases completed
      obtain ⟨nextAligned, live⟩ := publish_tick system .liveStream marketData aligned
      exact ⟨nextAligned, live.trans (and_congr_right fun _ => iff_of_true (.inl rfl) (apart rfl))⟩
  | arm config =>
      simp only [ReplaySystem.step] at completed
      split at completed
      · cases completed
        exact untouched rfl rfl rfl
      · rename_i session armed
        cases completed
        exact ⟨arm_aligned system.session session config armed, (and_iff_left (apart rfl)).symm⟩
  | disarm =>
      cases completed
      exact ⟨fun armed isArmed => (by cases isArmed), (and_iff_left (apart rfl)).symm⟩

-- The coordinator handles no signal of a backtest's event in exactly the runs
-- whose replayed klines are all ignored by the live session.
theorem replays_never_handled (labels : List (ReplayLabel α)) (final : ReplaySystem α)
    (completed : run ReplaySystem.step {} labels = some final) :
    final.OnlyLive ↔ StepsMeet ReplaySystem.step ReplaySystem.IgnoresReplays {} labels := by
  have meets := run_meets_iff ReplaySystem.step ReplaySystem.IgnoresReplays (fun system => system.session.Aligned)
    ReplaySystem.OnlyLive (fun system label next aligned moved => (replay_system_step system label next aligned moved).1)
    (fun system label next aligned moved => (replay_system_step system label next aligned moved).2) labels {} final
    (fun armed isArmed => by cases isArmed) completed
  exact meets.trans (and_iff_right fun entry member => by cases member)

def replaySchedule (party : ℕ) (symbol : String) (prices : List ℚ) : List (ReplayLabel ℚ) :=
  let stored := prices.mapIdx fun minute price => flatBar symbol minute price true
  let steps : List (ReplayStep ℚ) :=
    [.call { symbol, interval := "1m" }, .checkRunning, .fetch stored, .begin] ++
      List.replicate (prices.length + 1) .iterate
  steps.map (.replay party)

theorem replays_never_handled_elsewhere :
    ∃ final, run ReplaySystem.step {}
        (.arm crossoverConfig :: .liveTick (flatBar "BTCUSDT" 0 10 true) ::
          replaySchedule 0 "ETHUSDT" [10, 8, 12]) = some final ∧
      (final.OnlyLive ↔ StepsMeet ReplaySystem.step ReplaySystem.IgnoresReplays {}
        (.arm crossoverConfig :: .liveTick (flatBar "BTCUSDT" 0 10 true) ::
          replaySchedule 0 "ETHUSDT" [10, 8, 12])) := by
  have runs : (run ReplaySystem.step {}
      (.arm crossoverConfig :: .liveTick (flatBar "BTCUSDT" 0 10 true) ::
        replaySchedule 0 "ETHUSDT" [10, 8, 12])).isSome = true := by decide +kernel
  obtain ⟨final, completed⟩ := Option.isSome_iff_exists.mp runs
  exact ⟨final, completed, replays_never_handled _ final completed⟩

theorem replay_handled_live :
    ¬ ∀ (labels : List (ReplayLabel ℚ)) (final : ReplaySystem ℚ),
      run ReplaySystem.step {} labels = some final → final.OnlyLive := by
  intro claimed
  have sources : (run ReplaySystem.step {}
      (.arm crossoverConfig :: replaySchedule 0 "BTCUSDT" [10, 8, 12])).map
      (fun system => system.handled.map Prod.fst) = some [.runBacktest] := by decide +kernel
  obtain ⟨final, completed, sources⟩ := Option.map_eq_some_iff.mp sources
  obtain ⟨entry, member, source⟩ := List.mem_map.mp (sources ▸ List.mem_singleton_self EventSource.runBacktest)
  have live := claimed _ final completed entry member
  rw [source] at live
  cases live

end Sagittarius
