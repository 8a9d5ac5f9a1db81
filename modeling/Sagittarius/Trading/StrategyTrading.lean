import Sagittarius.Trading.LiveTradingCoordinator
import Sagittarius.Trading.TradingSystem

set_option autoImplicit false

namespace Sagittarius

variable {α : Type} [PyFloat α]

-- A disarm knows only the first of them.
inductive ArmStrategyBlockReason
  | tradingIsEnabled
  | strategyNotFound
  | invalidParams
  | missingSymbolOrInterval
deriving DecidableEq

-- What an arm or disarm handler is asked for. `armUnbuildable` is a command
-- with a key nothing is registered under, or with parameters that building
-- the strategy refuses with `errorMessage`.
inductive ArmingRequest (α : Type) [PyFloat α]
  | arm (config : LiveStrategyConfig α)
  | armUnbuildable (strategyKey symbol interval errorMessage : String)
  | disarm

def armBlockReason (strategyKey symbol interval : String) : Option ArmStrategyBlockReason :=
  if strategyKey = "" then some .strategyNotFound
  else if symbol = "" ∨ interval = "" then some .missingSymbolOrInterval
  else if strategyKey ∉ registeredKeys then some .strategyNotFound
  else none

inductive Arming (α : Type) [PyFloat α]
  | idle
  | called (request : ArmingRequest α)
  | checked (request : ArmingRequest α)
  | swapped
  | refused (reason : ArmStrategyBlockReason) (errorMessage : Option String)

inductive ArmingStep (α : Type) [PyFloat α]
  | call (request : ArmingRequest α)
  | checkSwitch
  | swap

-- Where one `dispatch_tick` call stands. What it took from the session under
-- the lock is the config and the engine of one arming, named by the session's
-- generation.
inductive Tick (α : Type) [PyFloat α]
  | idle
  | called (marketData : MarketData α)
  | snapshot (marketData : MarketData α) (generation : ℕ) (config : LiveStrategyConfig α)
  | signalled (signal : Signal α) (generation : ℕ) (config : LiveStrategyConfig α)
  | sized (command : ExecuteOrderCommand) (generation : ℕ)
  | dispatched (signalGeneration armedGeneration : ℕ)
  | finished
  | raised

inductive TickStep (α : Type) [PyFloat α]
  | call (marketData : MarketData α)
  | takeSnapshot
  | onTick
  | handle (metadata : Option FuturesSymbolMetadata) (usdtBalance : Option ℚ)
  | dispatch

inductive LiveEvent
  | trade (event : TradeEvent)
  | checked (party : ℕ)
  | swapped (party : ℕ)
  | snapshot (party : ℕ)
  | dispatched (party signalGeneration armedGeneration : ℕ)
deriving DecidableEq

-- The engines are objects: a tick in flight keeps the one it took, and goes
-- on updating it after another has been armed.
structure StrategyTrading (α : Type) [PyFloat α] where
  trading : TradingSystem := {}
  armed : Option (LiveStrategyConfig α) := none
  generation : ℕ := 0
  engines : ℕ → Option (StrategyEngine α) := fun _ => none
  armings : ℕ → Arming α := fun _ => .idle
  ticks : ℕ → Tick α := fun _ => .idle
  history : List LiveEvent := []

-- `trade` is any step of the trading system, the orders of a user included.
inductive LiveLabel (α : Type) [PyFloat α]
  | trade (label : TradeLabel)
  | arming (party : ℕ) (step : ArmingStep α)
  | tick (party : ℕ) (step : TickStep α)

namespace StrategyTrading

def setArming (system : StrategyTrading α) (party : ℕ) (after : Arming α) : StrategyTrading α :=
  { system with armings := Function.update system.armings party after }

def setTick (system : StrategyTrading α) (party : ℕ) (after : Tick α) : StrategyTrading α :=
  { system with ticks := Function.update system.ticks party after }

def log (system : StrategyTrading α) (event : LiveEvent) : StrategyTrading α :=
  { system with history := event :: system.history }

def tradeStep (setup : TradingSetup) (system : StrategyTrading α) (label : TradeLabel) : Option (StrategyTrading α) :=
  (system.trading.step setup label).map fun trading =>
    { system with
      trading
      history := ((system.trading.event setup label).map LiveEvent.trade).toList ++ system.history }

def rearm (system : StrategyTrading α) (armed : Option (LiveStrategyConfig α)) : StrategyTrading α :=
  { system with
    armed
    generation := system.generation + 1
    engines := Function.update system.engines (system.generation + 1)
      (armed.map fun config => StrategyEngine.build config.choice) }

def armingStep (system : StrategyTrading α) (party : ℕ) (step : ArmingStep α) : Option (StrategyTrading α) :=
  match system.armings party, step with
  | .idle, .call request => some (system.setArming party (.called request))
  | .called request, .checkSwitch =>
      if system.trading.session.enabled then some (system.setArming party (.refused .tradingIsEnabled none))
      else some ((system.setArming party (.checked request)).log (.checked party))
  | .checked (.arm config), .swap =>
      match armBlockReason config.choice.key config.symbol config.interval with
      | some reason => some (system.setArming party (.refused reason none))
      | none => some (((system.rearm (some config)).setArming party .swapped).log (.swapped party))
  | .checked (.armUnbuildable strategyKey symbol interval errorMessage), .swap =>
      match armBlockReason strategyKey symbol interval with
      | some reason => some (system.setArming party (.refused reason none))
      | none => some (system.setArming party (.refused .invalidParams (some errorMessage)))
  | .checked .disarm, .swap => some (((system.rearm none).setArming party .swapped).log (.swapped party))
  | _, _ => none

def tickStep (setup : TradingSetup) (system : StrategyTrading α) (party : ℕ) (step : TickStep α) :
    Option (StrategyTrading α) :=
  match system.ticks party, step with
  | .idle, .call marketData => some (system.setTick party (.called marketData))
  | .called marketData, .takeSnapshot =>
      match system.armed with
      | none => some (system.setTick party .finished)
      | some config =>
          if config.covers marketData then
            some ((system.setTick party (.snapshot marketData system.generation config)).log (.snapshot party))
          else some (system.setTick party .finished)
  | .snapshot marketData generation config, .onTick =>
      (system.engines generation).bind fun engine =>
        match engine.onTick marketData with
        | .error _ => some (system.setTick party .raised)
        | .ok (signal, engine) =>
            some ({ system with engines := Function.update system.engines generation (some engine) }.setTick party
              (signal.elim .finished fun signal => .signalled signal generation config))
  | .signalled signal generation config, .handle metadata usdtBalance =>
      match config.handle signal metadata usdtBalance with
      | .error _ => some (system.setTick party .raised)
      | .ok (.dispatch command) => some (system.setTick party (.sized command generation))
      | .ok _ => some (system.setTick party .finished)
  | .sized command generation, .dispatch =>
      (system.trading.step setup (.dispatch party (.call command))).map fun trading =>
        ({ system with trading }.setTick party (.dispatched generation system.generation)).log
          (.dispatched party generation system.generation)
  | _, _ => none

def step (setup : TradingSetup) (system : StrategyTrading α) : LiveLabel α → Option (StrategyTrading α)
  | .trade label => system.tradeStep setup label
  | .arming party step => system.armingStep party step
  | .tick party step => system.tickStep setup party step

def live (system : StrategyTrading α) : LiveStrategySession α where
  armed := system.armed.bind fun config => (system.engines system.generation).map fun engine => { config, engine }
  generation := system.generation

theorem arm_passes_complete (config : LiveStrategyConfig α) :
    armBlockReason config.choice.key config.symbol config.interval = none ↔ config.isComplete = true := by
  have named : config.choice.key ≠ "" := by
    intro unnamed
    have registered := choice_key_registered config.choice
    rw [unnamed] at registered
    revert registered
    decide
  simp [armBlockReason, LiveStrategyConfig.isComplete, named, choice_key_registered]

theorem rearm_arms (system : StrategyTrading α) (config : LiveStrategyConfig α)
    (passes : armBlockReason config.choice.key config.symbol config.interval = none) :
    system.live.arm config = .ok (system.rearm (some config)).live := by
  have complete := (arm_passes_complete config).mp passes
  simp [LiveStrategySession.arm, complete, live, rearm]

theorem rearm_disarms (system : StrategyTrading α) : system.live.disarm = (system.rearm none).live := rfl

theorem tick_alone (setup : TradingSetup) (system : StrategyTrading α) (party : ℕ) (marketData : MarketData α)
    (config : LiveStrategyConfig α) (engine : StrategyEngine α) (armed : system.armed = some config)
    (built : system.engines system.generation = some engine) (called : system.ticks party = .called marketData)
    (covered : config.covers marketData = true) (signal : Option (Signal α)) (next : LiveStrategySession α)
    (dispatched : system.live.dispatchTick marketData = .ok (signal, next)) :
    ∃ final, Interleaving.run (step setup) system [.tick party .takeSnapshot, .tick party .onTick] = some final ∧
      final.live = next ∧
      final.ticks party = signal.elim .finished fun signal => .signalled signal system.generation config := by
  have session : system.live = armedOn config system.generation engine := by simp [live, armedOn, armed, built]
  rw [session, dispatch_covered config system.generation engine marketData covered] at dispatched
  cases ticked : engine.onTick marketData with
  | error raised =>
      rw [ticked] at dispatched
      cases dispatched
  | ok result =>
      rw [ticked] at dispatched
      cases dispatched
      refine ⟨_, by simp [Interleaving.run, step, tickStep, called, armed, covered, setTick, log, built, ticked]; rfl, ?_, ?_⟩
      · simp [live, armedOn]
      · simp

end StrategyTrading

def Tick.Sound : Tick α → Prop
  | .signalled signal _ _ => signal.action ≠ .hold
  | .raised => False
  | _ => True

-- The engines of earlier armings included, since a tick may still be on one.
structure TicksSound (system : StrategyTrading α) : Prop where
  aligned : ∀ generation engine, system.engines generation = some engine → engine.KeysAligned
  sound : ∀ party, (system.ticks party).Sound

theorem ticks_sound_tick (system : StrategyTrading α) (party : ℕ) (after : Tick α) (sound : TicksSound system)
    (afterSound : after.Sound) : TicksSound (system.setTick party after) := by
  refine ⟨sound.aligned, fun other => ?_⟩
  change (Function.update system.ticks party after other).Sound
  by_cases same : other = party
  · rw [same, Function.update_self]
    exact afterSound
  · rw [Function.update_of_ne same]
    exact sound.sound other

theorem ticks_sound_engine (system : StrategyTrading α) (generation : ℕ) (engine : Option (StrategyEngine α))
    (sound : TicksSound system) (aligned : ∀ built, engine = some built → built.KeysAligned) :
    TicksSound { system with engines := Function.update system.engines generation engine } := by
  refine ⟨fun other built found => ?_, sound.sound⟩
  change Function.update system.engines generation engine other = some built at found
  by_cases same : other = generation
  · rw [same, Function.update_self] at found
    exact aligned built found
  · rw [Function.update_of_ne same] at found
    exact sound.aligned other built found

theorem ticks_sound_rearm (system : StrategyTrading α) (armed : Option (LiveStrategyConfig α))
    (sound : TicksSound system) : TicksSound (system.rearm armed) := by
  have swapped := ticks_sound_engine system (system.generation + 1)
    (armed.map fun config => StrategyEngine.build config.choice) sound fun built found => by
      obtain ⟨config, _, rfl⟩ := Option.map_eq_some_iff.mp found
      exact engine_build_aligned config.choice
  exact ⟨swapped.aligned, swapped.sound⟩

theorem ticks_sound_arming (system next : StrategyTrading α) (party : ℕ) (step : ArmingStep α)
    (sound : TicksSound system) (completed : system.armingStep party step = some next) : TicksSound next := by
  have set : ∀ after : Arming α, TicksSound (system.setArming party after) :=
    fun after => ⟨sound.aligned, sound.sound⟩
  have swapped : ∀ armed, TicksSound (((system.rearm armed).setArming party .swapped).log (.swapped party)) :=
    fun armed => ⟨(ticks_sound_rearm system armed sound).aligned, (ticks_sound_rearm system armed sound).sound⟩
  unfold StrategyTrading.armingStep at completed
  split at completed
  · cases completed
    exact set _
  · split_ifs at completed
    · cases completed
      exact set _
    · cases completed
      exact ⟨sound.aligned, sound.sound⟩
  · split at completed
    · cases completed
      exact set _
    · cases completed
      exact swapped _
  · split at completed
    · cases completed
      exact set _
    · cases completed
      exact set _
  · cases completed
    exact swapped none
  · cases completed

theorem ticks_sound_step (setup : TradingSetup) (system next : StrategyTrading α) (party : ℕ) (step : TickStep α)
    (sound : TicksSound system) (completed : system.tickStep setup party step = some next) : TicksSound next := by
  have set : ∀ after : Tick α, after.Sound → TicksSound (system.setTick party after) :=
    fun after afterSound => ticks_sound_tick system party after sound afterSound
  unfold StrategyTrading.tickStep at completed
  split at completed
  · cases completed
    exact set _ trivial
  · split at completed
    · cases completed
      exact set _ trivial
    · rename_i config _
      split_ifs at completed
      · cases completed
        exact ⟨sound.aligned, (set (.snapshot _ system.generation config) trivial).sound⟩
      · cases completed
        exact set _ trivial
  · rename_i marketData generation config _
    obtain ⟨engine, built, ticked⟩ := Option.bind_eq_some_iff.mp completed
    obtain ⟨signal, after, returned, aligned⟩ :=
      on_tick_returns engine marketData none (sound.aligned generation engine built)
    rw [returned] at ticked
    cases ticked
    refine ticks_sound_tick _ party _ (ticks_sound_engine system generation (some after) sound ?_) ?_
    · rintro built ⟨⟩
      exact aligned
    · cases signal with
      | none => trivial
      | some signal => exact on_tick_acts engine after marketData none signal returned
  · rename_i signal generation config metadata usdtBalance signalled
    have acts : signal.action ≠ .hold := by
      have tick := sound.sound party
      rwa [signalled] at tick
    obtain ⟨outcome, handled⟩ := handle_returns config signal metadata usdtBalance acts
    rw [handled] at completed
    cases outcome <;> cases completed <;> exact set _ trivial
  · obtain ⟨trading, _, rfl⟩ := Option.map_eq_some_iff.mp completed
    exact ⟨sound.aligned, (set (.dispatched _ system.generation) trivial).sound⟩
  · cases completed

-- Provided that the coordinator's reads of metadata and balance return.
theorem ticks_never_raise (setup : TradingSetup) (labels : List (LiveLabel α)) (final : StrategyTrading α)
    (completed : Interleaving.run (StrategyTrading.step setup) {} labels = some final) (party : ℕ) :
    final.ticks party ≠ .raised := by
  have sound : TicksSound final := by
    refine Interleaving.run_invariant (StrategyTrading.step setup) TicksSound (fun system label next sound moved => ?_)
      labels {} final ⟨fun _ _ found => (by cases found), fun _ => trivial⟩ completed
    cases label with
    | trade label =>
        obtain ⟨trading, _, rfl⟩ := Option.map_eq_some_iff.mp moved
        exact ⟨sound.aligned, sound.sound⟩
    | arming party step => exact ticks_sound_arming system next party step sound moved
    | tick party step => exact ticks_sound_step setup system next party step sound moved
  intro raised
  have tick := sound.sound party
  rw [raised] at tick
  exact tick

end Sagittarius
