import Sagittarius.Trading.StrategyTrading
import Sagittarius.Trading.TradingSwitch

set_option autoImplicit false

namespace Sagittarius

open Interleaving

variable {α : Type} [PyFloat α]

theorem step_call (setup : TradingSetup) (system next : TradingSystem) (party : ℕ) (command : ExecuteOrderCommand)
    (completed : system.step setup (.dispatch party (.call command)) = some next) :
    system.dispatches party = .idle ∧ system.event setup (.dispatch party (.call command)) = none := by
  simp only [TradingSystem.step, TradingSystem.advance, Option.map_eq_some_iff, Option.bind_eq_some_iff] at completed
  obtain ⟨_, ⟨after, proceeds, _⟩, _⟩ := completed
  unfold Dispatch.next at proceeds
  split at proceeds <;> simp_all [TradingSystem.event, TradingSystem.dispatchEvent]

inductive TickStage
  | fresh
  | pending (generation : ℕ)
  | sent (signalGeneration armedGeneration : ℕ)
  | ended

def Tick.stage : Tick α → TickStage
  | .idle => .fresh
  | .called _ => .fresh
  | .snapshot _ generation _ => .pending generation
  | .signalled _ generation _ => .pending generation
  | .sized _ generation => .pending generation
  | .dispatched signalGeneration armedGeneration => .sent signalGeneration armedGeneration
  | .finished => .ended
  | .raised => .ended

def Arming.isChecked : Arming α → Bool
  | .checked _ => true
  | _ => false

inductive LiveMove (setup : TradingSetup) (system : StrategyTrading α) : StrategyTrading α → Prop
  | trade (label : TradeLabel) (trading : TradingSystem) (moved : system.trading.step setup label = some trading) :
      LiveMove setup system
        { system with
          trading
          history := ((system.trading.event setup label).map LiveEvent.trade).toList ++ system.history }
  | arming (party : ℕ) (after : Arming α) (unchecked : after.isChecked = false) :
      LiveMove setup system (system.setArming party after)
  | check (party : ℕ) (after : Arming α) (off : system.trading.session.enabled = false) :
      LiveMove setup system ((system.setArming party after).log (.checked party))
  | swap (party : ℕ) (armed : Option (LiveStrategyConfig α)) (checked : (system.armings party).isChecked = true) :
      LiveMove setup system (((system.rearm armed).setArming party .swapped).log (.swapped party))
  | tick (party : ℕ) (after : Tick α) (engines : ℕ → Option (StrategyEngine α))
      (stage : after.stage = (system.ticks party).stage ∨
        (after.stage = .ended ∧ ∀ signalGeneration armedGeneration,
          (system.ticks party).stage ≠ .sent signalGeneration armedGeneration)) :
      LiveMove setup system ({ system with engines }.setTick party after)
  | snapshot (party : ℕ) (after : Tick α) (fresh : (system.ticks party).stage = .fresh)
      (stage : after.stage = .pending system.generation) :
      LiveMove setup system ((system.setTick party after).log (.snapshot party))
  | dispatch (party : ℕ) (command : ExecuteOrderCommand) (generation : ℕ) (trading : TradingSystem)
      (pending : (system.ticks party).stage = .pending generation)
      (moved : system.trading.step setup (.dispatch party (.call command)) = some trading) :
      LiveMove setup system
        (({ system with trading }.setTick party (.dispatched generation system.generation)).log
          (.dispatched party generation system.generation))

theorem live_move_arming (setup : TradingSetup) (system next : StrategyTrading α) (party : ℕ) (step : ArmingStep α)
    (completed : system.armingStep party step = some next) : LiveMove setup system next := by
  unfold StrategyTrading.armingStep at completed
  split at completed
  · cases completed
    exact .arming party _ rfl
  · split_ifs at completed with on
    · cases completed
      exact .arming party _ rfl
    · cases completed
      exact .check party _ (by simpa using on)
  · split at completed
    · cases completed
      exact .arming party _ rfl
    · cases completed
      exact .swap party _ (by rw [‹system.armings party = _›]; rfl)
  · split at completed
    · cases completed
      exact .arming party _ rfl
    · cases completed
      exact .arming party _ rfl
  · cases completed
    exact .swap party _ (by rw [‹system.armings party = _›]; rfl)
  · cases completed

theorem live_move_tick (setup : TradingSetup) (system next : StrategyTrading α) (party : ℕ) (step : TickStep α)
    (completed : system.tickStep setup party step = some next) : LiveMove setup system next := by
  have within : ∀ after : Tick α, after.stage = (system.ticks party).stage →
      ∀ engines, LiveMove setup system ({ system with engines }.setTick party after) :=
    fun after same engines => .tick party after engines (.inl same)
  have ends : ∀ after : Tick α, after.stage = .ended →
      (∀ signalGeneration armedGeneration, (system.ticks party).stage ≠ .sent signalGeneration armedGeneration) →
      ∀ engines, LiveMove setup system ({ system with engines }.setTick party after) :=
    fun after isOver unsent engines => .tick party after engines (.inr ⟨isOver, unsent⟩)
  unfold StrategyTrading.tickStep at completed
  split at completed
  · cases completed
    exact within _ (by rw [‹system.ticks party = _›]; rfl) system.engines
  · have fresh : (system.ticks party).stage = .fresh := by rw [‹system.ticks party = _›]; rfl
    split at completed
    · cases completed
      exact ends _ rfl (by simp [fresh]) system.engines
    · split_ifs at completed
      · cases completed
        exact .snapshot party _ fresh rfl
      · cases completed
        exact ends _ rfl (by simp [fresh]) system.engines
  · rename_i marketData generation config _
    have pending : (system.ticks party).stage = .pending generation := by rw [‹system.ticks party = _›]; rfl
    obtain ⟨engine, _, ticked⟩ := Option.bind_eq_some_iff.mp completed
    split at ticked
    · cases ticked
      exact ends _ rfl (by simp [pending]) system.engines
    · rename_i signal engine _
      cases ticked
      cases signal with
      | none => exact ends _ rfl (by simp [pending]) _
      | some signal => exact within (.signalled signal generation config) pending.symm _
  · rename_i signal generation config metadata usdtBalance _
    have pending : (system.ticks party).stage = .pending generation := by rw [‹system.ticks party = _›]; rfl
    split at completed
    · cases completed
      exact ends _ rfl (by simp [pending]) system.engines
    · rename_i command _
      cases completed
      exact within (.sized command generation) pending.symm system.engines
    · cases completed
      exact ends _ rfl (by simp [pending]) system.engines
  · obtain ⟨trading, moved, rfl⟩ := Option.map_eq_some_iff.mp completed
    exact .dispatch party _ _ trading (by rw [‹system.ticks party = _›]; rfl) moved
  · cases completed

theorem live_move (setup : TradingSetup) (system : StrategyTrading α) (label : LiveLabel α) (next : StrategyTrading α)
    (completed : system.step setup label = some next) : LiveMove setup system next := by
  cases label with
  | trade label =>
      obtain ⟨trading, moved, rfl⟩ := Option.map_eq_some_iff.mp completed
      exact .trade label trading moved
  | arming party step => exact live_move_arming setup system next party step completed
  | tick party step => exact live_move_tick setup system next party step completed

def turnedOn (event : LiveEvent) : Prop := event = .trade .enabled

def turnedOff (event : LiveEvent) : Prop := event = .trade .disabled

-- Trading is on exactly when it was turned on and not off again, and every
-- swap comes after its own handler's check, which finds it off.
structure ArmingsChecked (system : StrategyTrading α) : Prop where
  off : system.trading.session.enabled = false ↔ Cleared turnedOn turnedOff system.history
  checks : Guarded turnedOn turnedOff (fun event => ∃ party, event = .checked party) system.history
  checked : ∀ party, (system.armings party).isChecked = true → .checked party ∈ system.history
  preceded : Preceded .swapped .checked system.history

theorem trade_switch (setup : TradingSetup) (trading next : TradingSystem) (label : TradeLabel)
    (history : List LiveEvent) (moved : trading.step setup label = some next)
    (off : trading.session.enabled = false ↔ Cleared turnedOn turnedOff history) :
    next.session.enabled = false ↔
      Cleared turnedOn turnedOff (((trading.event setup label).map LiveEvent.trade).toList ++ history) := by
  rcases step_switch moved with ⟨logged, on⟩ | ⟨logged, isOff⟩ | ⟨other, same⟩
  · rw [logged, on]
    exact iff_of_false (by simp) fun cleared => ((cleared_cons_iff _ _ _ _).mp cleared).1 rfl
  · rw [logged, isOff]
    exact iff_of_true rfl (cleared_good _ _ _ _ (by simp [turnedOn]) rfl)
  · rw [same, off]
    refine (cleared_silent_iff turnedOn turnedOff history _ fun happened logged => ?_).symm
    obtain ⟨event, isEvent, rfl⟩ := Option.map_eq_some_iff.mp logged
    obtain ⟨notOn, notOff⟩ := other event isEvent
    exact ⟨by simpa [turnedOn] using notOn, by simpa [turnedOff] using notOff⟩

theorem cleared_beside_trade (history : List LiveEvent) (event : LiveEvent) (beside : ∀ trade, event ≠ .trade trade) :
    Cleared turnedOn turnedOff (event :: history) ↔ Cleared turnedOn turnedOff history := by
  refine cleared_silent_iff turnedOn turnedOff history (some event) fun happened logged => ?_
  cases logged
  exact ⟨beside .enabled, beside .disabled⟩

theorem armings_checked_quiet (system next : StrategyTrading α) (event : Option LiveEvent)
    (checked : ArmingsChecked system) (history : next.history = event.toList ++ system.history)
    (off : next.trading.session.enabled = false ↔ Cleared turnedOn turnedOff next.history)
    (armings : ∀ party, (next.armings party).isChecked = true → (system.armings party).isChecked = true)
    (silent : ∀ party, event ≠ some (.checked party) ∧ event ≠ some (.swapped party)) : ArmingsChecked next := by
  refine ⟨off, ?_, fun party isChecked => ?_, ?_⟩
  · rw [history]
    cases event with
    | none => exact checked.checks
    | some happened =>
        exact guarded_cons _ _ _ _ _ checked.checks fun ⟨party, same⟩ => absurd (congrArg some same) (silent party).1
  · rw [history]
    exact List.mem_append_right _ (checked.checked party (armings party isChecked))
  · rw [history]
    cases event with
    | none => exact checked.preceded
    | some happened =>
        exact preceded_cons _ _ _ _ checked.preceded fun party same => absurd (congrArg some same) (silent party).2

theorem set_arming_checked (system : StrategyTrading α) (party other : ℕ) (after : Arming α)
    (unchecked : after.isChecked = false)
    (isChecked : (Function.update system.armings party after other).isChecked = true) :
    (system.armings other).isChecked = true := by
  by_cases same : other = party
  · rw [same, Function.update_self, unchecked] at isChecked
    cases isChecked
  · rwa [Function.update_of_ne same] at isChecked

theorem armings_checked_move (setup : TradingSetup) (system next : StrategyTrading α) (checked : ArmingsChecked system)
    (move : LiveMove setup system next) : ArmingsChecked next := by
  cases move with
  | trade label trading moved =>
      exact armings_checked_quiet system _ ((system.trading.event setup label).map LiveEvent.trade) checked rfl
        (trade_switch setup system.trading trading label system.history moved checked.off) (fun _ => id)
        fun party => ⟨by simp, by simp⟩
  | arming party after unchecked =>
      exact armings_checked_quiet system _ none checked rfl checked.off
        (fun other => set_arming_checked system party other after unchecked) fun party => ⟨by simp, by simp⟩
  | check party after off =>
      have cleared := checked.off.mp off
      refine ⟨?_, ?_, fun other isChecked => ?_, ?_⟩
      · exact iff_of_true off (cleared_harmless _ _ _ _ (by simp [turnedOn]) cleared)
      · exact guarded_cons _ _ _ _ _ checked.checks fun _ => cleared
      · by_cases same : other = party
        · simp [StrategyTrading.log, same]
        · refine List.mem_cons_of_mem _ (checked.checked other ?_)
          simpa [StrategyTrading.log, StrategyTrading.setArming, Function.update_of_ne same] using isChecked
      · exact preceded_cons _ _ _ _ checked.preceded fun _ same => by cases same
  | swap party armed isChecked =>
      refine ⟨?_, ?_, fun other otherChecked => ?_, ?_⟩
      · exact checked.off.trans (cleared_beside_trade _ _ (by simp)).symm
      · refine guarded_cons _ _ _ _ _ checked.checks ?_
        rintro ⟨_, same⟩
        cases same
      · exact List.mem_cons_of_mem _
          (checked.checked other (set_arming_checked system party other .swapped rfl otherChecked))
      · refine preceded_cons _ _ _ _ checked.preceded fun swapper same => ?_
        cases same
        exact checked.checked party isChecked
  | tick party after engines stage =>
      exact armings_checked_quiet system _ none checked rfl checked.off (fun _ => id) fun party => ⟨by simp, by simp⟩
  | snapshot party after fresh stage =>
      exact armings_checked_quiet system _ (some (.snapshot party)) checked rfl
        (checked.off.trans (cleared_beside_trade _ _ (by simp)).symm) (fun _ => id)
        fun party => ⟨by simp, by simp⟩
  | dispatch party command generation trading pending moved =>
      have stays : trading.session.enabled = false ↔ Cleared turnedOn turnedOff system.history := by
        have switch := trade_switch setup system.trading trading _ system.history moved checked.off
        rwa [(step_call setup system.trading trading party command moved).2] at switch
      exact armings_checked_quiet system _ (some (.dispatched party generation system.generation)) checked rfl
        (stays.trans (cleared_beside_trade _ _ (by simp)).symm) (fun _ => id)
        fun party => ⟨by simp, by simp⟩

def Undispatched (party : ℕ) (history : List LiveEvent) : Prop :=
  ∀ signalGeneration armedGeneration, .dispatched party signalGeneration armedGeneration ∉ history

def TickTraced (party generation : ℕ) (history : List LiveEvent) : TickStage → Prop
  | .fresh => Undispatched party history ∧ .snapshot party ∉ history
  | .pending taken => Undispatched party history ∧ .snapshot party ∈ history ∧ taken ≤ generation ∧
      (taken = generation ↔ ∀ swapper, ¬ [.swapped swapper, .snapshot party].Sublist history)
  | .sent signal armed =>
      (∀ signal' armed', .dispatched party signal' armed' ∈ history → signal' = signal ∧ armed' = armed) ∧
        (signal = armed ↔
          ∀ swapper, ¬ [.dispatched party signal armed, .swapped swapper, .snapshot party].Sublist history)
  | .ended => Undispatched party history

theorem tick_traced_beside (party generation : ℕ) (history : List LiveEvent) (event : LiveEvent) (stage : TickStage)
    (traced : TickTraced party generation history stage) (unswapped : ∀ swapper, event ≠ .swapped swapper)
    (other : event ≠ .snapshot party)
    (undispatched : ∀ signal armed, event ≠ .dispatched party signal armed) :
    TickTraced party generation (event :: history) stage := by
  have dispatched : ∀ signal armed, .dispatched party signal armed ∈ event :: history ↔
      .dispatched party signal armed ∈ history := fun signal armed =>
    List.mem_cons.trans (or_iff_right fun same => undispatched signal armed same.symm)
  have taken : .snapshot party ∈ event :: history ↔ .snapshot party ∈ history :=
    List.mem_cons.trans (or_iff_right fun same => other same.symm)
  have swapped : ∀ swapper rest, (.swapped swapper :: rest).Sublist (event :: history) ↔
      (.swapped swapper :: rest).Sublist history := fun swapper rest =>
    sublist_cons_of_ne _ _ _ _ fun same => unswapped swapper same.symm
  have ordered : ∀ signal armed rest, (.dispatched party signal armed :: rest).Sublist (event :: history) ↔
      (.dispatched party signal armed :: rest).Sublist history := fun signal armed rest =>
    sublist_cons_of_ne _ _ _ _ fun same => undispatched signal armed same.symm
  cases stage with
  | fresh => simpa only [TickTraced, Undispatched, dispatched, taken] using traced
  | pending generation => simpa only [TickTraced, Undispatched, dispatched, taken, swapped] using traced
  | sent signal armed => simpa only [TickTraced, dispatched, ordered] using traced
  | ended => simpa only [TickTraced, Undispatched, dispatched] using traced

theorem tick_traced_swap (party swapper generation : ℕ) (history : List LiveEvent) (stage : TickStage)
    (traced : TickTraced party generation history stage) :
    TickTraced party (generation + 1) (.swapped swapper :: history) stage := by
  have dispatched : ∀ signal armed, .dispatched party signal armed ∈ .swapped swapper :: history ↔
      .dispatched party signal armed ∈ history := fun signal armed => by simp
  cases stage with
  | fresh => simpa [TickTraced, Undispatched] using traced
  | pending taken =>
      obtain ⟨undispatched, snapshot, atMost, _⟩ := traced
      refine ⟨by simpa [Undispatched] using undispatched, by simp [snapshot], by omega, ?_⟩
      refine iff_of_false (by omega) fun none => none swapper ?_
      exact List.Sublist.cons_cons _ (List.singleton_sublist.mpr snapshot)
  | sent signal armed =>
      have ordered : ∀ other, [.dispatched party signal armed, .swapped other, .snapshot party].Sublist
          (.swapped swapper :: history) ↔
          [.dispatched party signal armed, .swapped other, .snapshot party].Sublist history := fun other =>
        sublist_cons_of_ne _ _ _ _ (by simp)
      simpa only [TickTraced, dispatched, ordered] using traced
  | ended => simpa [TickTraced, Undispatched] using traced

theorem tick_traced_snapshot (party generation : ℕ) (history : List LiveEvent)
    (traced : TickTraced party generation history .fresh) :
    TickTraced party generation (.snapshot party :: history) (.pending generation) := by
  obtain ⟨undispatched, unseen⟩ := traced
  refine ⟨by simpa [Undispatched] using undispatched, by simp, le_rfl, iff_of_true rfl fun swapper ordered => ?_⟩
  rw [sublist_cons_of_ne _ _ _ _ (by simp)] at ordered
  exact unseen (ordered.subset (by simp))

theorem tick_traced_dispatch (party taken generation : ℕ) (history : List LiveEvent)
    (traced : TickTraced party generation history (.pending taken)) :
    TickTraced party generation (.dispatched party taken generation :: history) (.sent taken generation) := by
  obtain ⟨undispatched, _, _, overtaken⟩ := traced
  refine ⟨fun signal armed member => ?_, overtaken.trans (forall_congr' fun swapper => not_congr ?_)⟩
  · rcases List.mem_cons.mp member with same | old
    · cases same
      exact ⟨rfl, rfl⟩
    · exact absurd old (undispatched signal armed)
  · rw [List.cons_sublist_cons]

theorem tick_traced_ended (party generation : ℕ) (history : List LiveEvent) (stage : TickStage)
    (traced : TickTraced party generation history stage) (unsent : ∀ signal armed, stage ≠ .sent signal armed) :
    Undispatched party history := by
  cases stage with
  | fresh => exact traced.1
  | pending taken => exact traced.1
  | sent signal armed => exact absurd rfl (unsent signal armed)
  | ended => exact traced

def TicksTraced (system : StrategyTrading α) : Prop :=
  ∀ party, TickTraced party system.generation system.history (system.ticks party).stage

theorem ticks_traced_move (setup : TradingSetup) (system next : StrategyTrading α) (traced : TicksTraced system)
    (move : LiveMove setup system next) : TicksTraced next := by
  intro other
  have here := traced other
  cases move with
  | trade label trading moved =>
      cases logged : system.trading.event setup label with
      | none => exact here
      | some happened => exact tick_traced_beside _ _ _ _ _ here (by simp) (by simp) (by simp)
  | arming party after unchecked => exact here
  | check party after off => exact tick_traced_beside _ _ _ _ _ here (by simp) (by simp) (by simp)
  | swap party armed checked => exact tick_traced_swap other party _ _ _ here
  | tick party after engines stage =>
      by_cases same : other = party
      · subst same
        simp only [StrategyTrading.setTick, Function.update_self]
        rcases stage with within | ⟨isOver, unsent⟩
        · rw [within]
          exact here
        · rw [isOver]
          exact tick_traced_ended other _ _ _ here unsent
      · simpa [StrategyTrading.setTick, Function.update_of_ne same] using here
  | snapshot party after fresh stage =>
      by_cases same : other = party
      · subst same
        simp only [StrategyTrading.log, StrategyTrading.setTick, Function.update_self, stage]
        exact tick_traced_snapshot other _ _ (fresh ▸ here)
      · simp only [StrategyTrading.log, StrategyTrading.setTick, Function.update_of_ne same]
        exact tick_traced_beside _ _ _ _ _ here (by simp) (by simp [Ne.symm same]) (by simp)
  | dispatch party command generation trading pending moved =>
      by_cases same : other = party
      · subst same
        simp only [StrategyTrading.log, StrategyTrading.setTick, Function.update_self]
        exact tick_traced_dispatch other generation _ _ (pending ▸ here)
      · simp only [StrategyTrading.log, StrategyTrading.setTick, Function.update_of_ne same]
        exact tick_traced_beside _ _ _ _ _ here (by simp) (by simp) (by simp [Ne.symm same])

structure TradesTraced (system : StrategyTrading α) : Prop where
  switch : SwitchChecked system.trading
  logged : ∀ event, .trade event ∈ system.history ↔ event ∈ system.trading.history
  on : ∀ party, AtEach (fun event => event = .trade (.switchRead party)) (fun older => ¬ Cleared turnedOn turnedOff older)
    system.history
  unread : ∀ party, AtEach (fun event => ∃ signal armed, event = .dispatched party signal armed)
    (fun older => .trade (.switchRead party) ∉ older) system.history
  idle : ∀ party, system.trading.dispatches party = .idle → .trade (.switchRead party) ∉ system.history

theorem trades_traced_trade (setup : TradingSetup) (system : StrategyTrading α) (label : TradeLabel)
    (trading : TradingSystem) (moved : system.trading.step setup label = some trading)
    (off : system.trading.session.enabled = false ↔ Cleared turnedOn turnedOff system.history)
    (traced : TradesTraced system) :
    TradesTraced
      { system with
        trading
        history := ((system.trading.event setup label).map LiveEvent.trade).toList ++ system.history } := by
  have switch := switch_checked_step setup system.trading label trading traced.switch moved
  have history := step_history setup system.trading trading label moved
  cases event : system.trading.event setup label with
  | none =>
      rw [event] at history
      refine ⟨switch, ?_, traced.on, traced.unread, fun party idle => traced.idle party (step_idle moved party idle)⟩
      rw [history]
      exact traced.logged
  | some happened =>
      rw [event] at history
      refine ⟨switch, fun other => ?_, fun party => ?_, fun party => ?_, fun party idle => ?_⟩
      · rw [history]
        simp [traced.logged]
      · refine at_each_cons _ _ _ _ (traced.on party) fun same => ?_
        cases same
        intro cleared
        have isOff := off.mpr cleared
        rw [(step_switch_read moved party event).1] at isOff
        cases isOff
      · exact at_each_cons _ _ _ _ (traced.unread party) fun ⟨_, _, same⟩ => by cases same
      · refine List.not_mem_cons_of_ne_of_not_mem (fun same => ?_) (traced.idle party (step_idle moved party idle))
        cases same
        exact (step_switch_read moved party event).2 (step_idle moved party idle)

theorem trades_traced_beside (system next : StrategyTrading α) (event : LiveEvent) (traced : TradesTraced system)
    (switch : SwitchChecked next.trading) (trades : next.trading.history = system.trading.history)
    (idle : ∀ party, next.trading.dispatches party = .idle → system.trading.dispatches party = .idle)
    (history : next.history = event :: system.history) (beside : ∀ trade, event ≠ .trade trade)
    (unread : ∀ party signal armed, event = .dispatched party signal armed →
      system.trading.dispatches party = .idle) : TradesTraced next := by
  have trade : ∀ other, .trade other ∈ next.history ↔ .trade other ∈ system.history := fun other => by
    rw [history]
    exact List.mem_cons.trans (or_iff_right fun same => beside other same.symm)
  refine ⟨switch, fun other => ?_, fun party => ?_, fun party => ?_, fun party isIdle => ?_⟩
  · rw [trade, trades]
    exact traced.logged other
  · rw [history]
    exact at_each_cons _ _ _ _ (traced.on party) fun same => absurd same (beside _)
  · rw [history]
    exact at_each_cons _ _ _ _ (traced.unread party) fun ⟨signal, armed, same⟩ =>
      traced.idle party (unread party signal armed same)
  · rw [trade]
    exact traced.idle party (idle party isIdle)

theorem trades_traced_move (setup : TradingSetup) (system next : StrategyTrading α) (checked : ArmingsChecked system)
    (traced : TradesTraced system) (move : LiveMove setup system next) : TradesTraced next := by
  cases move with
  | trade label trading moved => exact trades_traced_trade setup system label trading moved checked.off traced
  | arming party after unchecked => exact ⟨traced.switch, traced.logged, traced.on, traced.unread, traced.idle⟩
  | check party after off =>
      exact trades_traced_beside system _ (.checked party) traced traced.switch rfl (fun _ => id) rfl (by simp) (by simp)
  | swap party armed isChecked =>
      exact trades_traced_beside system _ (.swapped party) traced traced.switch rfl (fun _ => id) rfl (by simp) (by simp)
  | tick party after engines stage => exact ⟨traced.switch, traced.logged, traced.on, traced.unread, traced.idle⟩
  | snapshot party after fresh stage =>
      exact trades_traced_beside system _ (.snapshot party) traced traced.switch rfl (fun _ => id) rfl (by simp) (by simp)
  | dispatch party command generation trading pending moved =>
      obtain ⟨idle, silent⟩ := step_call setup system.trading trading party command moved
      refine trades_traced_beside system _ (.dispatched party generation system.generation) traced
        (switch_checked_step setup system.trading _ trading traced.switch moved) ?_
        (fun other => step_idle moved other) rfl (by simp) ?_
      · rw [StrategyTrading.log, StrategyTrading.setTick, step_history setup system.trading trading _ moved, silent]
        rfl
      · rintro other signal armed ⟨⟩
        exact idle

structure StrategyTraced (system : StrategyTrading α) : Prop where
  armings : ArmingsChecked system
  ticks : TicksTraced system
  trades : TradesTraced system

theorem strategy_traced_initial : StrategyTraced ({} : StrategyTrading α) where
  armings :=
    { off := iff_of_true rfl (cleared_nil _ _)
      checks := guarded_nil _ _ _
      checked := fun _ isChecked => by cases isChecked
      preceded := preceded_nil _ _ }
  ticks := fun _ => ⟨fun _ _ => List.not_mem_nil, List.not_mem_nil⟩
  trades :=
    { switch := switch_checked_initial
      logged := fun _ => iff_of_false List.not_mem_nil List.not_mem_nil
      on := fun _ => at_each_nil _ _
      unread := fun _ => at_each_nil _ _
      idle := fun _ _ => List.not_mem_nil }

theorem strategy_traced_run (setup : TradingSetup) (labels : List (LiveLabel α)) (final : StrategyTrading α)
    (completed : run (StrategyTrading.step setup) {} labels = some final) : StrategyTraced final := by
  refine run_invariant (StrategyTrading.step setup) StrategyTraced (fun system label next traced moved => ?_) labels {}
    final strategy_traced_initial completed
  have move := live_move setup system label next moved
  exact ⟨armings_checked_move setup system next traced.armings move,
    ticks_traced_move setup system next traced.ticks move,
    trades_traced_move setup system next traced.armings traced.trades move⟩

-- Every placed order of a tick carries a signal of the arming in force when
-- the tick dispatched it.
def OrdersCurrent (history : List LiveEvent) : Prop :=
  ∀ party signalGeneration armedGeneration, .dispatched party signalGeneration armedGeneration ∈ history →
    .trade (.placed party) ∈ history → signalGeneration = armedGeneration

def Overtaken (history : List LiveEvent) (party swapper : ℕ) : Prop :=
  ∃ signalGeneration armedGeneration, [.dispatched party signalGeneration armedGeneration, .swapped swapper,
    .snapshot party].Sublist history

-- Trading is enabled after that swap and before the tick's order reads the
-- switch.
def EnabledBetween (history : List LiveEvent) (party swapper : ℕ) : Prop :=
  [.trade (.switchRead party), .trade .enabled, .swapped swapper].Sublist history

theorem dispatched_traced (system : StrategyTrading α) (traced : StrategyTraced system) (party signal armed : ℕ)
    (dispatched : .dispatched party signal armed ∈ system.history) :
    signal = armed ↔
      ∀ swapper, ¬ [.dispatched party signal armed, .swapped swapper, .snapshot party].Sublist system.history := by
  have trace := traced.ticks party
  cases stage : (system.ticks party).stage with
  | fresh =>
      rw [stage] at trace
      exact absurd dispatched (trace.1 signal armed)
  | pending taken =>
      rw [stage] at trace
      exact absurd dispatched (trace.1 signal armed)
  | sent signal' armed' =>
      rw [stage] at trace
      obtain ⟨rfl, rfl⟩ := trace.1 signal armed dispatched
      exact trace.2
  | ended =>
      rw [stage] at trace
      exact absurd dispatched (trace signal armed)

theorem placed_read (system : StrategyTrading α) (traced : StrategyTraced system) (party : ℕ)
    (placed : .trade (.placed party) ∈ system.history) : .trade (.switchRead party) ∈ system.history := by
  rw [traced.trades.logged] at placed ⊢
  obtain ⟨newer, older, split⟩ := List.append_of_mem placed
  rw [split]
  exact List.mem_append_right _ (List.mem_cons_of_mem _ (traced.trades.switch.preceded party newer older split))

theorem overtaken_enabled (system : StrategyTrading α) (traced : StrategyTraced system)
    (offAtSwaps : Guarded turnedOn turnedOff (fun event => ∃ party, event = .swapped party) system.history)
    (party swapper : ℕ) (overtaken : Overtaken system.history party swapper)
    (read : .trade (.switchRead party) ∈ system.history) : EnabledBetween system.history party swapper := by
  obtain ⟨signal, armed, ordered⟩ := overtaken
  obtain ⟨newer, older, split⟩ := List.append_of_mem read
  have atRead : ¬ Cleared turnedOn turnedOff older := traced.trades.on party newer _ older split rfl
  have late : .dispatched party signal armed ∉ newer := by
    intro member
    obtain ⟨later, earlier, newerSplit⟩ := List.append_of_mem member
    refine traced.trades.unread party later _ (earlier ++ .trade (.switchRead party) :: older) ?_ ⟨signal, armed, rfl⟩
      (by simp)
    rw [split, newerSplit]
    simp
  have before : .swapped swapper ∈ older := by
    rw [split] at ordered
    exact (sublist_older _ _ _ _ _ late (by simp) ordered).subset (by simp)
  obtain ⟨window, past, olderSplit⟩ := List.append_of_mem before
  have atSwap : Cleared turnedOn turnedOff past :=
    offAtSwaps (newer ++ .trade (.switchRead party) :: window) (.swapped swapper) past (by simp [split, olderSplit])
      ⟨swapper, rfl⟩
  have enabled : .trade .enabled ∈ window := by
    by_contra absent
    refine atRead ?_
    rw [olderSplit]
    exact cleared_append _ _ _ _ (fun event member isOn => absent (isOn ▸ member))
      (cleared_harmless _ _ _ _ (by simp [turnedOn]) atSwap)
  unfold EnabledBetween
  rw [split, olderSplit]
  refine List.Sublist.trans (List.Sublist.cons_cons _ ?_) (List.sublist_append_right newer _)
  exact (List.singleton_sublist.mpr enabled).append (List.singleton_sublist.mpr (by simp))

-- The armed strategy changes only while trading is off, and every placed
-- order is of the strategy armed at its dispatch, in exactly the runs in
-- which no enable falls between a handler's check and its swap, nor between a
-- swap that overtakes a tick and that tick's read of the switch.
theorem armed_strategy_stable (setup : TradingSetup) (labels : List (LiveLabel α)) (final : StrategyTrading α)
    (completed : run (StrategyTrading.step setup) {} labels = some final) :
    (Guarded turnedOn turnedOff (fun event => ∃ party, event = .swapped party) final.history ∧
        OrdersCurrent final.history) ↔
      (WindowsClear turnedOn turnedOff .swapped .checked final.history ∧
        ∀ party swapper, .trade (.placed party) ∈ final.history → Overtaken final.history party swapper →
          ¬ EnabledBetween final.history party swapper) := by
  have traced := strategy_traced_run setup labels final completed
  rw [← guarded_iff_windows_clear turnedOn turnedOff .swapped .checked final.history (fun party => by simp [turnedOn])
    traced.armings.preceded traced.armings.checks]
  refine and_congr_right fun offAtSwaps => ⟨?_, ?_⟩
  · rintro current party swapper placed ⟨signal, armed, ordered⟩ _
    have same := current party signal armed (ordered.subset (by simp)) placed
    have trace := dispatched_traced final traced party signal armed (ordered.subset (by simp))
    exact trace.mp same swapper ordered
  · intro unenabled party signal armed dispatched placed
    refine (dispatched_traced final traced party signal armed dispatched).mpr fun swapper ordered => ?_
    exact unenabled party swapper placed ⟨signal, armed, ordered⟩
      (overtaken_enabled final traced offAtSwaps party swapper ⟨signal, armed, ordered⟩
        (placed_read final traced party placed))

def armSchedule (party : ℕ) (request : ArmingRequest ℚ) : List (LiveLabel ℚ) :=
  [.call request, .checkSwitch, .swap].map (.arming party)

def tickSchedule (party : ℕ) (price : ℚ) (steps : List (TickStep ℚ)) : List (LiveLabel ℚ) :=
  (.call (flatBar "BTCUSDT" party price true) :: steps).map (.tick party)

def warmSchedule : List (LiveLabel ℚ) :=
  armSchedule 0 (.arm crossoverConfig) ++ tickSchedule 0 10 [.takeSnapshot, .onTick] ++
    tickSchedule 1 8 [.takeSnapshot, .onTick]

def sendSchedule : List (LiveLabel ℚ) :=
  [.tick 2 .onTick, .tick 2 (.handle (some thousandths) (some 1000)), .tick 2 .dispatch] ++
    ([.readSwitch, .checkConnection { reachable := true, failed := false }, .preview (some thousandths)].map
      (TradeLabel.dispatch 2) ++ placeSchedule 2 0).map .trade

def armedTrading : List (LiveLabel ℚ) :=
  warmSchedule ++ (enableSchedule 0).map .trade ++ tickSchedule 2 12 [.takeSnapshot] ++ sendSchedule

-- The strategy is disarmed while its third tick is in flight, and trading is
-- enabled before that tick goes on.
def disarmedInFlight : List (LiveLabel ℚ) :=
  warmSchedule ++ tickSchedule 2 12 [.takeSnapshot] ++ armSchedule 1 .disarm ++ (enableSchedule 0).map .trade ++
    sendSchedule

def enabledBeforeSwap : List (LiveLabel ℚ) :=
  [.arming 0 (.call (.arm crossoverConfig)), .arming 0 .checkSwitch] ++ (enableSchedule 0).map .trade ++
    [.arming 0 .swap]

theorem armed_strategy_stable_while_armed :
    ∃ final, run (StrategyTrading.step { limits := .configured }) {} armedTrading = some final ∧
      ((Guarded turnedOn turnedOff (fun event => ∃ party, event = .swapped party) final.history ∧
          OrdersCurrent final.history) ↔
        (WindowsClear turnedOn turnedOff .swapped .checked final.history ∧
          ∀ party swapper, .trade (.placed party) ∈ final.history → Overtaken final.history party swapper →
            ¬ EnabledBetween final.history party swapper)) := by
  have runs : (run (StrategyTrading.step { limits := .configured }) {} armedTrading).isSome = true := by
    decide +kernel
  obtain ⟨final, completed⟩ := Option.isSome_iff_exists.mp runs
  exact ⟨final, completed, armed_strategy_stable _ _ final completed⟩

theorem armed_strategy_unstable :
    (¬ ∀ (setup : TradingSetup) (labels : List (LiveLabel ℚ)) (final : StrategyTrading ℚ),
      run (StrategyTrading.step setup) {} labels = some final →
        Guarded turnedOn turnedOff (fun event => ∃ party, event = .swapped party) final.history) ∧
    ¬ ∀ (setup : TradingSetup) (labels : List (LiveLabel ℚ)) (final : StrategyTrading ℚ),
      run (StrategyTrading.step setup) {} labels = some final → OrdersCurrent final.history := by
  constructor
  · intro claimed
    have history : (run (StrategyTrading.step { limits := .configured }) {} enabledBeforeSwap).map
        StrategyTrading.history = some [.swapped 0, .trade .enabled, .checked 0] := by decide +kernel
    obtain ⟨final, completed, history⟩ := Option.map_eq_some_iff.mp history
    have guarded := claimed _ _ final completed
    rw [history] at guarded
    obtain ⟨remedy, member, _⟩ := guarded [] (.swapped 0) _ rfl ⟨0, rfl⟩ [] (.trade .enabled) _ rfl rfl
    cases member
  · intro claimed
    have history : ((run (StrategyTrading.step { limits := .configured }) {} disarmedInFlight).map
        StrategyTrading.history).any (fun history =>
          LiveEvent.dispatched 2 1 2 ∈ history ∧ LiveEvent.trade (.placed 2) ∈ history) = true := by decide +kernel
    obtain ⟨history, logged, both⟩ := (Option.any_eq_true _ _).mp history
    obtain ⟨final, completed, rfl⟩ := Option.map_eq_some_iff.mp logged
    obtain ⟨dispatched, placed⟩ := of_decide_eq_true both
    exact absurd (claimed _ _ final completed 2 1 2 dispatched placed) (by decide)

end Sagittarius
