import Sagittarius.Library.History
import Sagittarius.Trading.TradingSystem

set_option autoImplicit false

namespace Sagittarius

open Interleaving

def switchedOff (event : TradeEvent) : Prop := event = .disabled

def switchedOn (event : TradeEvent) : Prop := event = .enabled

def Dispatch.pastSwitch : Dispatch → Bool
  | .idle => false
  | .called _ => false
  | .finished _ => false
  | .raised => false
  | _ => true

section Moves

variable {setup : TradingSetup} {session : TradingSessionState} {party : ℕ} {before after : Dispatch}
  {op : Option SessionOp} {event : Option TradeEvent}

theorem move_enabled (move : DispatchMove setup session party before after op event) :
    (TradingSystem.performOp session op).enabled = session.enabled := by
  cases move <;> rfl

theorem move_keeps_switch (move : DispatchMove setup session party before after op event) (happened : TradeEvent)
    (logged : event = some happened) : happened ≠ .enabled ∧ happened ≠ .disabled := by
  cases move <;> cases logged <;> simp

theorem move_switch_read (move : DispatchMove setup session party before after op event) (reader : ℕ)
    (logged : event = some (.switchRead reader)) :
    reader = party ∧ session.enabled = true ∧ before ≠ .idle := by
  cases move <;> cases logged
  exact ⟨rfl, ‹_›, by simp⟩

theorem move_placed (move : DispatchMove setup session party before after op event) (placer : ℕ)
    (logged : event = some (.placed placer)) : placer = party ∧ before.pastSwitch = true := by
  cases move <;> cases logged
  exact ⟨rfl, rfl⟩

theorem move_past_switch (move : DispatchMove setup session party before after op event)
    (past : after.pastSwitch = true) : before.pastSwitch = true ∨ event = some (.switchRead party) := by
  cases move <;> first | exact .inl rfl | exact .inr rfl | cases past

theorem move_not_idle (move : DispatchMove setup session party before after op event) : after ≠ .idle := by
  cases move <;> simp

end Moves

theorem op_switch (session : TradingSessionState) (op : Option SessionOp) :
    (op.bind (TradingSystem.opEvent session) = some .enabled ∧ (TradingSystem.performOp session op).enabled = true) ∨
      (op.bind (TradingSystem.opEvent session) = some .disabled ∧
        (TradingSystem.performOp session op).enabled = false) ∨
      ((∀ happened, op.bind (TradingSystem.opEvent session) = some happened →
          happened ≠ .enabled ∧ happened ≠ .disabled) ∧
        (TradingSystem.performOp session op).enabled = session.enabled) := by
  cases op with
  | none => exact .inr (.inr ⟨fun _ logged => (by cases logged), rfl⟩)
  | some op =>
      cases op with
      | enable openSymbols expectedGeneration =>
          cases expected : session.expects expectedGeneration with
          | false =>
              refine .inr (.inr ⟨fun _ logged => by simp [TradingSystem.opEvent, expected] at logged, ?_⟩)
              rw [TradingSystem.performOp, Option.elim_some, TradingSessionState.enable_superseded _ _ _ expected]
          | true =>
              refine .inl ⟨by simp [TradingSystem.opEvent, expected], ?_⟩
              rw [TradingSystem.performOp, Option.elim_some, TradingSessionState.enable_applied _ _ _ expected]
      | disable => exact .inr (.inl ⟨rfl, rfl⟩)
      | recordOrderSent symbol now => exact .inr (.inr ⟨fun _ logged => (by cases logged), rfl⟩)
      | reconcilePosition symbol hasPosition =>
          exact .inr (.inr ⟨fun _ logged => (by cases logged; exact ⟨by simp, by simp⟩), rfl⟩)

theorem op_event_no_dispatch (session : TradingSessionState) (op : Option SessionOp) (party : ℕ) :
    op.bind (TradingSystem.opEvent session) ≠ some (.switchRead party) ∧
      op.bind (TradingSystem.opEvent session) ≠ some (.placed party) := by
  cases op with
  | none => exact ⟨by simp, by simp⟩
  | some op =>
      cases op with
      | enable openSymbols expectedGeneration =>
          simp only [Option.bind_some, TradingSystem.opEvent]
          split_ifs <;> simp
      | disable => exact ⟨by simp [TradingSystem.opEvent], by simp [TradingSystem.opEvent]⟩
      | recordOrderSent symbol now => exact ⟨by simp [TradingSystem.opEvent], by simp [TradingSystem.opEvent]⟩
      | reconcilePosition symbol hasPosition => exact ⟨by simp [TradingSystem.opEvent], by simp [TradingSystem.opEvent]⟩

section Steps

variable {setup : TradingSetup} {system next : TradingSystem} {label : TradeLabel}

theorem step_switch (completed : system.step setup label = some next) :
    (system.event setup label = some .enabled ∧ next.session.enabled = true) ∨
      (system.event setup label = some .disabled ∧ next.session.enabled = false) ∨
      ((∀ happened, system.event setup label = some happened → happened ≠ .enabled ∧ happened ≠ .disabled) ∧
        next.session.enabled = system.session.enabled) := by
  rw [step_session setup system next label completed]
  rcases dispatch_or_other label with ⟨party, step, rfl⟩ | other
  · obtain ⟨after, move, _⟩ := step_dispatch_move setup system next party step completed
    exact .inr (.inr ⟨move_keeps_switch move, move_enabled move⟩)
  · rw [event_other setup system label other]
    exact op_switch system.session (system.sessionOp label)

theorem step_switch_read (completed : system.step setup label = some next) (reader : ℕ)
    (read : system.event setup label = some (.switchRead reader)) :
    system.session.enabled = true ∧ system.dispatches reader ≠ .idle := by
  rcases dispatch_or_other label with ⟨party, step, rfl⟩ | other
  · obtain ⟨after, move, _⟩ := step_dispatch_move setup system next party step completed
    obtain ⟨rfl, on, called⟩ := move_switch_read move reader read
    exact ⟨on, called⟩
  · rw [event_other setup system label other] at read
    exact absurd read (op_event_no_dispatch system.session _ reader).1

theorem step_placed (completed : system.step setup label = some next) (placer : ℕ)
    (placed : system.event setup label = some (.placed placer)) : (system.dispatches placer).pastSwitch = true := by
  rcases dispatch_or_other label with ⟨party, step, rfl⟩ | other
  · obtain ⟨after, move, _⟩ := step_dispatch_move setup system next party step completed
    obtain ⟨rfl, past⟩ := move_placed move placer placed
    exact past
  · rw [event_other setup system label other] at placed
    exact absurd placed (op_event_no_dispatch system.session _ placer).2

theorem step_past_switch (completed : system.step setup label = some next) (party : ℕ)
    (past : (next.dispatches party).pastSwitch = true) :
    (system.dispatches party).pastSwitch = true ∨ system.event setup label = some (.switchRead party) := by
  rcases dispatch_or_other label with ⟨mover, step, rfl⟩ | other
  · obtain ⟨after, move, _, moved⟩ := step_dispatch_move setup system next mover step completed
    have dispatches : next.dispatches = Function.update system.dispatches mover after := by rw [moved]
    by_cases same : party = mover
    · subst same
      rw [dispatches, Function.update_self] at past
      exact move_past_switch move past
    · rw [dispatches, Function.update_of_ne same] at past
      exact .inl past
  · obtain ⟨_, _, dispatches, _⟩ := step_other setup system next label other completed
    exact .inl (dispatches ▸ past)

theorem step_idle (completed : system.step setup label = some next) (party : ℕ)
    (idle : next.dispatches party = .idle) : system.dispatches party = .idle := by
  rcases dispatch_or_other label with ⟨mover, step, rfl⟩ | other
  · obtain ⟨after, move, _, moved⟩ := step_dispatch_move setup system next mover step completed
    have dispatches : next.dispatches = Function.update system.dispatches mover after := by rw [moved]
    by_cases same : party = mover
    · subst same
      rw [dispatches, Function.update_self] at idle
      exact absurd idle (move_not_idle move)
    · rwa [dispatches, Function.update_of_ne same] at idle
  · obtain ⟨_, _, dispatches, _⟩ := step_other setup system next label other completed
    rwa [dispatches] at idle

end Steps

-- Reads of the switch happen while it is on, and every place_order comes
-- after its own dispatch's read.
structure SwitchChecked (system : TradingSystem) : Prop where
  on : system.session.enabled = true → Cleared switchedOff switchedOn system.history
  checks : Guarded switchedOff switchedOn (fun event => ∃ party, event = .switchRead party) system.history
  read : ∀ party, (system.dispatches party).pastSwitch = true → .switchRead party ∈ system.history
  preceded : Preceded .placed .switchRead system.history

theorem switch_checked_step (setup : TradingSetup) (system : TradingSystem) (label : TradeLabel) (next : TradingSystem)
    (checked : SwitchChecked system) (completed : system.step setup label = some next) : SwitchChecked next := by
  have history := step_history setup system next label completed
  have read : ∀ party, (next.dispatches party).pastSwitch = true → .switchRead party ∈ next.history := by
    intro party past
    rw [history]
    rcases step_past_switch completed party past with already | logged
    · exact List.mem_append_right _ (checked.read party already)
    · simp [logged]
  have on : next.session.enabled = true → Cleared switchedOff switchedOn next.history := by
    intro isOn
    rw [history]
    rcases step_switch completed with ⟨logged, _⟩ | ⟨_, isOff⟩ | ⟨other, same⟩
    · rw [logged]
      exact cleared_good _ _ _ _ (by simp [switchedOff]) rfl
    · rw [isOff] at isOn
      cases isOn
    · refine (cleared_silent_iff _ _ _ _ fun happened logged => ?_).mpr (checked.on (same ▸ isOn))
      exact ⟨(other happened logged).2, (other happened logged).1⟩
  cases event : system.event setup label with
  | none =>
      rw [event] at history
      exact ⟨on, history ▸ checked.checks, read, history ▸ checked.preceded⟩
  | some happened =>
      rw [event] at history
      refine ⟨on, ?_, read, ?_⟩
      · rw [history]
        refine guarded_cons _ _ _ _ _ checked.checks ?_
        rintro ⟨reader, rfl⟩
        exact checked.on (step_switch_read completed reader event).1
      · rw [history]
        refine preceded_cons _ _ _ _ checked.preceded ?_
        rintro placer rfl
        exact checked.read placer (step_placed completed placer event)

theorem switch_checked_initial : SwitchChecked {} where
  on := fun _ => cleared_nil _ _
  checks := guarded_nil _ _ _
  read := fun _ past => by cases past
  preceded := preceded_nil _ _

-- Once trading is disabled no order is placed before it is enabled again,
-- but for the disables that fall between a dispatch's read of the switch and
-- its place_order.
theorem place_order_guarded_by_switch (setup : TradingSetup) (labels : List TradeLabel) (final : TradingSystem)
    (completed : run (TradingSystem.step setup) {} labels = some final) :
    Guarded switchedOff switchedOn (fun event => ∃ party, event = .placed party) final.history ↔
      WindowsClear switchedOff switchedOn .placed .switchRead final.history := by
  have checked := run_invariant (TradingSystem.step setup) SwitchChecked (switch_checked_step setup) labels {} final
    switch_checked_initial completed
  exact guarded_iff_windows_clear switchedOff switchedOn .placed .switchRead final.history
    (fun party => by simp [switchedOff]) checked.preceded checked.checks

theorem place_order_guarded_after_reenable :
    ∃ final, run (TradingSystem.step { limits := .configured }) {}
        (enableSchedule 0 ++ stopSchedule 0 ++ enableSchedule 1 ++
          previewSchedule 0 (marketOrder "BTCUSDT" .buy false) ++ placeSchedule 0 0) = some final ∧
      (Guarded switchedOff switchedOn (fun event => ∃ party, event = .placed party) final.history ↔
        WindowsClear switchedOff switchedOn .placed .switchRead final.history) := by
  have runs : (run (TradingSystem.step { limits := .configured }) {}
      (enableSchedule 0 ++ stopSchedule 0 ++ enableSchedule 1 ++
        previewSchedule 0 (marketOrder "BTCUSDT" .buy false) ++ placeSchedule 0 0)).isSome = true := by decide +kernel
  obtain ⟨final, completed⟩ := Option.isSome_iff_exists.mp runs
  exact ⟨final, completed, place_order_guarded_by_switch _ _ final completed⟩

-- An emergency stop returns from disable while an order that passed the gates
-- waits for the guard; the order is then placed.
theorem disable_overtaken_by_dispatch :
    ¬ ∀ (setup : TradingSetup) (labels : List TradeLabel) (final : TradingSystem),
      run (TradingSystem.step setup) {} labels = some final →
        Guarded switchedOff switchedOn (fun event => ∃ party, event = .placed party) final.history := by
  intro claimed
  have history : (run (TradingSystem.step { limits := .configured }) {}
      (enableSchedule 0 ++ previewSchedule 0 (marketOrder "BTCUSDT" .buy false) ++ stopSchedule 0 ++
        placeSchedule 0 0)).map TradingSystem.history =
      some [.placed 0, .disabled, .switchRead 0, .enabled] := by decide +kernel
  obtain ⟨final, completed, history⟩ := Option.map_eq_some_iff.mp history
  have guarded := claimed _ _ final completed
  rw [history] at guarded
  obtain ⟨remedy, member, _⟩ := guarded [] (.placed 0) _ rfl ⟨0, rfl⟩ [] .disabled _ rfl rfl
  cases member

end Sagittarius
