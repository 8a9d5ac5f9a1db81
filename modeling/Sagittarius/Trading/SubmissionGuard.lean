import Sagittarius.Trading.TradingSystem

set_option autoImplicit false

namespace Sagittarius

def GuardHeld (system : TradingSystem) : Prop :=
  ∀ party, (system.dispatches party).holdsGuard = true ↔ system.guardOwner = some party

theorem guard_held_initial (session : TradingSessionState) : GuardHeld { session } := by
  intro party
  simp [Dispatch.holdsGuard]

theorem owner_after_self (owner : Option ℕ) (party : ℕ) (before after : Dispatch)
    (held : before.holdsGuard = true ↔ owner = some party) :
    after.holdsGuard = true ↔ TradingSystem.ownerAfter owner party before after = some party := by
  unfold TradingSystem.ownerAfter
  by_cases inside : after.holdsGuard = true
  · simp [inside]
  · by_cases leaving : before.holdsGuard = true
    · simp [inside, leaving]
    · rw [if_neg inside, if_neg leaving, ← held]
      exact iff_of_false inside leaving

theorem owner_after_other (owner : Option ℕ) (party other : ℕ) (before after : Dispatch) (different : other ≠ party)
    (held : before.holdsGuard = true ↔ owner = some party)
    (free : TradingSystem.entersGuard before after = true → owner = none) :
    TradingSystem.ownerAfter owner party before after = some other ↔ owner = some other := by
  unfold TradingSystem.ownerAfter
  by_cases inside : after.holdsGuard = true
  · rw [if_pos inside]
    refine iff_of_false (by simpa using Ne.symm different) fun owned => ?_
    by_cases already : before.holdsGuard = true
    · exact different (Option.some.inj (owned.symm.trans (held.mp already)))
    · have none := free (by simp [TradingSystem.entersGuard, inside, already])
      rw [none] at owned
      cases owned
  · rw [if_neg inside]
    by_cases leaving : before.holdsGuard = true
    · rw [if_pos leaving]
      refine iff_of_false (by simp) fun owned => ?_
      exact different (Option.some.inj (owned.symm.trans (held.mp leaving)))
    · rw [if_neg leaving]

theorem guard_held_step (setup : TradingSetup) (system : TradingSystem) (label : TradeLabel) (next : TradingSystem)
    (held : GuardHeld system) (completed : system.step setup label = some next) : GuardHeld next := by
  intro other
  rcases dispatch_or_other label with ⟨party, step, rfl⟩ | foreign
  · obtain ⟨after, op, event, _, free, rfl⟩ := step_dispatch setup system next party step completed
    by_cases same : other = party
    · subst same
      simpa using owner_after_self system.guardOwner other (system.dispatches other) after (held other)
    · simpa [Function.update_of_ne same] using (held other).trans
        (owner_after_other system.guardOwner party other (system.dispatches party) after same (held party) free).symm
  · obtain ⟨_, _, dispatches, owner, _, _⟩ := step_other setup system next label foreign completed
    rw [dispatches, owner]
    exact held other

-- What the guard makes of the system: one session state, the dispatch inside
-- the block if any, and what happened.
structure SubmissionSection where
  session : TradingSessionState
  inside : Option Dispatch
  history : List TradeEvent

def TradingSystem.submission (system : TradingSystem) : SubmissionSection where
  session := system.session
  inside := system.guardOwner.map system.dispatches
  history := system.history

inductive GuardStep (setup : TradingSetup) : SubmissionSection → SubmissionSection → Prop
  | outside (state : SubmissionSection) : GuardStep setup state state
  | switchRead (state : SubmissionSection) (party : ℕ) :
      GuardStep setup state { state with history := .switchRead party :: state.history }
  | enter (state : SubmissionSection) (prepared : Prepared) (free : state.inside = none) :
      GuardStep setup state { state with inside := some (.guarded prepared) }
  | move (state : SubmissionSection) (party : ℕ) (before after : Dispatch) (op : Option SessionOp)
      (event : Option TradeEvent) (entered : state.inside = some before) (held : before.holdsGuard = true)
      (moved : DispatchMove setup state.session party before after op event) :
      GuardStep setup state
        { session := TradingSystem.performOp state.session op
          inside := if after.holdsGuard then some after else none
          history := event.toList ++ state.history }

inductive SectionStep (setup : TradingSetup) (state : SubmissionSection) : SubmissionSection → Prop
  | dispatch (next : SubmissionSection) (moved : GuardStep setup state next) : SectionStep setup state next
  | call (op : SessionOp) (foreign : ∀ symbol now, op ≠ .recordOrderSent symbol now) :
      SectionStep setup state
        { state with
          session := state.session.perform op
          history := (TradingSystem.opEvent state.session op).toList ++ state.history }

theorem outside_move (setup : TradingSetup) (session : TradingSessionState) (party : ℕ) (before after : Dispatch)
    (op : Option SessionOp) (event : Option TradeEvent)
    (moved : DispatchMove setup session party before after op event) (outside : before.holdsGuard = false) :
    op = none ∧
      ((∃ prepared, after = .guarded prepared ∧ event = none) ∨
        (after.holdsGuard = false ∧ (event = none ∨ event = some (.switchRead party)))) := by
  cases moved <;> simp_all [Dispatch.holdsGuard]

theorem section_step_dispatch (setup : TradingSetup) (system next : TradingSystem) (party : ℕ) (step : DispatchStep)
    (held : GuardHeld system) (completed : system.step setup (.dispatch party step) = some next) :
    GuardStep setup system.submission next.submission := by
  obtain ⟨after, op, event, moved, free, rfl⟩ := step_dispatch setup system next party step completed
  cases inside : (system.dispatches party).holdsGuard with
  | true =>
      have owner : system.guardOwner = some party := (held party).mp inside
      have move := GuardStep.move system.submission party (system.dispatches party) after op event
        (by simp [TradingSystem.submission, owner]) inside moved
      convert move using 1
      cases stays : after.holdsGuard <;>
        simp [TradingSystem.submission, TradingSystem.ownerAfter, inside, stays, Function.update_self]
  | false =>
      have notOwner : system.guardOwner ≠ some party := fun owned => by simp [(held party).mpr owned] at inside
      have others : system.guardOwner.map (Function.update system.dispatches party after) =
          system.guardOwner.map system.dispatches := by
        cases owner : system.guardOwner with
        | none => rfl
        | some other =>
            have different : other ≠ party := fun same => notOwner (same ▸ owner)
            simp [Function.update_of_ne different]
      obtain ⟨rfl, ⟨prepared, rfl, rfl⟩ | ⟨outside, rfl | rfl⟩⟩ := outside_move _ _ _ _ _ _ _ moved inside
      · have entered : (Dispatch.guarded prepared).holdsGuard = true := rfl
        have unowned := free (by simp [TradingSystem.entersGuard, inside, entered])
        have enter : GuardStep setup system.submission _ := .enter system.submission prepared
          (by simp [TradingSystem.submission, unowned])
        simpa [TradingSystem.submission, TradingSystem.ownerAfter, TradingSystem.performOp, Dispatch.holdsGuard] using enter
      · have stay : GuardStep setup system.submission _ := .outside system.submission
        simpa [TradingSystem.submission, TradingSystem.ownerAfter, TradingSystem.performOp, inside, outside, others] using stay
      · have read : GuardStep setup system.submission _ := .switchRead system.submission party
        simpa [TradingSystem.submission, TradingSystem.ownerAfter, TradingSystem.performOp, inside, outside, others] using read

theorem section_step_other (setup : TradingSetup) (system next : TradingSystem) (label : TradeLabel)
    (other : ∀ party step, label ≠ .dispatch party step) (completed : system.step setup label = some next) :
    SectionStep setup system.submission next.submission := by
  obtain ⟨op, foreign, dispatches, owner, session, history⟩ := step_other setup system next label other completed
  have same : next.submission =
      { system.submission with
        session := TradingSystem.performOp system.session op
        history := (op.bind (TradingSystem.opEvent system.session)).toList ++ system.history } := by
    simp [TradingSystem.submission, dispatches, owner, session, history]
  rw [same]
  cases op with
  | none => exact .dispatch _ (.outside system.submission)
  | some op => exact .call op (fun symbol now records => foreign symbol now (congrArg some records))

theorem section_step (setup : TradingSetup) (system : TradingSystem) (label : TradeLabel) (next : TradingSystem)
    (held : GuardHeld system) (completed : system.step setup label = some next) :
    SectionStep setup system.submission next.submission := by
  rcases dispatch_or_other label with ⟨party, step, rfl⟩ | foreign
  · exact .dispatch _ (section_step_dispatch setup system next party step held completed)
  · exact section_step_other setup system next label foreign completed

theorem section_invariant (setup : TradingSetup) (Inv : SubmissionSection → Prop) (start : TradingSystem)
    (held : GuardHeld start) (initial : Inv start.submission)
    (preserved : ∀ state next, Inv state → SectionStep setup state next → Inv next) (labels : List TradeLabel)
    (final : TradingSystem) (completed : Interleaving.run (TradingSystem.step setup) start labels = some final) :
    Inv final.submission :=
  (Interleaving.run_invariant (TradingSystem.step setup) (fun system => GuardHeld system ∧ Inv system.submission)
    (fun system label next inv moved =>
      ⟨guard_held_step setup system label next inv.1 moved,
        preserved _ _ inv.2 (section_step setup system label next inv.1 moved)⟩)
    labels start final ⟨held, initial⟩ completed).2

def TradeLabel.isDispatch : TradeLabel → Bool
  | .dispatch _ _ => true
  | _ => false

theorem dispatch_invariant (setup : TradingSetup) (Inv : SubmissionSection → Prop) (start : TradingSystem)
    (held : GuardHeld start) (initial : Inv start.submission)
    (preserved : ∀ state next, Inv state → GuardStep setup state next → Inv next) (labels : List TradeLabel)
    (dispatches : ∀ label ∈ labels, label.isDispatch = true) (final : TradingSystem)
    (completed : Interleaving.run (TradingSystem.step setup) start labels = some final) : Inv final.submission := by
  refine (Interleaving.run_invariant_on (TradingSystem.step setup) (fun label => label.isDispatch = true)
    (fun system => GuardHeld system ∧ Inv system.submission) ?_ labels start final ⟨held, initial⟩ dispatches
    completed).2
  rintro system label next ⟨held, inv⟩ isDispatch moved
  refine ⟨guard_held_step setup system label next held moved, ?_⟩
  cases label with
  | dispatch party step => exact preserved _ _ inv (section_step_dispatch setup system next party step held moved)
  | enabling party step => cases isDispatch
  | stopping party step => cases isDispatch
  | session op => cases isDispatch

end Sagittarius
