import Sagittarius.Library.Mirror
import Sagittarius.Trading.TradingSystem
import Sagittarius.Trading.UserDataStream

set_option autoImplicit false

namespace Sagittarius

open Interleaving

-- The commands that change the switch, with their calls on the stream taken
-- statement by statement. `starts` is the start() of an Enable, `stopCalls` the
-- stop() of a Disable or an EmergencyStop.
structure StreamSystem where
  session : TradingSessionState := {}
  stream : FuturesUserDataStream := {}
  enablings : ℕ → Enabling := fun _ => .idle
  starts : ℕ → StartCall := fun _ => .check
  stops : ℕ → Stopping := fun _ => .idle
  stopCalls : ℕ → StopCall := fun _ => .check

inductive StreamLabel
  | enabling (party : ℕ) (step : EnablingStep)
  | start (party : ℕ)
  | stopping (party : ℕ) (step : StoppingStep)
  | stop (party : ℕ)
  | recordOrderSent (symbol : String) (now : ℤ)
  | reconcilePosition (symbol : String) (hasPosition : Bool)
deriving DecidableEq

def StartCall.ended : StartCall → Bool
  | .returned _ => true
  | _ => false

def StopCall.ended : StopCall → Bool
  | .returned _ => true
  | .raised => true
  | _ => false

-- `startStream` and `stopStream` are the ends of the calls, whether or not
-- stop() raised: an EmergencyStop catches that, a Disable raises it on.
def StreamSystem.step (setup : TradingSetup) (system : StreamSystem) : StreamLabel → Option StreamSystem
  | .enabling party step =>
      if step = .startStream ∧ (system.starts party).ended = false then none
      else
        (Enabling.next setup system.session (system.enablings party) step).map fun after =>
          { system with
            session := TradingSystem.performOp system.session ((system.enablings party).sessionOp step)
            enablings := Function.update system.enablings party after }
  | .start party =>
      if system.enablings party = .applied then
        ((system.starts party).advance system.stream).map fun after =>
          { system with
            stream := after.2
            starts := Function.update system.starts party after.1 }
      else none
  | .stopping party step =>
      if step = .stopStream ∧ (system.stopCalls party).ended = false then none
      else
        (Stopping.next (system.stops party) step).map fun after =>
          { system with
            session := TradingSystem.performOp system.session (Stopping.sessionOp step)
            stops := Function.update system.stops party after }
  | .stop party =>
      if system.stops party = .disabled then
        ((system.stopCalls party).advance system.stream).map fun after =>
          { system with
            stream := after.2
            stopCalls := Function.update system.stopCalls party after.1 }
      else none
  | .recordOrderSent symbol now => some { system with session := system.session.recordOrderSent symbol now }
  | .reconcilePosition symbol hasPosition =>
      some { system with session := system.session.reconcilePosition symbol hasPosition }

-- The switch is an original and the task handle its image: an Enable that
-- applied owes it a start(), a Disable or an EmergencyStop a stop().
def StartCall.owes (enabling : Enabling) : StartCall → Option Bool
  | .returned _ => none
  | _ => if enabling = .applied then some true else none

def StopCall.owes (stopping : Stopping) : StopCall → Option Bool
  | .clearToken => none
  | .returned _ => none
  | .raised => none
  | _ => if stopping = .disabled then some false else none

def StreamSystem.underWay (system : StreamSystem) : ℕ ⊕ ℕ → Option Bool
  | .inl party => (system.starts party).owes (system.enablings party)
  | .inr party => (system.stopCalls party).owes (system.stops party)

def StreamSystem.mirror (system : StreamSystem) : Mirror (ℕ ⊕ ℕ) Bool where
  original := system.session.enabled
  image := system.stream.taskHandle.isSome
  underWay := system.underWay

def Enabling.change (session : TradingSessionState) (party : ℕ) :
    Enabling → EnablingStep → Mirror.Change (ℕ ⊕ ℕ) Bool
  | .reconciled generation, .apply => if session.expects (some generation) then .write (.inl party) true else .stay
  | _, _ => .stay

def StartCall.change (stream : FuturesUserDataStream) (party : ℕ) : StartCall → Mirror.Change (ℕ ⊕ ℕ) Bool
  | .check => if stream.taskHandle.isSome then .land (.inl party) true else .stay
  | .setHandle _ => .land (.inl party) true
  | _ => .stay

def StopCall.change (stream : FuturesUserDataStream) (party : ℕ) : StopCall → Mirror.Change (ℕ ⊕ ℕ) Bool
  | .check => if stream.taskHandle.isSome then .stay else .land (.inr party) false
  | .cancelToken => if stream.token.isSome then .stay else .drop (.inr party)
  | .cancelTask => if stream.taskHandle.isSome then .stay else .land (.inr party) false
  | .clearHandle => .land (.inr party) false
  | _ => .stay

def StreamSystem.change (system : StreamSystem) : StreamLabel → Mirror.Change (ℕ ⊕ ℕ) Bool
  | .enabling party step => (system.enablings party).change system.session party step
  | .start party => (system.starts party).change system.stream party
  | .stopping party .disable => .write (.inr party) false
  | .stopping _ _ => .stay
  | .stop party => (system.stopCalls party).change system.stream party
  | .recordOrderSent _ _ => .stay
  | .reconcilePosition _ _ => .stay

def StreamSystem.ChangesSwitch (system : StreamSystem) (label : StreamLabel) : Prop := (system.change label).Writes

def StreamSystem.KeepsStream (system : StreamSystem) (label : StreamLabel) : Prop :=
  system.mirror.Lawful (system.change label)

structure Uncalled (system : StreamSystem) : Prop where
  starts : ∀ party, system.starts party ≠ .check → system.enablings party = .applied ∨ system.enablings party = .enabled
  stops : ∀ party, system.stopCalls party ≠ .check → system.stops party = .disabled ∨ system.stops party = .stopped

theorem StartCall.ended_owes (call : StartCall) (enabling : Enabling) (ended : call.ended = true) :
    call.owes enabling = none := by
  cases call with
  | returned started => rfl
  | _ => cases ended

theorem StopCall.ended_owes (call : StopCall) (stopping : Stopping) (ended : call.ended = true) :
    call.owes stopping = none := by
  cases call with
  | returned stopped => rfl
  | raised => rfl
  | _ => cases ended

theorem StartCall.owes_applied (call : StartCall) (enabling : Enabling) (other : enabling ≠ .applied) :
    call.owes enabling = none := by
  cases call with
  | returned started => rfl
  | _ => exact if_neg other

theorem StopCall.owes_disabled (call : StopCall) (stopping : Stopping) (other : stopping ≠ .disabled) :
    call.owes stopping = none := by
  cases call with
  | clearToken => rfl
  | returned stopped => rfl
  | raised => rfl
  | _ => exact if_neg other

theorem under_way_elim (system : StreamSystem) :
    system.underWay = Sum.elim (fun party => (system.starts party).owes (system.enablings party))
      (fun party => (system.stopCalls party).owes (system.stops party)) := by
  funext party
  cases party <;> rfl

theorem under_way_enabling (system : StreamSystem) (session : TradingSessionState) (party : ℕ) (after : Enabling) :
    StreamSystem.underWay { system with session, enablings := Function.update system.enablings party after } =
      Function.update system.underWay (.inl party) ((system.starts party).owes after) := by
  rw [under_way_elim, under_way_elim, Sum.update_elim_inl]
  exact congrArg (Sum.elim · _) (funext (Function.apply_update (fun other => (system.starts other).owes) _ party after))

theorem under_way_start (system : StreamSystem) (stream : FuturesUserDataStream) (party : ℕ) (after : StartCall) :
    StreamSystem.underWay { system with stream, starts := Function.update system.starts party after } =
      Function.update system.underWay (.inl party) (after.owes (system.enablings party)) := by
  rw [under_way_elim, under_way_elim, Sum.update_elim_inl]
  exact congrArg (Sum.elim · _)
    (funext (Function.apply_update (fun other call => StartCall.owes (system.enablings other) call) _ party after))

theorem under_way_stopping (system : StreamSystem) (session : TradingSessionState) (party : ℕ) (after : Stopping) :
    StreamSystem.underWay { system with session, stops := Function.update system.stops party after } =
      Function.update system.underWay (.inr party) ((system.stopCalls party).owes after) := by
  rw [under_way_elim, under_way_elim, Sum.update_elim_inr]
  exact congrArg (Sum.elim _) (funext (Function.apply_update (fun other => (system.stopCalls other).owes) _ party after))

theorem under_way_stop (system : StreamSystem) (stream : FuturesUserDataStream) (party : ℕ) (after : StopCall) :
    StreamSystem.underWay { system with stream, stopCalls := Function.update system.stopCalls party after } =
      Function.update system.underWay (.inr party) (after.owes (system.stops party)) := by
  rw [under_way_elim, under_way_elim, Sum.update_elim_inr]
  exact congrArg (Sum.elim _)
    (funext (Function.apply_update (fun other call => StopCall.owes (system.stops other) call) _ party after))

inductive Owes (party : ℕ ⊕ ℕ) (value : Bool) (enabled handle enabledAfter handleAfter : Bool)
    (before after : Option Bool) : Mirror.Change (ℕ ⊕ ℕ) Bool → Prop
  | stay (switch : enabledAfter = enabled) (stream : handleAfter = handle) (same : after = before) :
      Owes party value enabled handle enabledAfter handleAfter before after .stay
  | write (switch : enabledAfter = value) (stream : handleAfter = handle) (owed : after = some value) :
      Owes party value enabled handle enabledAfter handleAfter before after (.write party value)
  | land (switch : enabledAfter = enabled) (stream : handleAfter = value) (owed : before = some value)
      (paid : after = none) : Owes party value enabled handle enabledAfter handleAfter before after (.land party value)
  | drop (switch : enabledAfter = enabled) (stream : handleAfter = handle) (paid : after = none) :
      Owes party value enabled handle enabledAfter handleAfter before after (.drop party)

theorem enabling_owes (setup : TradingSetup) (session : TradingSessionState) (party : ℕ) (handle : Bool)
    (before after : Enabling) (step : EnablingStep) (call : StartCall)
    (moved : Enabling.next setup session before step = some after)
    (called : call ≠ .check → before = .applied ∨ before = .enabled)
    (ended : step = .startStream → call.ended = true) :
    Owes (.inl party) true session.enabled handle
      (TradingSystem.performOp session (before.sessionOp step)).enabled handle (call.owes before) (call.owes after)
      (before.change session party step) := by
  have early : before ≠ .applied → before ≠ .enabled → call = .check := by
    intro notApplied notEnabled
    by_contra other
    rcases called other with applied | enabled
    · exact notApplied applied
    · exact notEnabled enabled
  unfold Enabling.next at moved
  split at moved
  · cases moved
    rw [early (by simp) (by simp)]
    exact .stay rfl rfl rfl
  · cases moved
    rw [early (by simp) (by simp)]
    split_ifs <;> exact .stay rfl rfl rfl
  · cases moved
    rw [early (by simp) (by simp)]
    split_ifs <;> exact .stay rfl rfl rfl
  · cases moved
    rw [early (by simp) (by simp)]
    split_ifs <;> exact .stay rfl rfl rfl
  · cases moved
    rw [early (by simp) (by simp)]
    exact .stay rfl rfl rfl
  · rename_i generation
    cases moved
    rw [early (by simp) (by simp)]
    simp only [Enabling.change, Enabling.sessionOp, TradingSystem.performOp, Option.elim_some]
    cases expected : session.expects (some generation) with
    | false =>
        rw [TradingSessionState.enable_superseded session _ _ expected]
        exact .stay rfl rfl rfl
    | true =>
        rw [TradingSessionState.enable_applied session _ _ expected]
        exact .write rfl rfl rfl
  · cases moved
    rw [call.ended_owes _ (ended rfl), call.ended_owes _ (ended rfl)]
    exact .stay rfl rfl rfl
  · cases moved

theorem start_owes (stream : FuturesUserDataStream) (party : ℕ) (enabled : Bool) (before after : StartCall)
    (changed : FuturesUserDataStream) (moved : before.advance stream = some (after, changed)) :
    Owes (.inl party) true enabled stream.taskHandle.isSome enabled changed.taskHandle.isSome (before.owes .applied)
      (after.owes .applied) (before.change stream party) := by
  cases before with
  | check =>
      simp only [StartCall.advance, Option.some.injEq, Prod.mk.injEq] at moved
      obtain ⟨rfl, rfl⟩ := moved
      simp only [StartCall.change]
      cases running : stream.taskHandle.isSome with
      | false => exact .stay rfl rfl rfl
      | true => exact .land rfl rfl rfl rfl
  | setHandle task => cases moved; exact .land rfl rfl rfl rfl
  | returned started => cases moved
  | setToken => cases moved; exact .stay rfl rfl rfl
  | resetPnl => cases moved; exact .stay rfl rfl rfl
  | readGeneration => cases moved; exact .stay rfl rfl rfl
  | writeGeneration read => cases moved; exact .stay rfl rfl rfl
  | spawn => cases moved; exact .stay rfl rfl rfl

theorem stopping_owes (session : TradingSessionState) (party : ℕ) (handle : Bool) (before after : Stopping)
    (step : StoppingStep) (call : StopCall) (system : StreamSystem) (moved : Stopping.next before step = some after)
    (called : call ≠ .check → before = .disabled ∨ before = .stopped)
    (ended : step = .stopStream → call.ended = true) :
    Owes (.inr party) false session.enabled handle
      (TradingSystem.performOp session (Stopping.sessionOp step)).enabled handle (call.owes before) (call.owes after)
      (system.change (.stopping party step)) := by
  have early : before ≠ .disabled → before ≠ .stopped → call = .check := by
    intro notDisabled notStopped
    by_contra other
    rcases called other with disabled | stopped
    · exact notDisabled disabled
    · exact notStopped stopped
  unfold Stopping.next at moved
  split at moved
  · cases moved
    rw [early (by simp) (by simp)]
    exact .stay rfl rfl rfl
  · cases moved
    rw [early (by simp) (by simp)]
    exact .write rfl rfl rfl
  · cases moved
    rw [call.ended_owes _ (ended rfl), call.ended_owes _ (ended rfl)]
    exact .stay rfl rfl rfl
  · cases moved

theorem stop_owes (stream : FuturesUserDataStream) (party : ℕ) (enabled : Bool) (before after : StopCall)
    (changed : FuturesUserDataStream) (moved : before.advance stream = some (after, changed)) :
    Owes (.inr party) false enabled stream.taskHandle.isSome enabled changed.taskHandle.isSome (before.owes .disabled)
      (after.owes .disabled) (before.change stream party) := by
  cases before with
  | check =>
      simp only [StopCall.advance, Option.some.injEq, Prod.mk.injEq] at moved
      obtain ⟨rfl, rfl⟩ := moved
      simp only [StopCall.change]
      cases running : stream.taskHandle.isSome with
      | false => exact .land rfl rfl rfl rfl
      | true => exact .stay rfl rfl rfl
  | cancelToken =>
      simp only [StopCall.advance, StopCall.change, Option.some.injEq] at moved ⊢
      cases held : stream.token with
      | none =>
          rw [held] at moved
          cases moved
          exact .drop rfl rfl rfl
      | some token =>
          rw [held] at moved
          cases moved
          exact .stay rfl rfl rfl
  | cancelTask =>
      simp only [StopCall.advance, StopCall.change, Option.some.injEq] at moved ⊢
      cases held : stream.taskHandle with
      | none =>
          rw [held] at moved
          cases moved
          exact .land rfl (by rw [held]; rfl) rfl rfl
      | some task =>
          rw [held] at moved
          cases moved
          exact .stay rfl (by simp) rfl
  | clearHandle => cases moved; exact .land rfl rfl rfl rfl
  | clearToken => cases moved; exact .stay rfl rfl rfl
  | readGeneration => cases moved; exact .stay rfl rfl rfl
  | writeGeneration read => cases moved; exact .stay rfl rfl rfl
  | checkToken =>
      simp only [StopCall.advance, Option.some.injEq, Prod.mk.injEq] at moved
      obtain ⟨rfl, rfl⟩ := moved
      split_ifs <;> exact .stay rfl rfl rfl
  | returned stopped => cases moved
  | raised => cases moved

theorem owes_simulates (system next : StreamSystem) (party : ℕ ⊕ ℕ) (value : Bool) (after : Option Bool)
    (change : Mirror.Change (ℕ ⊕ ℕ) Bool)
    (underWay : next.underWay = Function.update system.underWay party after)
    (owes : Owes party value system.session.enabled system.stream.taskHandle.isSome next.session.enabled
      next.stream.taskHandle.isSome (system.underWay party) after change) :
    system.mirror.Due change ∧ next.mirror = system.mirror.apply change := by
  simp only [StreamSystem.mirror, underWay]
  cases owes with
  | stay switch stream same =>
      rw [switch, stream, same, Function.update_eq_self]
      exact ⟨trivial, rfl⟩
  | write switch stream owed =>
      rw [switch, stream, owed]
      exact ⟨trivial, rfl⟩
  | land switch stream owed paid =>
      rw [switch, stream, paid]
      exact ⟨owed, rfl⟩
  | drop switch stream paid =>
      rw [switch, stream, paid]
      exact ⟨trivial, rfl⟩

theorem ended_of_unblocked {returns : Prop} {ended : Bool} (unblocked : ¬ (returns ∧ ended = false)) (isReturn : returns) :
    ended = true := by
  cases ended with
  | true => rfl
  | false => exact absurd ⟨isReturn, rfl⟩ unblocked

theorem step_mirrors (setup : TradingSetup) (system next : StreamSystem) (label : StreamLabel)
    (uncalled : Uncalled system) (completed : system.step setup label = some next) :
    system.mirror.Due (system.change label) ∧ next.mirror = system.mirror.apply (system.change label) := by
  cases label with
  | enabling party step =>
      simp only [StreamSystem.step] at completed
      split_ifs at completed with unblocked
      obtain ⟨after, moved, rfl⟩ := Option.map_eq_some_iff.mp completed
      exact owes_simulates system _ (.inl party) true _ _ (under_way_enabling system _ party after)
        (enabling_owes setup system.session party _ _ after step _ moved (uncalled.starts party)
          (ended_of_unblocked unblocked))
  | start party =>
      simp only [StreamSystem.step] at completed
      split_ifs at completed with applied
      obtain ⟨⟨after, changed⟩, moved, rfl⟩ := Option.map_eq_some_iff.mp completed
      have owes := start_owes system.stream party system.session.enabled _ after changed moved
      rw [← applied] at owes
      exact owes_simulates system _ (.inl party) true _ _ (under_way_start system changed party after) owes
  | stopping party step =>
      simp only [StreamSystem.step] at completed
      split_ifs at completed with unblocked
      obtain ⟨after, moved, rfl⟩ := Option.map_eq_some_iff.mp completed
      exact owes_simulates system _ (.inr party) false _ _ (under_way_stopping system _ party after)
        (stopping_owes system.session party _ _ after step _ system moved (uncalled.stops party)
          (ended_of_unblocked unblocked))
  | stop party =>
      simp only [StreamSystem.step] at completed
      split_ifs at completed with disabled
      obtain ⟨⟨after, changed⟩, moved, rfl⟩ := Option.map_eq_some_iff.mp completed
      have owes := stop_owes system.stream party system.session.enabled _ after changed moved
      rw [← disabled] at owes
      exact owes_simulates system _ (.inr party) false _ _ (under_way_stop system changed party after) owes
  | recordOrderSent symbol now =>
      cases completed
      exact ⟨trivial, rfl⟩
  | reconcilePosition symbol hasPosition =>
      cases completed
      exact ⟨trivial, rfl⟩

theorem enabling_proceeds (setup : TradingSetup) (session : TradingSessionState) (before after : Enabling)
    (step : EnablingStep) (moved : Enabling.next setup session before step = some after)
    (started : before = .applied ∨ before = .enabled) : after = .applied ∨ after = .enabled := by
  rcases started with rfl | rfl
  · cases step <;> cases moved
    exact .inr rfl
  · cases step <;> cases moved

theorem stopping_proceeds (before after : Stopping) (step : StoppingStep) (moved : Stopping.next before step = some after)
    (stopped : before = .disabled ∨ before = .stopped) : after = .disabled ∨ after = .stopped := by
  rcases stopped with rfl | rfl
  · cases step <;> cases moved
    exact .inr rfl
  · cases step <;> cases moved

theorem uncalled_initial : Uncalled {} where
  starts := fun _ called => absurd rfl called
  stops := fun _ called => absurd rfl called

theorem uncalled_step (setup : TradingSetup) (system : StreamSystem) (label : StreamLabel) (next : StreamSystem)
    (uncalled : Uncalled system) (completed : system.step setup label = some next) : Uncalled next := by
  cases label with
  | enabling party step =>
      simp only [StreamSystem.step] at completed
      split_ifs at completed
      obtain ⟨after, moved, rfl⟩ := Option.map_eq_some_iff.mp completed
      refine ⟨fun other called => ?_, uncalled.stops⟩
      dsimp only at called ⊢
      by_cases same : other = party
      · subst same
        rw [Function.update_self]
        exact enabling_proceeds setup _ _ after step moved (uncalled.starts other called)
      · rw [Function.update_of_ne same]
        exact uncalled.starts other called
  | start party =>
      simp only [StreamSystem.step] at completed
      split_ifs at completed with applied
      obtain ⟨after, moved, rfl⟩ := Option.map_eq_some_iff.mp completed
      refine ⟨fun other called => ?_, uncalled.stops⟩
      dsimp only at called ⊢
      by_cases same : other = party
      · rw [same]
        exact .inl applied
      · rw [Function.update_of_ne same] at called
        exact uncalled.starts other called
  | stopping party step =>
      simp only [StreamSystem.step] at completed
      split_ifs at completed
      obtain ⟨after, moved, rfl⟩ := Option.map_eq_some_iff.mp completed
      refine ⟨uncalled.starts, fun other called => ?_⟩
      dsimp only at called ⊢
      by_cases same : other = party
      · subst same
        rw [Function.update_self]
        exact stopping_proceeds _ after step moved (uncalled.stops other called)
      · rw [Function.update_of_ne same]
        exact uncalled.stops other called
  | stop party =>
      simp only [StreamSystem.step] at completed
      split_ifs at completed with disabled
      obtain ⟨after, moved, rfl⟩ := Option.map_eq_some_iff.mp completed
      refine ⟨uncalled.starts, fun other called => ?_⟩
      dsimp only at called ⊢
      by_cases same : other = party
      · rw [same]
        exact .inl disabled
      · rw [Function.update_of_ne same] at called
        exact uncalled.stops other called
  | recordOrderSent symbol now =>
      cases completed
      exact ⟨uncalled.starts, uncalled.stops⟩
  | reconcilePosition symbol hasPosition =>
      cases completed
      exact ⟨uncalled.starts, uncalled.stops⟩

def Enabling.ended : Enabling → Bool
  | .idle => true
  | .enabled => true
  | .refused _ => true
  | .raised => true
  | _ => false

def Stopping.ended : Stopping → Bool
  | .idle => true
  | .stopped => true
  | _ => false

structure StreamSystem.Returned (system : StreamSystem) : Prop where
  enablings : ∀ party, (system.enablings party).ended = true
  stops : ∀ party, (system.stops party).ended = true

theorem returned_owes_nothing (system : StreamSystem) (returned : system.Returned) (party : ℕ ⊕ ℕ) :
    system.underWay party = none := by
  cases party with
  | inl party =>
      refine StartCall.owes_applied _ _ fun applied => ?_
      have ended := returned.enablings party
      rw [applied] at ended
      cases ended
  | inr party =>
      refine StopCall.owes_disabled _ _ fun disabled => ?_
      have ended := returned.stops party
      rw [disabled] at ended
      cases ended

-- Once every command has returned, the stream follows the switch exactly when
-- every call that settled since the last change of the switch found it as its
-- own command had left it, or left the stream to a call that did.
theorem stream_follows_switch_iff (setup : TradingSetup) (labels : List StreamLabel) (final : StreamSystem)
    (completed : run (StreamSystem.step setup) {} labels = some final) (returned : final.Returned) :
    (final.stream.taskHandle.isSome = true ↔ final.session.enabled = true) ↔
      MetSince (StreamSystem.step setup) StreamSystem.ChangesSwitch StreamSystem.KeepsStream True {} labels := by
  have settling := run_met_since_iff (StreamSystem.step setup) StreamSystem.ChangesSwitch StreamSystem.KeepsStream
    Uncalled (fun system => system.mirror.Settling) (uncalled_step setup)
    (fun system label next uncalled moved => by
      obtain ⟨due, mirrors⟩ := step_mirrors setup system next label uncalled moved
      rw [mirrors]
      exact Mirror.settling_apply_iff system.mirror _ due)
    labels {} final uncalled_initial completed
  have initially : Mirror.Settling (StreamSystem.mirror {}) = True := eq_true (.inl rfl)
  rw [initially, Mirror.settling_quiet_iff final.mirror (returned_owes_nothing final returned)] at settling
  rw [← settling]
  exact Bool.eq_iff_iff.symm

def StreamLabel.party : StreamLabel → Option ℕ
  | .enabling party _ => some party
  | .start party => some party
  | .stopping party _ => some party
  | .stop party => some party
  | .recordOrderSent _ _ => none
  | .reconcilePosition _ _ => none

theorem untouched_commands (setup : TradingSetup) (party : ℕ) (labels : List StreamLabel) (final : StreamSystem)
    (untouched : ∀ label ∈ labels, label.party ≠ some party)
    (completed : run (StreamSystem.step setup) {} labels = some final) :
    final.enablings party = .idle ∧ final.stops party = .idle := by
  refine run_invariant_on (StreamSystem.step setup) (fun label => label.party ≠ some party)
    (fun system => system.enablings party = .idle ∧ system.stops party = .idle) ?_ labels {} final ⟨rfl, rfl⟩ untouched
    completed
  intro system label next idle other moved
  cases label with
  | enabling mover step =>
      have different : party ≠ mover := fun same => other (congrArg some same.symm)
      simp only [StreamSystem.step] at moved
      split_ifs at moved
      obtain ⟨after, _, rfl⟩ := Option.map_eq_some_iff.mp moved
      simpa [Function.update_of_ne different] using idle
  | start mover =>
      simp only [StreamSystem.step] at moved
      split_ifs at moved
      obtain ⟨after, _, rfl⟩ := Option.map_eq_some_iff.mp moved
      exact idle
  | stopping mover step =>
      have different : party ≠ mover := fun same => other (congrArg some same.symm)
      simp only [StreamSystem.step] at moved
      split_ifs at moved
      obtain ⟨after, _, rfl⟩ := Option.map_eq_some_iff.mp moved
      simpa [Function.update_of_ne different] using idle
  | stop mover =>
      simp only [StreamSystem.step] at moved
      split_ifs at moved
      obtain ⟨after, _, rfl⟩ := Option.map_eq_some_iff.mp moved
      exact idle
  | recordOrderSent symbol now =>
      cases moved
      exact idle
  | reconcilePosition symbol hasPosition =>
      cases moved
      exact idle

def applySchedule (party : ℕ) : List StreamLabel :=
  [.call, .readGeneration, .checkConnection { reachable := true, failed := false }, .readAccount [],
    .apply].map (.enabling party)

def startSchedule (party : ℕ) : List StreamLabel :=
  List.replicate 7 (.start party) ++ [.enabling party .startStream]

def disableSchedule (party : ℕ) : List StreamLabel := [.call, .disable].map (.stopping party)

def stopCallSchedule (party : ℕ) : List StreamLabel := List.replicate 8 (.stop party) ++ [.stopping party .stopStream]

structure StreamSighting where
  ended : Bool
  running : Bool
  enabled : Bool
deriving DecidableEq

def StreamSystem.sighting (system : StreamSystem) : StreamSighting where
  ended := (system.enablings 0).ended && (system.enablings 1).ended && (system.stops 0).ended && (system.stops 1).ended
  running := system.stream.taskHandle.isSome
  enabled := system.session.enabled

theorem returned_of_sighting (setup : TradingSetup) (labels : List StreamLabel) (final : StreamSystem)
    (parties : ∀ label ∈ labels, label.party ∈ [none, some 0, some 1])
    (completed : run (StreamSystem.step setup) {} labels = some final) (ended : final.sighting.ended = true) :
    final.Returned := by
  have all : ∀ party, (final.enablings party).ended = true ∧ (final.stops party).ended = true := by
    intro party
    simp only [StreamSystem.sighting, Bool.and_eq_true] at ended
    obtain ⟨⟨⟨enabling0, enabling1⟩, stop0⟩, stop1⟩ := ended
    by_cases touched : party = 0 ∨ party = 1
    · rcases touched with rfl | rfl
      · exact ⟨enabling0, stop0⟩
      · exact ⟨enabling1, stop1⟩
    · have untouched : ∀ label ∈ labels, label.party ≠ some party := by
        intro label member same
        have named := parties label member
        simp [same, touched] at named
      obtain ⟨enabling, stop⟩ := untouched_commands setup party labels final untouched completed
      rw [enabling, stop]
      exact ⟨rfl, rfl⟩
  exact ⟨fun party => (all party).1, fun party => (all party).2⟩

theorem stream_follows_switch_after_reenable :
    ∃ final, run (StreamSystem.step { limits := .configured }) {}
        (applySchedule 0 ++ startSchedule 0 ++ disableSchedule 0 ++ applySchedule 1 ++ stopCallSchedule 0 ++
          startSchedule 1) = some final ∧
      ((final.stream.taskHandle.isSome = true ↔ final.session.enabled = true) ↔
        MetSince (StreamSystem.step { limits := .configured }) StreamSystem.ChangesSwitch StreamSystem.KeepsStream True {}
          (applySchedule 0 ++ startSchedule 0 ++ disableSchedule 0 ++ applySchedule 1 ++ stopCallSchedule 0 ++
            startSchedule 1)) := by
  have runs : (run (StreamSystem.step { limits := .configured }) {}
      (applySchedule 0 ++ startSchedule 0 ++ disableSchedule 0 ++ applySchedule 1 ++ stopCallSchedule 0 ++
        startSchedule 1)).map StreamSystem.sighting = some ⟨true, true, true⟩ := by decide +kernel
  obtain ⟨final, completed, seen⟩ := Option.map_eq_some_iff.mp runs
  have returned := returned_of_sighting _ _ final (by decide) completed (congrArg StreamSighting.ended seen)
  exact ⟨final, completed, stream_follows_switch_iff _ _ final completed returned⟩

theorem stream_left_running :
    ¬ ∀ (setup : TradingSetup) (labels : List StreamLabel) (final : StreamSystem),
      run (StreamSystem.step setup) {} labels = some final → final.Returned →
        (final.stream.taskHandle.isSome = true ↔ final.session.enabled = true) := by
  intro claimed
  have runs : (run (StreamSystem.step { limits := .configured }) {}
      (applySchedule 0 ++ disableSchedule 0 ++ [.stop 0, .stopping 0 .stopStream] ++ startSchedule 0)).map
        StreamSystem.sighting = some ⟨true, true, false⟩ := by decide +kernel
  obtain ⟨final, completed, seen⟩ := Option.map_eq_some_iff.mp runs
  have returned := returned_of_sighting _ _ final (by decide) completed (congrArg StreamSighting.ended seen)
  have follows := claimed _ _ final completed returned
  have running : final.stream.taskHandle.isSome = true := congrArg StreamSighting.running seen
  have off : final.session.enabled = false := congrArg StreamSighting.enabled seen
  rw [follows.mp running] at off
  cases off

end Sagittarius
