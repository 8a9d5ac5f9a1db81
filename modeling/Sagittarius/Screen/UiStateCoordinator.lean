import Sagittarius.Library.Dicts
import Sagittarius.Screen.ConfigManagerStateStore

set_option autoImplicit false

namespace Sagittarius

open Dicts (Dict)
open Interleaving
open JsonValues (Value)

structure StateContributor where
  stateScope : StateScope
  identity : ℕ

structure UiStateCoordinator (μ : Type) where
  store : ConfigManagerStateStore μ
  dirty : Dict StateScope StateContributor := .empty
  configBindings : Dict String (List (StateScope × List String)) := .empty
  timerActive : Bool := false

namespace UiStateCoordinator

section Coordinator

variable {μ : Type} (config : ConfigManager μ) (disk : ℕ → Bool) (self : UiStateCoordinator μ)

def markDirty (contributor : StateContributor) : UiStateCoordinator μ :=
  { self with dirty := self.dirty.set contributor.stateScope contributor, timerActive := true }

def discard (contributor : StateContributor) : UiStateCoordinator μ :=
  { self with
    dirty := self.dirty.pop contributor.stateScope
    store := self.store.discard config disk contributor.stateScope }

def registerConfigBinding (scope : StateScope) (configKey : String) (stateKeys : List String) : UiStateCoordinator μ :=
  { self with
    configBindings := self.configBindings.set configKey ((self.configBindings.get? configKey).getD [] ++ [(scope, stateKeys)]) }

def discardKeys (scope : StateScope) (keys : KeyIterable) : UiStateCoordinator μ :=
  { self with store := (self.store.discardKeys config disk scope keys).flush config disk }

def bindings (configKey : String) : List (StateScope × List String) := (self.configBindings.get? configKey).getD []

def discardForConfigKey (configKey : String) : UiStateCoordinator μ :=
  (self.bindings configKey).foldl (fun coordinator (scope, keys) => coordinator.discardKeys config disk scope { keys }) self

def captured (captureState : StateContributor → Option StateData) :
    List (StateScope × StateContributor) → List (StateScope × StateData)
  | [] => []
  | (scope, contributor) :: rest =>
      match captureState contributor with
      | none => []
      | some data => (scope, data) :: captured captureState rest

def writeDirtyContributors (captureState : StateContributor → Option StateData) : UiStateCoordinator μ :=
  { self with
    dirty := .empty
    store := (captured captureState self.dirty.members).foldl
      (fun store (scope, data) => store.write config disk scope data) self.store }

-- A raise leaves before the store is flushed.
def flush (captureState : StateContributor → Option StateData) : UiStateCoordinator μ :=
  let written := writeDirtyContributors config disk { self with timerActive := false } captureState
  if self.dirty.members.all fun (_, contributor) => (captureState contributor).isSome then
    { written with store := written.store.flush config disk }
  else written

end Coordinator

end UiStateCoordinator

-- `captureState` is what each contributor would capture at that moment.
inductive UiStateAction
  | registerConfigBinding (scope : StateScope) (configKey : String) (stateKeys : List String)
  | markDirty (contributor : StateContributor)
  | discard (contributor : StateContributor)
  | discardKeys (scope : StateScope) (keys : KeyIterable)
  | discardForConfigKey (configKey : String)
  | timeout (captureState : StateContributor → Option StateData)
  | flush (captureState : StateContributor → Option StateData)

-- The coordinator with the keys discarded since the contributor of their scope
-- was last marked dirty.
structure WatchedUiState (μ : Type) where
  coordinator : UiStateCoordinator μ
  forgotten : List (StateScope × String) := []

namespace WatchedUiState

open UiStateCoordinator

section Actions

variable {μ : Type} (config : ConfigManager μ) (disk : ℕ → Bool)

def start (document : String → Option Value) : WatchedUiState μ :=
  { coordinator := { store := { manager := config.loadJson document } } }

def step (watched : WatchedUiState μ) : UiStateAction → Option (WatchedUiState μ)
  | .registerConfigBinding scope configKey stateKeys =>
      some { watched with coordinator := watched.coordinator.registerConfigBinding scope configKey stateKeys }
  | .markDirty contributor =>
      some {
        coordinator := watched.coordinator.markDirty contributor
        forgotten := watched.forgotten.filter fun (scope, _) => scope ≠ contributor.stateScope }
  | .discard contributor => some { watched with coordinator := watched.coordinator.discard config disk contributor }
  | .discardKeys scope keys =>
      some {
        coordinator := watched.coordinator.discardKeys config disk scope keys
        forgotten := keys.keys.map (fun key => (scope, key)) ++ watched.forgotten }
  | .discardForConfigKey configKey =>
      some {
        coordinator := watched.coordinator.discardForConfigKey config disk configKey
        forgotten := (watched.coordinator.bindings configKey).flatMap (fun (scope, keys) => keys.map fun key => (scope, key)) ++
          watched.forgotten }
  | .timeout captureState =>
      if watched.coordinator.timerActive then
        some { watched with
          coordinator := writeDirtyContributors config disk { watched.coordinator with timerActive := false } captureState }
      else none
  | .flush captureState => some { watched with coordinator := watched.coordinator.flush config disk captureState }

-- An iterator that runs once meets the discarded keys at the first member or
-- not at all, and no pending contributor captures a discarded key.
def Clean (watched : WatchedUiState μ) : UiStateAction → Prop
  | .discardKeys scope keys =>
      keys.oneShot = true → ∀ member ∈ (watched.coordinator.store.read config scope).tail, member.1 ∉ keys.keys
  | .timeout captureState | .flush captureState =>
      ∀ written ∈ captured captureState watched.coordinator.dirty.members, ∀ lost ∈ watched.forgotten,
        lost.1.storageKey = written.1.storageKey → lost.2 ∉ written.2.map Prod.fst
  | _ => True

def Absent (store : ConfigManagerStateStore μ) (lost : StateScope × String) : Prop :=
  lost.2 ∉ (store.slice config lost.1.storageKey).map Prod.fst

theorem flush_absent (store : ConfigManagerStateStore μ) (lost : StateScope × String) (absent : Absent config store lost) :
    Absent config (store.flush config disk) lost := by
  rw [Absent, ConfigManagerStateStore.slice, ConfigManagerStateStore.flush_get]
  exact absent

theorem write_absent (store : ConfigManagerStateStore μ) (scope : StateScope) (data : StateData)
    (lost : StateScope × String) (absent : Absent config store lost)
    (unwritten : lost.1.storageKey = scope.storageKey → lost.2 ∉ data.map Prod.fst) :
    Absent config (store.write config disk scope data) lost := by
  rw [Absent]
  by_cases same : lost.1.storageKey = scope.storageKey
  · rw [same, ConfigManagerStateStore.write_slice]
    exact unwritten same
  · rcases ConfigManagerStateStore.write_slice_other config disk store scope data lost.1.storageKey same with empty | kept
    · rw [empty]
      exact List.not_mem_nil
    · rw [kept]
      exact absent

theorem remaining_absent (keys : KeyIterable) (data : StateData) (name : String) (listed : name ∈ keys.keys)
    (clean : keys.oneShot = true → ∀ member ∈ data.tail, member.1 ∉ keys.keys) :
    name ∉ (ConfigManagerStateStore.remaining keys data).map Prod.fst := by
  rw [List.mem_map]
  rintro ⟨member, kept, rfl⟩
  cases data with
  | nil => cases kept
  | cons first rest =>
      rcases ConfigManagerStateStore.mem_remaining keys first rest member kept with ⟨_, dropped⟩ | ⟨later, once | dropped⟩
      · exact dropped listed
      · exact clean once member later listed
      · exact dropped listed

theorem discard_keys_absent (coordinator : UiStateCoordinator μ) (scope : StateScope) (keys : KeyIterable)
    (clean : keys.oneShot = true → ∀ member ∈ (coordinator.store.read config scope).tail, member.1 ∉ keys.keys)
    (lost : StateScope × String)
    (absent : lost ∈ keys.keys.map (fun key => (scope, key)) ∨ Absent config coordinator.store lost) :
    Absent config (coordinator.discardKeys config disk scope keys).store lost := by
  rw [UiStateCoordinator.discardKeys, ConfigManagerStateStore.discardKeys]
  refine flush_absent config disk _ lost ?_
  by_cases same : lost.1.storageKey = scope.storageKey
  · rw [Absent, same, ConfigManagerStateStore.write_slice]
    rcases absent with discarded | before
    · obtain ⟨key, listed, rfl⟩ := List.mem_map.mp discarded
      exact remaining_absent keys _ key listed clean
    · rw [Absent, same] at before
      have inside := List.Subset.trans (ConfigManagerStateStore.remaining_subset keys (coordinator.store.read config scope))
        (ConfigManagerStateStore.read_subset config coordinator.store scope)
      exact fun held => before (List.map_subset Prod.fst inside held)
  · rcases absent with discarded | before
    · obtain ⟨key, _, rfl⟩ := List.mem_map.mp discarded
      exact absurd rfl same
    · exact write_absent config disk _ scope _ lost before fun other => absurd other same

theorem discard_bindings_absent (bound : List (StateScope × List String)) (coordinator : UiStateCoordinator μ)
    (lost : StateScope × String)
    (absent : lost ∈ bound.flatMap (fun (scope, keys) => keys.map fun key => (scope, key)) ∨ Absent config coordinator.store lost) :
    Absent config (bound.foldl (fun coordinator (scope, keys) => coordinator.discardKeys config disk scope { keys })
      coordinator).store lost := by
  induction bound generalizing coordinator with
  | nil =>
      rcases absent with none | before
      · cases none
      · exact before
  | cons binding rest ih =>
      obtain ⟨scope, keys⟩ := binding
      rw [List.foldl_cons]
      rw [List.flatMap_cons, List.mem_append, or_assoc] at absent
      rcases absent with first | later | before
      · exact ih _ (.inr (discard_keys_absent config disk coordinator scope { keys } nofun lost (.inl first)))
      · exact ih _ (.inl later)
      · exact ih _ (.inr (discard_keys_absent config disk coordinator scope { keys } nofun lost (.inr before)))

theorem writes_absent (written : List (StateScope × StateData)) (store : ConfigManagerStateStore μ)
    (lost : StateScope × String) (absent : Absent config store lost)
    (clean : ∀ entry ∈ written, lost.1.storageKey = entry.1.storageKey → lost.2 ∉ entry.2.map Prod.fst) :
    Absent config (written.foldl (fun store (scope, data) => store.write config disk scope data) store) lost := by
  induction written generalizing store with
  | nil => exact absent
  | cons entry rest ih =>
      refine ih _ ?_ fun other later => clean other (by simp [later])
      exact write_absent config disk store entry.1 entry.2 lost absent (clean entry (by simp))

def Forgotten (watched : WatchedUiState μ) : Prop := ∀ lost ∈ watched.forgotten, Absent config watched.coordinator.store lost

theorem step_forgotten (watched : WatchedUiState μ) (action : UiStateAction) (next : WatchedUiState μ)
    (holds : Forgotten config watched) (clean : Clean config watched action)
    (moved : step config disk watched action = some next) : Forgotten config next := by
  cases action with
  | registerConfigBinding scope configKey stateKeys =>
      cases moved
      exact holds
  | markDirty contributor =>
      cases moved
      exact fun lost kept => holds lost (List.mem_of_mem_filter kept)
  | discard contributor =>
      cases moved
      exact fun lost kept => write_absent config disk _ contributor.stateScope [] lost (holds lost kept) fun _ => List.not_mem_nil
  | discardKeys scope keys =>
      cases moved
      intro lost listed
      refine discard_keys_absent config disk watched.coordinator scope keys clean lost ?_
      exact (List.mem_append.mp listed).imp_right (holds lost)
  | discardForConfigKey configKey =>
      cases moved
      intro lost listed
      refine discard_bindings_absent config disk (watched.coordinator.bindings configKey) watched.coordinator lost ?_
      exact (List.mem_append.mp listed).imp_right (holds lost)
  | timeout captureState =>
      rw [step] at moved
      by_cases active : watched.coordinator.timerActive = true
      · rw [if_pos active] at moved
        cases moved
        exact fun lost kept => writes_absent config disk _ _ lost (holds lost kept) fun entry written =>
          clean entry written lost kept
      · rw [if_neg active] at moved
        cases moved
  | flush captureState =>
      cases moved
      intro lost kept
      have written := writes_absent config disk _ _ lost (holds lost kept) fun entry written => clean entry written lost kept
      rw [UiStateCoordinator.flush]
      split
      · exact flush_absent config disk _ lost written
      · exact written

theorem discarded_stays_discarded (document : String → Option Value) (actions : List UiStateAction) (final : WatchedUiState μ)
    (clean : StepsMeet (step config disk) (Clean config) (start config document) actions)
    (completed : run (step config disk) (start config document) actions = some final) :
    ∀ lost ∈ final.forgotten, lost.2 ∉ (final.coordinator.store.slice config lost.1.storageKey).map Prod.fst :=
  run_invariant_meeting (step config disk) (Clean config) (Forgotten config) (step_forgotten config disk) actions
    (start config document) final (fun lost none => by cases none) clean completed

end Actions

def dashboardScope : StateScope := { key := "dashboard" }

def dashboardContributor : StateContributor := { stateScope := dashboardScope, identity := 0 }

def capturesSymbol (_ : StateContributor) : Option StateData := some [("symbol", .string "BTCUSDT")]

def storedThenDiscarded : List UiStateAction :=
  [.markDirty dashboardContributor, .timeout capturesSymbol, .discardKeys dashboardScope { keys := ["symbol"] }]

def afterActions (actions : List UiStateAction) : WatchedUiState (String → Option Value) :=
  (run (step valueMap fun _ => true) (start valueMap fun _ => none) actions).getD
    (start valueMap fun _ => none)

theorem stored_then_discarded_clean :
    StepsMeet (step valueMap fun _ => true) (Clean valueMap) (start valueMap fun _ => none)
      storedThenDiscarded := by
  refine ⟨trivial, fun marked moved => ?_⟩
  cases moved
  refine ⟨fun _ _ lost none => (by cases none), fun written moved => ?_⟩
  exact ⟨nofun, fun _ _ => trivial⟩

theorem symbol_stays_discarded :
    "symbol" ∉ ((afterActions storedThenDiscarded).coordinator.store.slice valueMap
      dashboardScope.storageKey).map Prod.fst :=
  discarded_stays_discarded valueMap (fun _ => true) (fun _ => none) storedThenDiscarded
    (afterActions storedThenDiscarded) stored_then_discarded_clean rfl (dashboardScope, "symbol")
    (List.mem_singleton.mpr rfl)

def discardedWhilePending : List UiStateAction :=
  [.markDirty dashboardContributor, .discardKeys dashboardScope { keys := ["symbol"] }, .timeout capturesSymbol]

-- The write that was pending brings the discarded key back.
theorem pending_write_resurrects :
    ¬ ∀ (μ : Type) (config : ConfigManager μ) (disk : ℕ → Bool) (document : String → Option Value)
      (actions : List UiStateAction) (final : WatchedUiState μ),
      run (step config disk) (start config document) actions = some final →
        ∀ lost ∈ final.forgotten, lost.2 ∉ (final.coordinator.store.slice config lost.1.storageKey).map Prod.fst := by
  intro claimed
  have absent := claimed (String → Option Value) valueMap (fun _ => true) (fun _ => none) discardedWhilePending
    (afterActions discardedWhilePending) rfl (dashboardScope, "symbol") (List.mem_singleton.mpr rfl)
  exact absent (List.mem_singleton.mpr rfl)

end WatchedUiState

end Sagittarius
