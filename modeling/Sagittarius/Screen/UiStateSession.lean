import Mathlib.Data.Set.Function
import Sagittarius.Screen.UiStateCoordinator

set_option autoImplicit false

namespace Sagittarius

open Dicts (Dict)
open Interleaving
open JsonValues (Value)

-- The coordinator with what each contributor would capture now, and the scopes
-- that were edited and not discarded since.
structure UiSession (μ : Type) where
  coordinator : UiStateCoordinator μ
  live : StateScope → StateData
  edited : List StateScope := []

-- A contributor marks itself dirty whenever it changes.
inductive UiSessionAction
  | edit (contributor : StateContributor) (data : StateData)
  | registerConfigBinding (scope : StateScope) (configKey : String) (stateKeys : List String)
  | discard (contributor : StateContributor)
  | discardKeys (scope : StateScope) (keys : KeyIterable)
  | discardForConfigKey (configKey : String)
  | timeout
  | flush

def UiSessionAction.scopes : UiSessionAction → List StateScope
  | .edit contributor _ => [contributor.stateScope]
  | .registerConfigBinding scope _ _ => [scope]
  | .discard contributor => [contributor.stateScope]
  | .discardKeys scope _ => [scope]
  | .discardForConfigKey _ => []
  | .timeout => []
  | .flush => []

-- No two of the scopes share a slice, and none has the key of the stamp.
structure SeparateScopes (scopes : Set StateScope) : Prop where
  slices : Set.InjOn StateScope.storageKey scopes
  stamp : ∀ scope ∈ scopes, scope.storageKey ≠ schemaVersionKey

namespace UiSession

open UiStateCoordinator

section Session

variable {μ : Type} (config : ConfigManager μ) (disk : ℕ → Bool)

-- What the file of a `ConfigManager` holds. `set` leaves it alone, and `save`
-- merges what was set since the last one onto it.
structure StateFile (config : ConfigManager μ) where
  contents : μ → String → Option Value
  contents_loaded : ∀ document asked, contents (config.loadJson document) asked = document asked
  contents_set : ∀ manager key value asked, contents (config.set manager key value) asked = contents manager asked
  contents_saved : ∀ manager asked, contents (config.save manager) asked = config.get manager asked

def start (document : String → Option Value) (live : StateScope → StateData) : UiSession μ where
  coordinator := { store := { manager := config.loadJson document } }
  live := live

def captureState (session : UiSession μ) (contributor : StateContributor) : Option StateData :=
  some (session.live contributor.stateScope)

def step (session : UiSession μ) : UiSessionAction → Option (UiSession μ)
  | .edit contributor data =>
      some {
        coordinator := session.coordinator.markDirty contributor
        live := Function.update session.live contributor.stateScope data
        edited := contributor.stateScope :: session.edited }
  | .registerConfigBinding scope configKey stateKeys =>
      some { session with coordinator := session.coordinator.registerConfigBinding scope configKey stateKeys }
  | .discard contributor =>
      some { session with
        coordinator := session.coordinator.discard config disk contributor
        edited := session.edited.filter fun scope => scope ≠ contributor.stateScope }
  | .discardKeys scope keys =>
      some { session with
        coordinator := session.coordinator.discardKeys config disk scope keys
        edited := session.edited.filter fun other => other ≠ scope }
  | .discardForConfigKey configKey =>
      some { session with
        coordinator := session.coordinator.discardForConfigKey config disk configKey
        edited := session.edited.filter fun scope => scope ∉ (session.coordinator.bindings configKey).map Prod.fst }
  | .timeout =>
      if session.coordinator.timerActive then
        some { session with
          coordinator :=
            writeDirtyContributors config disk { session.coordinator with timerActive := false } session.captureState }
      else none
  | .flush => some { session with coordinator := session.coordinator.flush config disk session.captureState }

-- The slice of a scope, in a document of this version.
def Stored (store : ConfigManagerStateStore μ) (scope : StateScope) (data : StateData) : Prop :=
  config.get store.manager schemaVersionKey = some (.number (.int schemaVersion)) ∧
    config.get store.manager scope.storageKey = some (.object data)

theorem stored_reads (store : ConfigManagerStateStore μ) (scope : StateScope) (data : StateData)
    (stored : Stored config store scope data) : store.read config scope = data := by
  have readable : store.schemaIsReadable config = true := by
    rw [ConfigManagerStateStore.schemaIsReadable, stored.1]
    rfl
  rw [ConfigManagerStateStore.read, if_pos readable, ConfigManagerStateStore.slice, stored.2]

theorem stored_write (store : ConfigManagerStateStore μ) (scope : StateScope) (data : StateData)
    (stamp : scope.storageKey ≠ schemaVersionKey) : Stored config (store.write config disk scope data) scope data := by
  rw [Stored, ConfigManagerStateStore.write_get, ConfigManagerStateStore.write_get, if_neg (Ne.symm stamp), if_pos rfl,
    if_pos rfl]
  exact ⟨rfl, rfl⟩

theorem stored_flush (store : ConfigManagerStateStore μ) (scope : StateScope) (data : StateData)
    (stored : Stored config store scope data) : Stored config (store.flush config disk) scope data := by
  rw [Stored, ConfigManagerStateStore.flush_get, ConfigManagerStateStore.flush_get]
  exact stored

section Scopes

variable (scopes : Set StateScope) (separate : SeparateScopes scopes)

include separate in
theorem stored_write_other (store : ConfigManagerStateStore μ) (scope written : StateScope) (data other : StateData)
    (inside : scope ∈ scopes) (writtenInside : written ∈ scopes) (different : scope ≠ written)
    (stored : Stored config store scope data) : Stored config (store.write config disk written other) scope data := by
  have slices : scope.storageKey ≠ written.storageKey := fun same => different (separate.slices inside writtenInside same)
  rw [Stored, ConfigManagerStateStore.write_get, ConfigManagerStateStore.write_get,
    if_neg (Ne.symm (separate.stamp written writtenInside)), if_pos rfl, if_neg slices,
    if_neg (separate.stamp scope inside)]
  exact ⟨rfl, stored.2⟩

def writeAll (written : List (StateScope × StateData)) (store : ConfigManagerStateStore μ) : ConfigManagerStateStore μ :=
  written.foldl (fun store (scope, data) => store.write config disk scope data) store

include separate in
theorem writes_keep (written : List (StateScope × StateData)) (store : ConfigManagerStateStore μ) (scope : StateScope)
    (data : StateData) (inside : scope ∈ scopes) (writtenInside : ∀ entry ∈ written, entry.1 ∈ scopes)
    (unwritten : scope ∉ written.map Prod.fst) (stored : Stored config store scope data) :
    Stored config (writeAll config disk written store) scope data := by
  induction written generalizing store with
  | nil => exact stored
  | cons entry rest ih =>
      rw [List.map_cons, List.mem_cons, not_or] at unwritten
      refine ih _ (fun later listed => writtenInside later (List.mem_cons_of_mem _ listed)) unwritten.2 ?_
      exact stored_write_other config disk scopes separate store scope entry.1 data entry.2 inside
        (writtenInside entry List.mem_cons_self) unwritten.1 stored

include separate in
theorem writes_store (written : List (StateScope × StateData)) (store : ConfigManagerStateStore μ)
    (writtenInside : ∀ entry ∈ written, entry.1 ∈ scopes) (distinct : (written.map Prod.fst).Nodup)
    (entry : StateScope × StateData) (listed : entry ∈ written) :
    Stored config (writeAll config disk written store) entry.1 entry.2 := by
  induction written generalizing store with
  | nil => cases listed
  | cons first rest ih =>
      obtain ⟨fresh, distinctRest⟩ := List.nodup_cons.mp distinct
      have restInside : ∀ later ∈ rest, later.1 ∈ scopes := fun later isLater =>
        writtenInside later (List.mem_cons_of_mem _ isLater)
      cases List.mem_cons.mp listed with
      | inl same =>
          subst same
          have inside := writtenInside entry List.mem_cons_self
          exact writes_keep config disk scopes separate rest _ entry.1 entry.2 inside restInside fresh
            (stored_write config disk store entry.1 entry.2 (separate.stamp entry.1 inside))
      | inr later => exact ih _ restInside distinctRest later

-- Nothing that was edited and not discarded is lost: it waits for a timer that
-- runs, or it is stored.
structure NothingLost (session : UiSession μ) : Prop where
  own : ∀ member ∈ session.coordinator.dirty.members, member.2.stateScope = member.1
  pending : ∀ member ∈ session.coordinator.dirty.members, member.1 ∈ scopes
  bound : ∀ configKey, ∀ binding ∈ session.coordinator.bindings configKey, binding.1 ∈ scopes
  inside : ∀ scope ∈ session.edited, scope ∈ scopes
  active : session.coordinator.dirty.members ≠ [] → session.coordinator.timerActive = true
  kept : ∀ scope ∈ session.edited, scope ∈ session.coordinator.dirty.members.map Prod.fst ∨
    Stored config session.coordinator.store scope (session.live scope)

theorem captured_all (session : UiSession μ) (members : List (StateScope × StateContributor)) :
    captured session.captureState members = members.map fun member => (member.1, session.live member.2.stateScope) := by
  induction members with
  | nil => rfl
  | cons member rest ih =>
      rw [captured, captureState, List.map_cons, ← ih]

include separate in
theorem write_dirty_stores (session : UiSession μ) (holds : NothingLost config scopes session) (scope : StateScope)
    (isEdited : scope ∈ session.edited) :
    Stored config (writeAll config disk (captured session.captureState session.coordinator.dirty.members)
      session.coordinator.store) scope (session.live scope) := by
  have names : (captured session.captureState session.coordinator.dirty.members).map Prod.fst =
      session.coordinator.dirty.members.map Prod.fst := by
    rw [captured_all, List.map_map]
    rfl
  have inside : ∀ entry ∈ captured session.captureState session.coordinator.dirty.members, entry.1 ∈ scopes := by
    intro entry listed
    rw [captured_all] at listed
    obtain ⟨member, isMember, rfl⟩ := List.mem_map.mp listed
    exact holds.pending member isMember
  by_cases waits : scope ∈ session.coordinator.dirty.members.map Prod.fst
  · obtain ⟨member, isMember, rfl⟩ := List.mem_map.mp waits
    have listed : (member.1, session.live member.1) ∈ captured session.captureState session.coordinator.dirty.members := by
      rw [captured_all]
      exact List.mem_map.mpr ⟨member, isMember, by rw [holds.own member isMember]⟩
    exact writes_store config disk scopes separate _ _ inside (by rw [names]; exact session.coordinator.dirty.keys) _ listed
  · exact writes_keep config disk scopes separate _ _ scope _ (holds.inside scope isEdited) inside (by rw [names]; exact waits)
      ((holds.kept scope isEdited).resolve_left waits)

theorem dirty_set_mem (dirty : Dict StateScope StateContributor) (contributor : StateContributor)
    (member : StateScope × StateContributor) (listed : member ∈ (dirty.set contributor.stateScope contributor).members) :
    member = (contributor.stateScope, contributor) ∨ member ∈ dirty.members :=
  ((KeyedRows.upsert_mem_iff Prod.fst dirty.members _ member).mp listed).imp_right And.left

theorem edit_keeps (session : UiSession μ) (contributor : StateContributor) (data : StateData)
    (holds : NothingLost config scopes session) (inside : contributor.stateScope ∈ scopes) :
    NothingLost config scopes {
      coordinator := session.coordinator.markDirty contributor
      live := Function.update session.live contributor.stateScope data
      edited := contributor.stateScope :: session.edited } where
  own := by
    intro member listed
    cases dirty_set_mem session.coordinator.dirty contributor member listed with
    | inl new => rw [new]
    | inr old => exact holds.own member old
  pending := by
    intro member listed
    cases dirty_set_mem session.coordinator.dirty contributor member listed with
    | inl new =>
        rw [new]
        exact inside
    | inr old => exact holds.pending member old
  bound := holds.bound
  inside := List.forall_mem_cons.mpr ⟨inside, holds.inside⟩
  active := fun _ => rfl
  kept := by
    intro scope listed
    have waits : scope ∈ (session.coordinator.markDirty contributor).dirty.members.map Prod.fst ↔
        scope = contributor.stateScope ∨ scope ∈ session.coordinator.dirty.members.map Prod.fst :=
      KeyedRows.upsert_keys_iff Prod.fst session.coordinator.dirty.members (contributor.stateScope, contributor) scope
    by_cases same : scope = contributor.stateScope
    · exact .inl (waits.mpr (.inl same))
    · have old := (List.mem_cons.mp listed).resolve_left same
      refine (holds.kept scope old).imp (fun dirty => waits.mpr (.inr dirty)) fun stored => ?_
      change Stored config session.coordinator.store scope (Function.update session.live contributor.stateScope data scope)
      rw [Function.update_of_ne same]
      exact stored

theorem register_keeps (session : UiSession μ) (scope : StateScope) (configKey : String) (stateKeys : List String)
    (holds : NothingLost config scopes session) (inside : scope ∈ scopes) :
    NothingLost config scopes
      { session with coordinator := session.coordinator.registerConfigBinding scope configKey stateKeys } where
  own := holds.own
  pending := holds.pending
  bound := by
    intro asked binding listed
    change binding ∈ ((session.coordinator.configBindings.set configKey _).get? asked).getD [] at listed
    rw [Dicts.Dict.get_set] at listed
    by_cases same : asked = configKey
    · rw [if_pos same, Option.getD_some, List.mem_append] at listed
      cases listed with
      | inl old => exact holds.bound configKey binding old
      | inr new =>
          rw [List.mem_singleton.mp new]
          exact inside
    · rw [if_neg same] at listed
      exact holds.bound asked binding listed
  inside := holds.inside
  active := holds.active
  kept := holds.kept

include separate in
theorem discard_keeps (session : UiSession μ) (contributor : StateContributor) (holds : NothingLost config scopes session)
    (inside : contributor.stateScope ∈ scopes) :
    NothingLost config scopes { session with
      coordinator := session.coordinator.discard config disk contributor
      edited := session.edited.filter fun scope => scope ≠ contributor.stateScope } where
  own := fun member listed => holds.own member (List.mem_of_mem_filter listed)
  pending := fun member listed => holds.pending member (List.mem_of_mem_filter listed)
  bound := holds.bound
  inside := fun scope listed => holds.inside scope (List.mem_of_mem_filter listed)
  active := by
    intro waits
    refine holds.active fun none => waits ?_
    change session.coordinator.dirty.members.filter _ = []
    rw [none]
    rfl
  kept := by
    intro scope listed
    obtain ⟨old, different⟩ := List.mem_filter.mp listed
    have other := of_decide_eq_true different
    refine (holds.kept scope old).imp (fun dirty => ?_) fun stored => ?_
    · exact (KeyedRows.remove_keys_iff Prod.fst session.coordinator.dirty.members contributor.stateScope scope).mpr
        ⟨dirty, other⟩
    · exact stored_write_other config disk scopes separate _ scope contributor.stateScope _ [] (holds.inside scope old) inside
        other stored

include separate in
theorem discard_bindings_keep (bound : List (StateScope × List String)) (coordinator : UiStateCoordinator μ)
    (boundInside : ∀ binding ∈ bound, binding.1 ∈ scopes) :
    let discarded := bound.foldl (fun coordinator (scope, keys) => coordinator.discardKeys config disk scope { keys }) coordinator
    discarded.dirty = coordinator.dirty ∧ discarded.configBindings = coordinator.configBindings ∧
      discarded.timerActive = coordinator.timerActive ∧
      ∀ scope ∈ scopes, ∀ data, scope ∉ bound.map Prod.fst → Stored config coordinator.store scope data →
        Stored config discarded.store scope data := by
  induction bound generalizing coordinator with
  | nil => exact ⟨rfl, rfl, rfl, fun _ _ _ _ stored => stored⟩
  | cons binding rest ih =>
      obtain ⟨scope, keys⟩ := binding
      obtain ⟨dirty, bindings, timer, kept⟩ := ih (coordinator.discardKeys config disk scope { keys })
        fun later listed => boundInside later (List.mem_cons_of_mem _ listed)
      refine ⟨dirty, bindings, timer, fun other inside data unbound stored => ?_⟩
      rw [List.map_cons, List.mem_cons, not_or] at unbound
      refine kept other inside data unbound.2 (stored_flush config disk _ other data ?_)
      exact stored_write_other config disk scopes separate _ other scope data _ inside
        (boundInside (scope, keys) List.mem_cons_self) unbound.1 stored

theorem flush_writes (session : UiSession μ) :
    session.coordinator.flush config disk session.captureState =
      { session.coordinator with
        dirty := .empty
        timerActive := false
        store := (writeAll config disk (captured session.captureState session.coordinator.dirty.members)
          session.coordinator.store).flush config disk } := by
  have all : (session.coordinator.dirty.members.all fun entry => (session.captureState entry.2).isSome) = true :=
    List.all_eq_true.mpr fun _ _ => rfl
  exact if_pos all

include separate in
theorem step_keeps (session next : UiSession μ) (action : UiSessionAction) (holds : NothingLost config scopes session)
    (inside : ∀ scope ∈ action.scopes, scope ∈ scopes) (moved : step config disk session action = some next) :
    NothingLost config scopes next := by
  have written := write_dirty_stores config disk scopes separate session holds
  cases action with
  | edit contributor data =>
      cases moved
      exact edit_keeps config scopes session contributor data holds (inside _ List.mem_cons_self)
  | registerConfigBinding scope configKey stateKeys =>
      cases moved
      exact register_keeps config scopes session scope configKey stateKeys holds (inside _ List.mem_cons_self)
  | discard contributor =>
      cases moved
      exact discard_keeps config disk scopes separate session contributor holds (inside _ List.mem_cons_self)
  | discardKeys scope keys =>
      cases moved
      refine { holds with inside := fun other listed => holds.inside other (List.mem_of_mem_filter listed), kept := ?_ }
      intro other listed
      obtain ⟨old, different⟩ := List.mem_filter.mp listed
      refine (holds.kept other old).imp_right fun stored => stored_flush config disk _ other _ ?_
      exact stored_write_other config disk scopes separate _ other scope _ _ (holds.inside other old)
        (inside _ List.mem_cons_self) (of_decide_eq_true different) stored
  | discardForConfigKey configKey =>
      cases moved
      obtain ⟨dirty, bindings, timer, kept⟩ := discard_bindings_keep config disk scopes separate
        (session.coordinator.bindings configKey) session.coordinator (holds.bound configKey)
      change (session.coordinator.discardForConfigKey config disk configKey).dirty = _ at dirty
      change (session.coordinator.discardForConfigKey config disk configKey).configBindings = _ at bindings
      change (session.coordinator.discardForConfigKey config disk configKey).timerActive = _ at timer
      refine {
        own := by rw [dirty]; exact holds.own
        pending := by rw [dirty]; exact holds.pending
        bound := by
          intro asked
          rw [UiStateCoordinator.bindings, bindings]
          exact holds.bound asked
        inside := fun scope listed => holds.inside scope (List.mem_of_mem_filter listed)
        active := by rw [dirty, timer]; exact holds.active
        kept := ?_ }
      intro scope listed
      obtain ⟨old, unbound⟩ := List.mem_filter.mp listed
      rw [dirty]
      exact (holds.kept scope old).imp_right
        (kept scope (holds.inside scope old) (session.live scope) (of_decide_eq_true unbound))
  | timeout =>
      rw [step] at moved
      by_cases active : session.coordinator.timerActive = true
      · rw [if_pos active] at moved
        cases moved
        exact { own := nofun, pending := nofun, bound := holds.bound, inside := holds.inside
                active := fun none => absurd rfl none, kept := fun scope listed => .inr (written scope listed) }
      · rw [if_neg active] at moved
        cases moved
  | flush =>
      cases moved
      rw [flush_writes]
      exact { own := nofun, pending := nofun, bound := holds.bound, inside := holds.inside
              active := fun none => absurd rfl none
              kept := fun scope listed => .inr (stored_flush config disk _ scope _ (written scope listed)) }

theorem start_keeps (document : String → Option Value) (live : StateScope → StateData) :
    NothingLost config scopes (start config document live) where
  own := nofun
  pending := nofun
  bound := nofun
  inside := nofun
  active := fun none => absurd rfl none
  kept := nofun

include separate in
theorem run_keeps (actions : List UiSessionAction) (session final : UiSession μ) (holds : NothingLost config scopes session)
    (inside : ∀ action ∈ actions, ∀ scope ∈ action.scopes, scope ∈ scopes)
    (completed : run (step config disk) session actions = some final) : NothingLost config scopes final :=
  run_invariant_on (step config disk) (fun action => ∀ scope ∈ action.scopes, scope ∈ scopes) (NothingLost config scopes)
    (fun session action next holds inside moved => step_keeps config disk scopes separate session next action holds inside moved)
    actions session final holds inside completed

end Scopes

variable (file : StateFile config)

def restarted (store : ConfigManagerStateStore μ) : ConfigManagerStateStore μ :=
  { manager := config.loadJson (file.contents store.manager) }

theorem restarted_stored (store : ConfigManagerStateStore μ) (scope : StateScope) (data : StateData)
    (saved : disk store.saves = true) (stored : Stored config store scope data) :
    Stored config (restarted config file (store.flush config disk)) scope data := by
  have contents : ∀ asked, config.get (restarted config file (store.flush config disk)).manager asked =
      config.get store.manager asked := by
    intro asked
    rw [restarted, config.get_loaded, ConfigManagerStateStore.flush, if_pos saved, file.contents_saved]
  rw [Stored, contents, contents]
  exact stored

-- Whatever is edited is never lost. It is remembered already, or a timer runs
-- that will write it, and a flush leaves all of it to the next session, unless a
-- save failed.
theorem no_edit_is_lost (document : String → Option Value) (live : StateScope → StateData) (scopes : Set StateScope)
    (separate : SeparateScopes scopes) (actions : List UiSessionAction) (final : UiSession μ)
    (inside : ∀ action ∈ actions, ∀ scope ∈ action.scopes, scope ∈ scopes)
    (completed : run (step config disk) (start config document live) actions = some final) :
    let closed := final.coordinator.flush config disk final.captureState
    ∀ scope ∈ final.edited,
      (final.coordinator.store.read config scope = final.live scope ∨
        final.coordinator.timerActive = true ∧ (final.coordinator.dirty.get? scope).isSome) ∧
      ((∀ save < closed.store.saves, disk save = true) →
        (restarted config file closed.store).read config scope = final.live scope) := by
  have holds := run_keeps config disk scopes separate actions _ final (start_keeps config scopes document live) inside completed
  intro closed scope isEdited
  constructor
  · cases holds.kept scope isEdited with
    | inl waits =>
        refine .inr ⟨holds.active fun none => ?_, ?_⟩
        · rw [none] at waits
          cases waits
        · rw [← Option.not_isNone, Bool.not_eq_true', ← Bool.not_eq_true, Option.isNone_iff_eq_none,
            Dicts.Dict.get_eq_none_iff]
          exact fun absent => absent waits
    | inr stored => exact .inl (stored_reads config _ scope _ stored)
  · have written := write_dirty_stores config disk scopes separate final holds scope isEdited
    intro succeeded
    rw [show closed = _ from flush_writes config disk final] at succeeded ⊢
    refine stored_reads config _ scope _ (restarted_stored config disk file _ scope _ (succeeded _ ?_) written)
    rw [ConfigManagerStateStore.flush_saves]
    exact Nat.lt_succ_self _

end Session

def boardScope : StateScope := { key := "dashboard" }

def boardContributor : StateContributor := { stateScope := boardScope, identity := 0 }

def editedTwice : List UiSessionAction :=
  [.edit boardContributor [("symbol", .string "BTCUSDT")], .timeout,
    .edit boardContributor [("symbol", .string "ETHUSDT")]]

theorem board_separate : SeparateScopes {boardScope} where
  slices := Set.injOn_singleton _ _
  stamp := by
    rintro scope rfl
    decide

abbrev SavedMap : Type := (String → Option Value) × (String → Option Value)

theorem saved_map_get_set (manager : SavedMap) (key : String) (value : Value) (asked : String) :
    Function.update manager.1 key (some value) asked = if asked = key then some value else manager.1 asked :=
  map_get_set manager.1 key value asked

def savedMap : ConfigManager SavedMap where
  loadJson document := (document, document)
  get manager asked := manager.1 asked
  set manager key value := (Function.update manager.1 key (some value), manager.2)
  save manager := (manager.1, manager.1)
  get_loaded _ _ := rfl
  get_set := saved_map_get_set
  get_saved _ _ := rfl

def savedMapFile : StateFile savedMap where
  contents manager asked := manager.2 asked
  contents_loaded _ _ := rfl
  contents_set _ _ _ _ := rfl
  contents_saved _ _ := rfl

theorem second_edit_is_kept :
    ∃ final, run (step savedMap fun _ => true) (start savedMap (fun _ => none) fun _ => []) editedTwice = some final ∧
      (restarted savedMap savedMapFile (final.coordinator.flush savedMap (fun _ => true) final.captureState).store).read
        savedMap boardScope = [("symbol", .string "ETHUSDT")] := by
  refine ⟨_, rfl, ?_⟩
  refine ((no_edit_is_lost savedMap (fun _ => true) savedMapFile (fun _ => none) (fun _ => []) {boardScope} board_separate
    editedTwice _ ?_ rfl boardScope List.mem_cons_self).2 fun _ _ => rfl).trans ?_
  · simp [editedTwice, UiSessionAction.scopes, boardContributor]
  · exact Function.update_self (β := fun _ => StateData) boardScope [("symbol", .string "ETHUSDT")]
      (Function.update (fun _ => []) boardScope [("symbol", .string "BTCUSDT")])

example :
    (run (step savedMap fun _ => false) (start savedMap (fun _ => none) fun _ => []) editedTwice).map (fun final =>
      ((restarted savedMap savedMapFile (final.coordinator.flush savedMap (fun _ => false) final.captureState).store).read
        savedMap boardScope).length) = some 0 := by decide

end UiSession

end Sagittarius
