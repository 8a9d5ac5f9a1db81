import Sagittarius.Library.JsonValues
import Sagittarius.Library.Machine

set_option autoImplicit false

namespace Sagittarius

open Interleaving
open JsonValues (Number Value)

inductive Lifetime
  | persistent
  | session
deriving DecidableEq

structure StateScope where
  key : String
  instanceId : Option String := none
  lifetime : Lifetime := .persistent
deriving DecidableEq

def StateScope.storageKey (scope : StateScope) : String :=
  match scope.instanceId with
  | none => scope.key
  | some instanceId => s!"{scope.key}#{instanceId}"

abbrev StateData := List (String × Value)

-- The engine's `ConfigManager` as the store uses it, with one writable JSON
-- file. `get(key, None)` answers `none` for a key that is not there.
structure ConfigManager (μ : Type) where
  loadJson : (String → Option Value) → μ
  get : μ → String → Option Value
  set : μ → String → Value → μ
  save : μ → μ
  get_loaded : ∀ document asked, get (loadJson document) asked = document asked
  get_set : ∀ manager key value asked, get (set manager key value) asked = if asked = key then some value else get manager asked
  get_saved : ∀ manager asked, get (save manager) asked = get manager asked

theorem map_get_set (manager : String → Option Value) (key : String) (value : Value) (asked : String) :
    Function.update manager key (some value) asked = if asked = key then some value else manager asked :=
  Function.update_apply ..

def valueMap : ConfigManager (String → Option Value) where
  loadJson document := document
  get manager asked := manager asked
  set manager key value := Function.update manager key (some value)
  save manager := manager
  get_loaded _ _ := rfl
  get_set := map_get_set
  get_saved _ _ := rfl

def schemaVersion : ℤ := 1

def schemaVersionKey : String := "schema_version"

-- An argument typed `Iterable[str]`, which may be an iterator that can be run
-- through only once.
structure KeyIterable where
  keys : List String
  oneShot : Bool := false

structure ConfigManagerStateStore (μ : Type) where
  manager : μ
  degraded : Bool := false
  -- how often a save was tried
  saves : ℕ := 0

namespace ConfigManagerStateStore

section Store

-- `disk` tells which of the saves succeed.
variable {μ : Type} (config : ConfigManager μ) (disk : ℕ → Bool) (self : ConfigManagerStateStore μ)

def schemaIsReadable : Bool :=
  match config.get self.manager schemaVersionKey with
  | none => true
  | some (.number (.int version)) => version ≤ schemaVersion
  -- a bool is an int
  | some (.bool _) => true
  | _ => false

def slice (storageKey : String) : StateData :=
  match config.get self.manager storageKey with
  | some (.object members) => members
  | _ => []

def read (scope : StateScope) : StateData := if self.schemaIsReadable config then self.slice config scope.storageKey else []

def flush : ConfigManagerStateStore μ :=
  if disk self.saves then { self with manager := config.save self.manager, saves := self.saves + 1 }
  else { self with degraded := true, saves := self.saves + 1 }

def write (scope : StateScope) (data : StateData) : ConfigManagerStateStore μ :=
  flush config disk { self with
    manager := config.set (config.set self.manager schemaVersionKey (.number (.int schemaVersion))) scope.storageKey (.object data) }

def discard (scope : StateScope) : ConfigManagerStateStore μ := self.write config disk scope []

-- `set(keys)` is built again for every member, so of an iterator that runs once
-- only the first member sees any keys.
def remaining (keys : KeyIterable) : StateData → StateData
  | [] => []
  | member :: rest =>
      (if member.1 ∈ keys.keys then [] else [member]) ++
        if keys.oneShot then rest else rest.filter fun member => member.1 ∉ keys.keys

def discardKeys (scope : StateScope) (keys : KeyIterable) : ConfigManagerStateStore μ :=
  self.write config disk scope (remaining keys (self.read config scope))

theorem flush_get (asked : String) : config.get (self.flush config disk).manager asked = config.get self.manager asked := by
  rw [flush]
  cases disk self.saves with
  | true => exact config.get_saved self.manager asked
  | false => rfl

theorem flush_saves : (self.flush config disk).saves = self.saves + 1 := by
  rw [flush]
  split <;> rfl

theorem write_get (scope : StateScope) (data : StateData) (asked : String) :
    config.get (self.write config disk scope data).manager asked =
      if asked = scope.storageKey then some (.object data)
      else if asked = schemaVersionKey then some (.number (.int schemaVersion))
      else config.get self.manager asked := by
  rw [write, flush_get, config.get_set, config.get_set]

theorem write_slice (scope : StateScope) (data : StateData) :
    (self.write config disk scope data).slice config scope.storageKey = data := by
  rw [slice, write_get, if_pos rfl]

theorem write_slice_other (scope : StateScope) (data : StateData) (storageKey : String)
    (other : storageKey ≠ scope.storageKey) :
    (self.write config disk scope data).slice config storageKey = [] ∨
      (self.write config disk scope data).slice config storageKey = self.slice config storageKey := by
  rw [slice, write_get, if_neg other]
  by_cases stamp : storageKey = schemaVersionKey
  · rw [if_pos stamp]
    exact .inl rfl
  · rw [if_neg stamp]
    exact .inr rfl

theorem read_subset (scope : StateScope) : self.read config scope ⊆ self.slice config scope.storageKey := by
  rw [read]
  cases self.schemaIsReadable config with
  | true => exact List.Subset.refl _
  | false => exact List.nil_subset _

theorem mem_remaining (keys : KeyIterable) (first : String × Value) (rest : StateData) (member : String × Value)
    (kept : member ∈ remaining keys (first :: rest)) :
    (member = first ∧ member.1 ∉ keys.keys) ∨ (member ∈ rest ∧ (keys.oneShot = true ∨ member.1 ∉ keys.keys)) := by
  rw [remaining, List.mem_append] at kept
  rcases kept with isFirst | later
  · by_cases dropped : first.1 ∈ keys.keys
    · rw [if_pos dropped] at isFirst
      cases isFirst
    · rw [if_neg dropped, List.mem_singleton] at isFirst
      subst isFirst
      exact .inl ⟨rfl, dropped⟩
  · by_cases once : keys.oneShot = true
    · rw [if_pos once] at later
      exact .inr ⟨later, .inl once⟩
    · rw [if_neg once, List.mem_filter] at later
      exact .inr ⟨later.1, .inr (of_decide_eq_true later.2)⟩

theorem remaining_subset (keys : KeyIterable) (data : StateData) : remaining keys data ⊆ data := by
  intro member kept
  cases data with
  | nil => cases kept
  | cons first rest =>
      rcases mem_remaining keys first rest member kept with ⟨rfl, _⟩ | ⟨later, _⟩
      · exact List.mem_cons_self
      · exact List.mem_cons_of_mem first later

end Store

end ConfigManagerStateStore

inductive StoreCall
  | read (scope : StateScope)
  | write (scope : StateScope) (data : StateData)
  | discard (scope : StateScope)
  | discardKeys (scope : StateScope) (keys : KeyIterable)

-- A build that runs on the file of a newer one: the keys of the slices it has
-- written, newest first, and what reading the others returned.
structure OlderBuild (μ : Type) where
  store : ConfigManagerStateStore μ
  written : List String := []
  foreign : List StateData := []

namespace OlderBuild

section Calls

variable {μ : Type} (config : ConfigManager μ) (disk : ℕ → Bool)

def start (document : String → Option Value) : OlderBuild μ := { store := { manager := config.loadJson document } }

def wrote (build : OlderBuild μ) (scope : StateScope) (store : ConfigManagerStateStore μ) : OlderBuild μ :=
  { build with store := store, written := scope.storageKey :: build.written }

def returned (build : OlderBuild μ) (scope : StateScope) (data : StateData) : OlderBuild μ :=
  if scope.storageKey ∈ build.written then build else { build with foreign := data :: build.foreign }

def step (build : OlderBuild μ) : StoreCall → Option (OlderBuild μ)
  | .read scope => some (build.returned scope (build.store.read config scope))
  | .write scope data => some (build.wrote scope (build.store.write config disk scope data))
  | .discard scope => some (build.wrote scope (build.store.discard config disk scope))
  | .discardKeys scope keys => some (build.wrote scope (build.store.discardKeys config disk scope keys))

def Filled (document : String → Option Value) (storageKey : String) : Prop :=
  ∃ member members, document storageKey = some (.object (member :: members))

-- What is read is a slice of the running build, has nothing in it, or is read
-- while the stamp is not the running build's: before it writes, or after it
-- wrote a slice under the key of the stamp.
def Unstamped (document : String → Option Value) (build : OlderBuild μ) : StoreCall → Prop
  | .read scope =>
      scope.storageKey ∈ build.written ∨ ¬ Filled document scope.storageKey ∨
        ∀ last, build.written.head? = some last → last = schemaVersionKey
  | _ => True

structure Kept (document : String → Option Value) (build : OlderBuild μ) : Prop where
  values : ∀ asked, asked ∉ build.written → asked ≠ schemaVersionKey → config.get build.store.manager asked = document asked
  unwritten : build.written = [] → config.get build.store.manager schemaVersionKey = document schemaVersionKey
  stamped : ∀ last earlier, build.written = last :: earlier → last ≠ schemaVersionKey →
    config.get build.store.manager schemaVersionKey = some (.number (.int schemaVersion))
  covered : ∀ earlier, build.written = schemaVersionKey :: earlier →
    ∃ members, config.get build.store.manager schemaVersionKey = some (.object members)

theorem start_kept (document : String → Option Value) : Kept config document (start config document) where
  values asked _ _ := config.get_loaded document asked
  unwritten _ := config.get_loaded document schemaVersionKey
  stamped last earlier cut := by cases cut
  covered earlier cut := by cases cut

theorem wrote_kept (document : String → Option Value) (build : OlderBuild μ) (scope : StateScope) (data : StateData)
    (kept : Kept config document build) : Kept config document (build.wrote scope (build.store.write config disk scope data)) where
  values asked notWritten notStamp := by
    rw [wrote, List.mem_cons, not_or] at notWritten
    obtain ⟨other, earlier⟩ := notWritten
    rw [wrote, ConfigManagerStateStore.write_get, if_neg other, if_neg notStamp]
    exact kept.values asked earlier notStamp
  unwritten none := by cases none
  stamped last earlier cut notStamp := by
    obtain ⟨rfl, _⟩ := List.cons.inj cut
    rw [wrote, ConfigManagerStateStore.write_get, if_neg (Ne.symm notStamp), if_pos rfl]
  covered earlier cut := by
    obtain ⟨same, _⟩ := List.cons.inj cut
    rw [wrote, ConfigManagerStateStore.write_get, if_pos same.symm]
    exact ⟨data, rfl⟩

theorem step_kept (document : String → Option Value) (build : OlderBuild μ) (call : StoreCall) (next : OlderBuild μ)
    (kept : Kept config document build) (moved : step config disk build call = some next) : Kept config document next := by
  cases call with
  | read scope =>
      cases moved
      rw [returned]
      by_cases own : scope.storageKey ∈ build.written
      · rw [if_pos own]
        exact kept
      · rw [if_neg own]
        exact ⟨kept.values, kept.unwritten, kept.stamped, kept.covered⟩
  | write scope data =>
      cases moved
      exact wrote_kept config disk document build scope data kept
  | discard scope =>
      cases moved
      exact wrote_kept config disk document build scope [] kept
  | discardKeys scope keys =>
      cases moved
      exact wrote_kept config disk document build scope _ kept

theorem readable_iff (document : String → Option Value) (version : ℤ) (build : OlderBuild μ)
    (declared : document schemaVersionKey = some (.number (.int version))) (newer : schemaVersion < version)
    (kept : Kept config document build) :
    build.store.schemaIsReadable config = true ↔ ∃ last, build.written.head? = some last ∧ last ≠ schemaVersionKey := by
  rw [ConfigManagerStateStore.schemaIsReadable]
  cases writes : build.written with
  | nil =>
      rw [kept.unwritten writes, declared]
      simpa using newer
  | cons last earlier =>
      by_cases stamp : last = schemaVersionKey
      · subst stamp
        obtain ⟨members, covered⟩ := kept.covered earlier writes
        simp [covered]
      · rw [kept.stamped last earlier writes stamp]
        simp [stamp]

theorem foreign_slice_iff (document : String → Option Value) (version : ℤ) (build : OlderBuild μ) (storageKey : String)
    (declared : document schemaVersionKey = some (.number (.int version))) (kept : Kept config document build)
    (foreign : storageKey ∉ build.written) :
    (build.store.slice config storageKey ≠ [] ∧ ∃ last, build.written.head? = some last ∧ last ≠ schemaVersionKey) ↔
      Filled document storageKey ∧ ∃ last, build.written.head? = some last ∧ last ≠ schemaVersionKey := by
  refine and_congr_left fun stamped => ?_
  obtain ⟨last, newest, notStamp⟩ := stamped
  rw [ConfigManagerStateStore.slice, Filled]
  by_cases stamp : storageKey = schemaVersionKey
  · subst stamp
    obtain ⟨earlier, writes⟩ : ∃ earlier, build.written = last :: earlier := by
      cases writes : build.written with
      | nil => simp [writes] at newest
      | cons head earlier => exact ⟨earlier, by simpa [writes] using newest⟩
    rw [kept.stamped last earlier writes notStamp, declared]
    simp
  · rw [kept.values storageKey foreign stamp]
    cases document storageKey with
    | none => simp
    | some value =>
        cases value with
        | object members => cases members <;> simp
        | _ => simp

def ForeignUnread (build : OlderBuild μ) : Prop := ∀ data ∈ build.foreign, data = []

theorem step_foreign_iff (document : String → Option Value) (version : ℤ) (build next : OlderBuild μ) (call : StoreCall)
    (declared : document schemaVersionKey = some (.number (.int version))) (newer : schemaVersion < version)
    (kept : Kept config document build) (moved : step config disk build call = some next) :
    ForeignUnread next ↔ ForeignUnread build ∧ Unstamped document build call := by
  cases call with
  | read scope =>
      cases moved
      rw [returned]
      by_cases own : scope.storageKey ∈ build.written
      · rw [if_pos own]
        exact (and_iff_left (.inl own)).symm
      · rw [if_neg own]
        have reads : build.store.read config scope ≠ [] ↔ Filled document scope.storageKey ∧
            ∃ last, build.written.head? = some last ∧ last ≠ schemaVersionKey := by
          rw [← foreign_slice_iff config document version build scope.storageKey declared kept own,
            ← readable_iff config document version build declared newer kept, ConfigManagerStateStore.read]
          cases build.store.schemaIsReadable config with
          | true => simp
          | false => simp
        have empty : build.store.read config scope = [] ↔ Unstamped document build (.read scope) := by
          rw [← not_iff_not, ← ne_eq, reads, Unstamped]
          push Not
          exact (and_iff_right own).symm
        rw [ForeignUnread, List.forall_mem_cons, empty]
        exact and_comm
  | write scope data =>
      cases moved
      exact (and_iff_left trivial).symm
  | discard scope =>
      cases moved
      exact (and_iff_left trivial).symm
  | discardKeys scope keys =>
      cases moved
      exact (and_iff_left trivial).symm

theorem newer_unread_iff (document : String → Option Value) (version : ℤ)
    (declared : document schemaVersionKey = some (.number (.int version))) (newer : schemaVersion < version)
    (calls : List StoreCall) (final : OlderBuild μ) (completed : run (step config disk) (start config document) calls = some final) :
    (∀ data ∈ final.foreign, data = []) ↔
      StepsMeet (step config disk) (Unstamped document) (start config document) calls := by
  have nothing : ForeignUnread (start config document) := fun data returned => by cases returned
  refine (run_meets_iff (step config disk) (Unstamped document) (Kept config document) ForeignUnread
    (step_kept config disk document) (fun build call next kept moved => ?_) calls (start config document) final
    (start_kept config document) completed).trans (and_iff_right nothing)
  exact step_foreign_iff config disk document version build next call declared newer kept moved

end Calls

def newerDocument (asked : String) : Option Value :=
  if asked = "schema_version" then some (.number (.int 2))
  else if asked = "dashboard" then some (.object [("symbol", .string "BTCUSDT")])
  else none

def readsFirst : List StoreCall :=
  [.read { key := "dashboard" }, .write { key := "backtest" } [("timeframe", .string "1m")]]

theorem newer_unread_at_first :
    (∀ data ∈ (((start valueMap newerDocument).returned { key := "dashboard" } []).wrote { key := "backtest" }
        ((start valueMap newerDocument).store.write valueMap (fun _ => true) { key := "backtest" }
          [("timeframe", .string "1m")])).foreign, data = []) ↔
      StepsMeet (step valueMap fun _ => true) (Unstamped newerDocument) (start valueMap newerDocument) readsFirst :=
  newer_unread_iff valueMap (fun _ => true) newerDocument 2 rfl (by decide) readsFirst _ rfl

-- Writing one slice stamps the document as the running build's, the other
-- slices with it.
theorem newer_slice_read :
    ¬ ∀ (μ : Type) (config : ConfigManager μ) (disk : ℕ → Bool) (document : String → Option Value) (version : ℤ)
      (calls : List StoreCall) (final : OlderBuild μ), document schemaVersionKey = some (.number (.int version)) →
        schemaVersion < version → run (step config disk) (start config document) calls = some final →
          ∀ data ∈ final.foreign, data = [] := by
  intro claimed
  let written := (start valueMap newerDocument).wrote { key := "backtest" }
    ((start valueMap newerDocument).store.write valueMap (fun _ => true) { key := "backtest" } [])
  have unread := claimed (String → Option Value) valueMap (fun _ => true) newerDocument 2
    [.write { key := "backtest" } [], .read { key := "dashboard" }]
    (written.returned { key := "dashboard" } (written.store.read valueMap { key := "dashboard" })) rfl (by decide) rfl
  have emptied := unread [("symbol", .string "BTCUSDT")] (List.mem_singleton.mpr rfl)
  cases emptied

end OlderBuild

end Sagittarius
