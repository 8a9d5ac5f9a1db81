import Sagittarius.Library.Dicts
import Sagittarius.Library.Responses
import Sagittarius.Screen.ConfigManagerStateStore

set_option autoImplicit false

namespace Sagittarius

open Dicts (Dict)
open JsonValues (Value)

structure InMemoryStateStore where
  slices : Dict String StateData := .empty

namespace InMemoryStateStore

variable (self : InMemoryStateStore)

def read (scope : StateScope) : StateData := (self.slices.get? scope.storageKey).getD []

def write (scope : StateScope) (data : StateData) : InMemoryStateStore := { slices := self.slices.set scope.storageKey data }

def discard (scope : StateScope) : InMemoryStateStore := { slices := self.slices.pop scope.storageKey }

-- The set of keys is built once, so an iterator that runs once serves as well.
def discardKeys (scope : StateScope) (keys : KeyIterable) : InMemoryStateStore :=
  match self.slices.get? scope.storageKey with
  | none => self
  | some sliceData => self.write scope (sliceData.filter fun member => member.1 ∉ keys.keys)

def answer : StoreCall → Option StateData × InMemoryStateStore
  | .read scope => (some (self.read scope), self)
  | .write scope data => (none, self.write scope data)
  | .discard scope => (none, self.discard scope)
  | .discardKeys scope keys => (none, self.discardKeys scope keys)

end InMemoryStateStore

namespace ConfigManagerStateStore

variable {μ : Type} (config : ConfigManager μ) (disk : ℕ → Bool) (self : ConfigManagerStateStore μ)

def answer : StoreCall → Option StateData × ConfigManagerStateStore μ
  | .read scope => (some (self.read config scope), self)
  | .write scope data => (none, self.write config disk scope data)
  | .discard scope => (none, self.discard config disk scope)
  | .discardKeys scope keys => (none, self.discardKeys config disk scope keys)

end ConfigManagerStateStore

def StoreCall.scope : StoreCall → StateScope
  | .read scope => scope
  | .write scope _ => scope
  | .discard scope => scope
  | .discardKeys scope _ => scope

-- No call is for the slice under the key of the stamp, and no keys come from an
-- iterator that runs once.
structure StoreCall.Plain (call : StoreCall) : Prop where
  slice : call.scope.storageKey ≠ schemaVersionKey
  keys : ∀ scope keys, call = .discardKeys scope keys → keys.oneShot = false

namespace ConfigManagerStateStore

section Agreement

variable {μ : Type} (config : ConfigManager μ) (disk : ℕ → Bool)

structure Remembers (store : ConfigManagerStateStore μ) (memory : InMemoryStateStore) : Prop where
  readable : store.schemaIsReadable config = true
  slices : ∀ storageKey, storageKey ≠ schemaVersionKey →
    store.slice config storageKey = (memory.slices.get? storageKey).getD []

theorem remembers_read (store : ConfigManagerStateStore μ) (memory : InMemoryStateStore) (scope : StateScope)
    (remembers : Remembers config store memory) (slice : scope.storageKey ≠ schemaVersionKey) :
    store.read config scope = memory.read scope := by
  rw [read, if_pos remembers.readable, remembers.slices _ slice]
  rfl

theorem remembers_written (store : ConfigManagerStateStore μ) (memory next : InMemoryStateStore) (scope : StateScope)
    (data : StateData) (remembers : Remembers config store memory) (slice : scope.storageKey ≠ schemaVersionKey)
    (written : ∀ storageKey, (next.slices.get? storageKey).getD [] =
      if storageKey = scope.storageKey then data else (memory.slices.get? storageKey).getD []) :
    Remembers config (store.write config disk scope data) next where
  readable := by
    rw [schemaIsReadable, write_get, if_neg (Ne.symm slice), if_pos rfl]
    rfl
  slices := by
    intro storageKey other
    rw [written]
    by_cases same : storageKey = scope.storageKey
    · rw [if_pos same, same]
      exact write_slice config disk store scope data
    · rw [if_neg same, ConfigManagerStateStore.slice, write_get, if_neg same, if_neg other,
        ← remembers.slices storageKey other]
      rfl

theorem remaining_filter (keys : KeyIterable) (data : StateData) (again : keys.oneShot = false) :
    remaining keys data = data.filter fun member => member.1 ∉ keys.keys := by
  cases data with
  | nil => rfl
  | cons first rest =>
      rw [remaining, again, if_neg Bool.false_ne_true, List.filter_cons]
      by_cases dropped : first.1 ∈ keys.keys
      · simp [dropped]
      · simp [dropped]

theorem store_simulates :
    Responses.Simulates StoreCall.Plain (ConfigManagerStateStore.answer config disk) InMemoryStateStore.answer
      (Remembers config) := by
  intro store memory call plain remembers
  have slice := plain.slice
  cases call with
  | read scope => exact ⟨congrArg some (remembers_read config store memory scope remembers slice), remembers⟩
  | write scope data =>
      refine ⟨rfl, remembers_written config disk store memory _ scope data remembers slice fun storageKey => ?_⟩
      change ((memory.slices.set scope.storageKey data).get? storageKey).getD [] = _
      rw [Dicts.Dict.get_set]
      by_cases same : storageKey = scope.storageKey
      · simp [same]
      · simp [same]
  | discard scope =>
      refine ⟨rfl, remembers_written config disk store memory _ scope [] remembers slice fun storageKey => ?_⟩
      change ((memory.slices.pop scope.storageKey).get? storageKey).getD [] = _
      rw [Dicts.Dict.get_pop]
      by_cases same : storageKey = scope.storageKey
      · simp [same]
      · simp [same]
  | discardKeys scope keys =>
      refine ⟨rfl, remembers_written config disk store memory _ scope _ remembers slice fun storageKey => ?_⟩
      rw [remaining_filter keys _ (plain.keys scope keys rfl), remembers_read config store memory scope remembers slice,
        InMemoryStateStore.read]
      change ((memory.discardKeys scope keys).slices.get? storageKey).getD [] = _
      rw [InMemoryStateStore.discardKeys]
      cases held : memory.slices.get? scope.storageKey with
      | none =>
          by_cases same : storageKey = scope.storageKey
          · simp [same, held]
          · simp [same]
      | some sliceData =>
          change ((memory.slices.set scope.storageKey _).get? storageKey).getD [] = _
          rw [Dicts.Dict.get_set]
          by_cases same : storageKey = scope.storageKey
          · simp [same]
          · simp [same]

end Agreement

end ConfigManagerStateStore

-- Within a session the store on disk reads as the one in memory does, whichever
-- of its saves fail.
theorem state_stores_agree {μ : Type} (config : ConfigManager μ) (disk : ℕ → Bool) (calls : List StoreCall)
    (plain : ∀ call ∈ calls, call.Plain) :
    (Responses.serve (ConfigManagerStateStore.answer config disk) { manager := config.loadJson fun _ => none } calls).1 =
      (Responses.serve InMemoryStateStore.answer {} calls).1 := by
  have empty : ∀ asked, config.get (config.loadJson fun _ => none) asked = none := config.get_loaded fun _ => none
  refine (Responses.serve_refines StoreCall.Plain _ _ (ConfigManagerStateStore.Remembers config)
    (ConfigManagerStateStore.store_simulates config disk) calls _ _ ⟨?_, fun storageKey _ => ?_⟩ plain).1
  · rw [ConfigManagerStateStore.schemaIsReadable, empty]
  · rw [ConfigManagerStateStore.slice, empty]
    rfl

def forgetfulCalls : List StoreCall :=
  [.write { key := "dashboard" } [("symbol", .string "BTCUSDT"), ("interval", .string "1m")],
    .discardKeys { key := "dashboard" } { keys := ["symbol"] }, .read { key := "dashboard" },
    .discard { key := "dashboard" }, .read { key := "dashboard" }]

theorem forgetful_calls_plain (call : StoreCall) (listed : call ∈ forgetfulCalls) : call.Plain := by
  simp only [forgetfulCalls, List.mem_cons, List.not_mem_nil, or_false] at listed
  rcases listed with rfl | rfl | rfl | rfl | rfl <;> exact ⟨by decide, by rintro _ _ ⟨⟩ <;> rfl⟩

theorem forgetful_calls_agree :
    (Responses.serve (ConfigManagerStateStore.answer valueMap fun _ => false) { manager := fun _ => none } forgetfulCalls).1 =
      [none, none, some [("interval", .string "1m")], none, some []] :=
  (state_stores_agree valueMap (fun _ => false) forgetfulCalls forgetful_calls_plain).trans rfl

end Sagittarius
