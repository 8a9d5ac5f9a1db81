import Mathlib.Data.Finset.Dedup
import Mathlib.Data.Finset.Basic
import Mathlib.Data.List.Sort
import Mathlib.Data.Prod.Lex
import Mathlib.Data.String.Basic
import Sagittarius.Domain.TimeFrame
import Sagittarius.Library.KeyedRows

set_option autoImplicit false

namespace Sagittarius

abbrev StreamKey := String × String

def sortedKeys (keys : List StreamKey) : List StreamKey := keys.insertionSort fun a b => toLex a ≤ toLex b

-- What was spawned as `_run_stream(keys, token)`. Tasks and tokens are numbered
-- as they are made, so the n-th task has the n-th token.
structure KlineTask where
  keys : List StreamKey
  token : ℕ
deriving DecidableEq

abbrev Subscriptions := List (StreamKey × Finset String)

structure BinanceWebsocketService where
  taskHandle : Option ℕ
  token : Option ℕ
  subscriptions : Subscriptions
  activeKeys : Finset StreamKey
  tasks : List KlineTask
  cancelledTokens : Finset ℕ
  cancelledTasks : Finset ℕ
deriving DecidableEq

inductive RegistryCall
  | subscribe (owner : String) (symbols : List String) (interval : TimeFrame)
  | releaseOwner (owner : String)
  | stopAll
deriving DecidableEq

namespace Subscriptions

def ownersOf (subscriptions : Subscriptions) (key : StreamKey) : Finset String :=
  (subscriptions.find? fun entry => entry.1 = key).elim ∅ Prod.snd

def addOwner (owner : String) (subscriptions : Subscriptions) (key : StreamKey) : Subscriptions :=
  KeyedRows.upsert Prod.fst subscriptions (key, insert owner (subscriptions.ownersOf key))

def dropOwner (subscriptions : Subscriptions) (owner : String) : Bool × Subscriptions :=
  (subscriptions.any fun entry => owner ∈ entry.2,
    subscriptions.filterMap fun entry =>
      if owner ∈ entry.2 then
        if entry.2.erase owner = ∅ then none else some (entry.1, entry.2.erase owner)
      else some entry)

def keys (subscriptions : Subscriptions) : List StreamKey := subscriptions.map Prod.fst

end Subscriptions

namespace BinanceWebsocketService

def start : BinanceWebsocketService where
  taskHandle := none
  token := none
  subscriptions := []
  activeKeys := ∅
  tasks := []
  cancelledTokens := ∅
  cancelledTasks := ∅

def cancelTask (service : BinanceWebsocketService) : BinanceWebsocketService :=
  match service.taskHandle with
  | none => service
  | some handle =>
      { service with
        cancelledTokens := service.token.elim service.cancelledTokens fun token => insert token service.cancelledTokens
        cancelledTasks := insert handle service.cancelledTasks
        taskHandle := none
        token := none }

def spawn (service : BinanceWebsocketService) (keys : List StreamKey) : BinanceWebsocketService :=
  { service with
    taskHandle := some service.tasks.length
    token := some service.tasks.length
    tasks := service.tasks ++ [{ keys, token := service.tasks.length }] }

def applyActiveSet (service : BinanceWebsocketService) : BinanceWebsocketService :=
  let desired := service.subscriptions.keys.toFinset
  if desired = service.activeKeys then service
  else
    let stopped := { service.cancelTask with activeKeys := desired }
    if desired = ∅ then stopped else stopped.spawn (sortedKeys service.subscriptions.keys)

def subscribe (service : BinanceWebsocketService) (owner : String) (symbols : List String) (interval : TimeFrame) :
    Bool × BinanceWebsocketService :=
  let dropped := (service.subscriptions.dropOwner owner).2
  let added := symbols.foldl (fun subscriptions symbol => subscriptions.addOwner owner (symbol, interval.value)) dropped
  (true, { service with subscriptions := added }.applyActiveSet)

def releaseOwner (service : BinanceWebsocketService) (owner : String) : Bool × BinanceWebsocketService :=
  let (hadAny, dropped) := service.subscriptions.dropOwner owner
  let released := { service with subscriptions := dropped }
  (hadAny, if hadAny then released.applyActiveSet else released)

def stopAll (service : BinanceWebsocketService) : Bool × BinanceWebsocketService :=
  (!service.subscriptions.isEmpty, { service with subscriptions := [] }.applyActiveSet)

-- Each call holds the lock throughout.
def call (service : BinanceWebsocketService) : RegistryCall → Bool × BinanceWebsocketService
  | .subscribe owner symbols interval => service.subscribe owner symbols interval
  | .releaseOwner owner => service.releaseOwner owner
  | .stopAll => service.stopAll

def after (service : BinanceWebsocketService) (calls : List RegistryCall) : BinanceWebsocketService :=
  calls.foldl (fun service made => (service.call made).2) service

end BinanceWebsocketService

namespace Subscriptions

def Holds (subscriptions : Subscriptions) (owner : String) (key : StreamKey) : Prop :=
  ∃ owners, (key, owners) ∈ subscriptions ∧ owner ∈ owners

structure Counted (subscriptions : Subscriptions) : Prop where
  distinct : subscriptions.keys.Nodup
  held : ∀ key owners, (key, owners) ∈ subscriptions → owners.Nonempty

theorem nil_counted : Counted [] := ⟨List.nodup_nil, by simp⟩

theorem drop_mem_iff (subscriptions : Subscriptions) (owner : String) (key : StreamKey) (owners : Finset String) :
    (key, owners) ∈ (subscriptions.dropOwner owner).2 ↔
      ((key, owners) ∈ subscriptions ∧ owner ∉ owners) ∨
        ∃ before, (key, before) ∈ subscriptions ∧ owner ∈ before ∧ owners = before.erase owner ∧ owners ≠ ∅ := by
  simp only [dropOwner, List.mem_filterMap]
  constructor
  · rintro ⟨⟨held, before⟩, listed, kept⟩
    split_ifs at kept with owns empty
    · cases kept
      exact .inr ⟨before, listed, owns, rfl, empty⟩
    · cases kept
      exact .inl ⟨listed, owns⟩
  · rintro (⟨listed, absent⟩ | ⟨before, listed, owns, rfl, left⟩)
    · exact ⟨(key, owners), listed, by simp [absent]⟩
    · exact ⟨(key, before), listed, by simp [owns, left]⟩

theorem drop_holds_iff (subscriptions : Subscriptions) (owner other : String) (key : StreamKey) :
    Holds (subscriptions.dropOwner owner).2 other key ↔ other ≠ owner ∧ subscriptions.Holds other key := by
  constructor
  · rintro ⟨owners, listed, owns⟩
    rcases (subscriptions.drop_mem_iff owner key owners).mp listed with
      ⟨kept, absent⟩ | ⟨before, kept, _, rfl, _⟩
    · exact ⟨fun same => absent (same ▸ owns), owners, kept, owns⟩
    · obtain ⟨different, ownedBefore⟩ := Finset.mem_erase.mp owns
      exact ⟨different, before, kept, ownedBefore⟩
  · rintro ⟨different, owners, listed, owns⟩
    by_cases shared : owner ∈ owners
    · have left : other ∈ owners.erase owner := Finset.mem_erase.mpr ⟨different, owns⟩
      refine ⟨owners.erase owner, (subscriptions.drop_mem_iff owner key _).mpr (.inr ⟨owners, listed, shared, rfl, ?_⟩), left⟩
      exact Finset.ne_empty_of_mem left
    · exact ⟨owners, (subscriptions.drop_mem_iff owner key owners).mpr (.inl ⟨listed, shared⟩), owns⟩

theorem drop_keys (subscriptions : Subscriptions) (owner : String) :
    (keys (subscriptions.dropOwner owner).2).Sublist subscriptions.keys := by
  induction subscriptions with
  | nil => exact List.Sublist.refl _
  | cons entry rest ih =>
      simp only [dropOwner, keys, List.filterMap_cons, List.map_cons] at ih ⊢
      split_ifs with owns empty
      · exact ih.cons _
      · exact ih.cons_cons _
      · exact ih.cons_cons _

theorem drop_counted (subscriptions : Subscriptions) (owner : String) (counted : subscriptions.Counted) :
    Counted (subscriptions.dropOwner owner).2 := by
  constructor
  · exact counted.distinct.sublist (subscriptions.drop_keys owner)
  · intro key owners listed
    rcases (subscriptions.drop_mem_iff owner key owners).mp listed with ⟨kept, _⟩ | ⟨_, _, _, _, left⟩
    · exact counted.held key owners kept
    · exact Finset.nonempty_iff_ne_empty.mpr left

theorem owners_of_mem (subscriptions : Subscriptions) (key : StreamKey) (owners : Finset String)
    (distinct : subscriptions.keys.Nodup) (listed : (key, owners) ∈ subscriptions) : subscriptions.ownersOf key = owners := by
  unfold ownersOf
  cases found : subscriptions.find? fun entry => entry.1 = key with
  | none => exact absurd (List.find?_eq_none.mp found (key, owners) listed) (by simp)
  | some entry =>
      have sameKey : entry.1 = key := by simpa using List.find?_some found
      have same := List.inj_on_of_nodup_map distinct (List.mem_of_find?_eq_some found) listed sameKey
      rw [same]
      rfl

theorem owners_of_absent (subscriptions : Subscriptions) (key : StreamKey) (absent : key ∉ subscriptions.keys) :
    subscriptions.ownersOf key = ∅ := by
  unfold ownersOf
  cases found : subscriptions.find? fun entry => entry.1 = key with
  | none => rfl
  | some entry =>
      have sameKey : entry.1 = key := by simpa using List.find?_some found
      exact absurd (List.mem_map.mpr ⟨entry, List.mem_of_find?_eq_some found, sameKey⟩) absent

theorem add_mem_iff (subscriptions : Subscriptions) (owner : String) (key other : StreamKey) (owners : Finset String) :
    (other, owners) ∈ subscriptions.addOwner owner key ↔
      (other ≠ key ∧ (other, owners) ∈ subscriptions) ∨
        (other = key ∧ owners = insert owner (subscriptions.ownersOf key)) := by
  rw [addOwner, KeyedRows.upsert_mem_iff, or_comm, Prod.mk.injEq]
  exact or_congr_left and_comm

theorem add_holds_iff (subscriptions : Subscriptions) (owner other : String) (key held : StreamKey)
    (distinct : subscriptions.keys.Nodup) :
    (subscriptions.addOwner owner key).Holds other held ↔
      subscriptions.Holds other held ∨ (other = owner ∧ held = key) := by
  constructor
  · rintro ⟨owners, listed, owns⟩
    rcases (subscriptions.add_mem_iff owner key held owners).mp listed with ⟨_, kept⟩ | ⟨rfl, rfl⟩
    · exact .inl ⟨owners, kept, owns⟩
    · rcases Finset.mem_insert.mp owns with same | before
      · exact .inr ⟨same, rfl⟩
      · by_cases present : held ∈ subscriptions.keys
        · obtain ⟨⟨_, owners⟩, kept, rfl⟩ := List.mem_map.mp present
          rw [subscriptions.owners_of_mem _ owners distinct kept] at before
          exact .inl ⟨owners, kept, before⟩
        · rw [subscriptions.owners_of_absent held present] at before
          simp at before
  · rintro (⟨owners, kept, owns⟩ | ⟨rfl, rfl⟩)
    · by_cases same : held = key
      · subst same
        refine ⟨_, (subscriptions.add_mem_iff owner held held _).mpr (.inr ⟨rfl, rfl⟩), ?_⟩
        rw [subscriptions.owners_of_mem held owners distinct kept]
        exact Finset.mem_insert_of_mem owns
      · exact ⟨owners, (subscriptions.add_mem_iff owner key held owners).mpr (.inl ⟨same, kept⟩), owns⟩
    · exact ⟨_, (subscriptions.add_mem_iff other held held _).mpr (.inr ⟨rfl, rfl⟩), Finset.mem_insert_self _ _⟩

theorem add_counted (subscriptions : Subscriptions) (owner : String) (key : StreamKey) (counted : subscriptions.Counted) :
    (subscriptions.addOwner owner key).Counted := by
  refine ⟨KeyedRows.upsert_keys Prod.fst subscriptions _ counted.distinct, fun other owners listed => ?_⟩
  rcases (subscriptions.add_mem_iff owner key other owners).mp listed with ⟨_, kept⟩ | ⟨_, rfl⟩
  · exact counted.held other owners kept
  · exact Finset.insert_nonempty _ _

theorem add_all (subscriptions : Subscriptions) (owner : String) (keys : List StreamKey) (counted : subscriptions.Counted) :
    (keys.foldl (addOwner owner) subscriptions).Counted ∧
      ∀ other key, (keys.foldl (addOwner owner) subscriptions).Holds other key ↔
        subscriptions.Holds other key ∨ (other = owner ∧ key ∈ keys) := by
  induction keys generalizing subscriptions with
  | nil => exact ⟨counted, by simp⟩
  | cons first rest ih =>
      obtain ⟨countedAll, holdsAll⟩ := ih (subscriptions.addOwner owner first) (subscriptions.add_counted owner first counted)
      refine ⟨countedAll, fun other key => ?_⟩
      rw [List.foldl_cons, holdsAll, subscriptions.add_holds_iff owner other first key counted.distinct, or_assoc,
        ← and_or_left, List.mem_cons]

end Subscriptions

namespace BinanceWebsocketService

-- The task and its token, whatever the registry holds: they run for the active
-- keys, and every other task has had its token cancelled.
structure Running (service : BinanceWebsocketService) : Prop where
  token : service.token = service.taskHandle
  handle : service.taskHandle.isSome = true ↔ service.activeKeys ≠ ∅
  current : ∀ handle ∈ service.taskHandle, ∃ task, service.tasks[handle]? = some task ∧
    task.keys.toFinset = service.activeKeys
  numbered : ∀ (n : ℕ) task, service.tasks[n]? = some task → task.token = n
  cancelled : ∀ n, n ∈ service.cancelledTokens ↔ n < service.tasks.length ∧ n ∉ service.taskHandle

-- What replacing the task does: the one that runs is cancelled with its token,
-- and one for the sorted keys is spawned if there are any.
structure Replaced (before after : BinanceWebsocketService) : Prop where
  handle : after.taskHandle = if after.subscriptions = [] then none else some before.tasks.length
  tasks : after.tasks = before.tasks ++
    if after.subscriptions = [] then [] else [{ keys := sortedKeys after.subscriptions.keys, token := before.tasks.length }]
  cancelledTasks : after.cancelledTasks = before.taskHandle.elim before.cancelledTasks (insert · before.cancelledTasks)
  cancelledTokens : after.cancelledTokens = before.token.elim before.cancelledTokens (insert · before.cancelledTokens)

def Untouched (before after : BinanceWebsocketService) : Prop :=
  after.taskHandle = before.taskHandle ∧ after.token = before.token ∧ after.tasks = before.tasks ∧
    after.cancelledTasks = before.cancelledTasks ∧ after.cancelledTokens = before.cancelledTokens

theorem sorted_keys_set (keys : List StreamKey) : (sortedKeys keys).toFinset = keys.toFinset := by
  ext key
  simp [sortedKeys]

theorem keys_empty_iff (subscriptions : Subscriptions) : subscriptions.keys.toFinset = ∅ ↔ subscriptions = [] := by
  simp [Subscriptions.keys]

theorem cancel_task_cases (service : BinanceWebsocketService) (running : service.Running) :
    service.cancelTask = { service with
      cancelledTasks := service.taskHandle.elim service.cancelledTasks (insert · service.cancelledTasks)
      cancelledTokens := service.token.elim service.cancelledTokens (insert · service.cancelledTokens)
      taskHandle := none
      token := none } := by
  have token := running.token
  obtain ⟨taskHandle, _, subscriptions, activeKeys, tasks, cancelledTokens, cancelledTasks⟩ := service
  cases token
  cases taskHandle with
  | none => rfl
  | some handle => rfl

theorem apply_same (service : BinanceWebsocketService) (same : service.subscriptions.keys.toFinset = service.activeKeys) :
    service.applyActiveSet = service := if_pos same

theorem apply_changed (service : BinanceWebsocketService) (running : service.Running)
    (changed : service.subscriptions.keys.toFinset ≠ service.activeKeys) :
    service.Replaced service.applyActiveSet ∧ service.applyActiveSet.subscriptions = service.subscriptions ∧
      service.applyActiveSet.activeKeys = service.subscriptions.keys.toFinset ∧
      service.applyActiveSet.token = service.applyActiveSet.taskHandle := by
  rw [applyActiveSet, if_neg changed, service.cancel_task_cases running]
  by_cases empty : service.subscriptions = []
  · have none : service.subscriptions.keys.toFinset = ∅ := (keys_empty_iff _).mpr empty
    simp only [none, if_true]
    exact ⟨⟨by simp [empty], by simp [empty], rfl, rfl⟩, trivial, trivial, trivial⟩
  · have some : ¬service.subscriptions.keys.toFinset = ∅ := fun none => empty ((keys_empty_iff _).mp none)
    simp only [some, if_false, spawn]
    exact ⟨⟨by simp [empty], by simp [empty], rfl, rfl⟩, trivial, trivial, trivial⟩

theorem replaced_cancels (service after : BinanceWebsocketService) (running : service.Running)
    (replaced : service.Replaced after) (n : ℕ) : n ∈ after.cancelledTokens ↔ n < service.tasks.length := by
  rw [replaced.cancelledTokens, running.token]
  cases held : service.taskHandle with
  | none =>
      rw [Option.elim_none, running.cancelled n, held]
      simp
  | some handle =>
      obtain ⟨task, listed, _⟩ := running.current handle held
      have inside := (List.getElem?_eq_some_iff.mp listed).1
      rw [Option.elim_some, Finset.mem_insert, running.cancelled n, held]
      simp only [Option.mem_def, Option.some.injEq]
      omega

theorem spawned_numbered (tasks : List KlineTask) (keys : List StreamKey)
    (numbered : ∀ (n : ℕ) task, tasks[n]? = some task → task.token = n) (n : ℕ) (task : KlineTask)
    (listed : (tasks ++ [{ keys, token := tasks.length }])[n]? = some task) : task.token = n := by
  rcases lt_or_ge n tasks.length with earlier | later
  · rw [List.getElem?_append_left earlier] at listed
    exact numbered n task listed
  · rw [List.getElem?_append_right later] at listed
    obtain ⟨inside, rfl⟩ := List.getElem?_eq_some_iff.mp listed
    simp at inside ⊢
    omega

theorem apply_running (service : BinanceWebsocketService) (running : service.Running) : service.applyActiveSet.Running := by
  by_cases same : service.subscriptions.keys.toFinset = service.activeKeys
  · rw [service.apply_same same]
    exact running
  · obtain ⟨replaced, kept, active, token⟩ := service.apply_changed running same
    have cancels := service.replaced_cancels _ running replaced
    have handle := replaced.handle
    have tasks := replaced.tasks
    by_cases empty : service.subscriptions = []
    · rw [kept, if_pos empty] at handle tasks
      rw [List.append_nil] at tasks
      refine ⟨token, ?_, ?_, ?_, fun n => ?_⟩
      · rw [handle, active, (keys_empty_iff _).mpr empty]
        simp
      · rw [handle]
        simp
      · rw [tasks]
        exact running.numbered
      · rw [cancels n, tasks, handle]
        simp
    · rw [kept, if_neg empty] at handle tasks
      refine ⟨token, ?_, ?_, ?_, fun n => ?_⟩
      · rw [handle, active]
        simpa using fun none => empty ((keys_empty_iff _).mp none)
      · rintro _ isHandle
        rw [handle] at isHandle
        cases isHandle
        refine ⟨_, by rw [tasks, List.getElem?_concat_length], ?_⟩
        rw [active]
        exact sorted_keys_set _
      · rw [tasks]
        exact spawned_numbered service.tasks _ running.numbered
      · rw [cancels n, tasks, handle, List.length_append]
        simp
        omega

end BinanceWebsocketService

def RegistryCall.keysOf (owner : String) (held : List StreamKey) : RegistryCall → List StreamKey
  | .subscribe subscriber symbols interval =>
      if subscriber = owner then symbols.map fun symbol => (symbol, interval.value) else held
  | .releaseOwner released => if released = owner then [] else held
  | .stopAll => []

def latestKeys (owner : String) (calls : List RegistryCall) : List StreamKey :=
  calls.foldl (RegistryCall.keysOf owner) []

def Subscriptions.changedBy (subscriptions : Subscriptions) : RegistryCall → Subscriptions
  | .subscribe owner symbols interval =>
      (symbols.map fun symbol => (symbol, interval.value)).foldl (Subscriptions.addOwner owner)
        (subscriptions.dropOwner owner).2
  | .releaseOwner owner => (subscriptions.dropOwner owner).2
  | .stopAll => []

theorem changed_by_counted (subscriptions : Subscriptions) (call : RegistryCall) (counted : subscriptions.Counted) :
    (subscriptions.changedBy call).Counted := by
  cases call with
  | subscribe owner symbols interval =>
      exact (Subscriptions.add_all _ owner _ (subscriptions.drop_counted owner counted)).1
  | releaseOwner owner => exact subscriptions.drop_counted owner counted
  | stopAll => exact Subscriptions.nil_counted

theorem changed_by_holds (subscriptions : Subscriptions) (call : RegistryCall) (counted : subscriptions.Counted)
    (owner : String) (held : List StreamKey) (key : StreamKey)
    (holds : ∀ key, subscriptions.Holds owner key ↔ key ∈ held) :
    (subscriptions.changedBy call).Holds owner key ↔ key ∈ call.keysOf owner held := by
  cases call with
  | subscribe subscriber symbols interval =>
      rw [Subscriptions.changedBy, (Subscriptions.add_all _ subscriber _ (subscriptions.drop_counted subscriber counted)).2,
        subscriptions.drop_holds_iff, RegistryCall.keysOf, holds]
      split_ifs with same
      · simp [same]
      · simp [Ne.symm same]
  | releaseOwner released =>
      rw [Subscriptions.changedBy, subscriptions.drop_holds_iff, RegistryCall.keysOf, holds]
      split_ifs with same
      · simp [same]
      · simp [Ne.symm same]
  | stopAll => simp [Subscriptions.changedBy, Subscriptions.Holds, RegistryCall.keysOf]

namespace BinanceWebsocketService

theorem running_with_registry (service : BinanceWebsocketService) (subscriptions : Subscriptions)
    (running : service.Running) : Running { service with subscriptions } :=
  ⟨running.token, running.handle, running.current, running.numbered, running.cancelled⟩

structure Consistent (service : BinanceWebsocketService) : Prop where
  counted : service.subscriptions.Counted
  active : service.activeKeys = service.subscriptions.keys.toFinset
  running : service.Running

theorem start_consistent : start.Consistent where
  counted := Subscriptions.nil_counted
  active := rfl
  running := ⟨rfl, by simp [start], by simp [start], by simp [start], by simp [start]⟩

theorem drop_nothing (subscriptions : Subscriptions) (owner : String) (none : (subscriptions.dropOwner owner).1 = false) :
    (subscriptions.dropOwner owner).2 = subscriptions := by
  simp only [Subscriptions.dropOwner, List.any_eq_false, decide_eq_true_eq] at none ⊢
  refine (List.filterMap_congr fun entry listed => ?_).trans List.filterMap_some
  rw [if_neg (none entry listed)]

theorem call_applies (service : BinanceWebsocketService) (call : RegistryCall) (consistent : service.Consistent) :
    (service.call call).2 = { service with subscriptions := service.subscriptions.changedBy call }.applyActiveSet := by
  cases call with
  | subscribe owner symbols interval =>
      simp only [BinanceWebsocketService.call, subscribe, Subscriptions.changedBy, List.foldl_map]
  | stopAll => rfl
  | releaseOwner owner =>
      simp only [BinanceWebsocketService.call, releaseOwner, Subscriptions.changedBy]
      split_ifs with hadAny
      · rfl
      · rw [drop_nothing service.subscriptions owner (by simpa using hadAny)]
        exact (service.apply_same consistent.active.symm).symm

theorem call_cases (service : BinanceWebsocketService) (call : RegistryCall) (consistent : service.Consistent) :
    (service.call call).2.Consistent ∧
      (service.call call).2.subscriptions = service.subscriptions.changedBy call ∧
      ((service.call call).2.subscriptions.keys.toFinset = service.subscriptions.keys.toFinset →
        service.Untouched (service.call call).2) ∧
      ((service.call call).2.subscriptions.keys.toFinset ≠ service.subscriptions.keys.toFinset →
        service.Replaced (service.call call).2) := by
  let changed : BinanceWebsocketService := { service with subscriptions := service.subscriptions.changedBy call }
  have running : changed.Running := service.running_with_registry _ consistent.running
  have counted : changed.subscriptions.Counted := changed_by_counted service.subscriptions call consistent.counted
  have applied : (service.call call).2 = changed.applyActiveSet := service.call_applies call consistent
  have active : changed.activeKeys = service.subscriptions.keys.toFinset := consistent.active
  rw [applied]
  by_cases same : changed.subscriptions.keys.toFinset = changed.activeKeys
  · rw [changed.apply_same same]
    exact ⟨⟨counted, same.symm, running⟩, rfl, fun _ => ⟨rfl, rfl, rfl, rfl, rfl⟩, fun different => absurd (same.trans active) different⟩
  · obtain ⟨replaced, kept, nowActive, _⟩ := changed.apply_changed running same
    rw [kept]
    refine ⟨⟨kept ▸ counted, by rw [nowActive, kept], changed.apply_running running⟩, rfl,
      fun unchanged => absurd (unchanged.trans active.symm) same, fun _ => ?_⟩
    exact ⟨replaced.handle, replaced.tasks, replaced.cancelledTasks, replaced.cancelledTokens⟩

theorem call_spawns (service : BinanceWebsocketService) (call : RegistryCall) (consistent : service.Consistent) :
    (∃ spawned, (service.call call).2.tasks = service.tasks ++ spawned) ∧
      ∀ handle ∈ (service.call call).2.taskHandle, handle ∈ service.taskHandle ∨ handle = service.tasks.length := by
  obtain ⟨_, _, untouched, replaced⟩ := service.call_cases call consistent
  by_cases same : (service.call call).2.subscriptions.keys.toFinset = service.subscriptions.keys.toFinset
  · obtain ⟨handle, _, tasks, _⟩ := untouched same
    exact ⟨⟨[], by rw [tasks, List.append_nil]⟩, fun other isHandle => .inl (handle ▸ isHandle)⟩
  · refine ⟨⟨_, (replaced same).tasks⟩, fun handle isHandle => .inr ?_⟩
    rw [(replaced same).handle] at isHandle
    split_ifs at isHandle
    · cases isHandle
    · cases isHandle
      rfl

theorem after_consistent (service : BinanceWebsocketService) (calls : List RegistryCall) (consistent : service.Consistent) :
    (service.after calls).Consistent := by
  induction calls generalizing service with
  | nil => exact consistent
  | cons call rest ih => exact ih (service.call call).2 (service.call_cases call consistent).1

theorem after_holds (service : BinanceWebsocketService) (calls : List RegistryCall) (consistent : service.Consistent)
    (owner : String) (held : List StreamKey) (holds : ∀ key, service.subscriptions.Holds owner key ↔ key ∈ held)
    (key : StreamKey) :
    (service.after calls).subscriptions.Holds owner key ↔ key ∈ calls.foldl (RegistryCall.keysOf owner) held := by
  induction calls generalizing service held with
  | nil => exact holds key
  | cons call rest ih =>
      obtain ⟨next, kept, _⟩ := service.call_cases call consistent
      refine ih (service.call call).2 next (call.keysOf owner held) fun other => ?_
      rw [kept]
      exact changed_by_holds service.subscriptions call consistent.counted owner held other holds

theorem replaced_touches (before after : BinanceWebsocketService) (running : before.Running) (replaced : before.Replaced after)
    (changed : after.subscriptions.keys.toFinset ≠ before.activeKeys) : ¬before.Untouched after := by
  rintro ⟨handle, _, tasks, _⟩
  by_cases empty : after.subscriptions = []
  · have stopped := replaced.handle
    rw [if_pos empty, handle] at stopped
    have idle : before.activeKeys = ∅ := by
      by_contra some
      have runs := running.handle.mpr some
      rw [stopped] at runs
      cases runs
    exact changed (((keys_empty_iff _).mpr empty).trans idle.symm)
  · have spawned := replaced.tasks
    rw [if_neg empty, tasks] at spawned
    simpa using congrArg List.length spawned

end BinanceWebsocketService

-- After every sequence of calls, and for every call made next.
theorem subscription_registry_consistent (calls : List RegistryCall) :
    let service := BinanceWebsocketService.start.after calls
    (service.subscriptions.keys.Nodup ∧ ∀ key owners, (key, owners) ∈ service.subscriptions → owners.Nonempty) ∧
      (∀ owner key, service.subscriptions.Holds owner key ↔ key ∈ latestKeys owner calls) ∧
      service.activeKeys = service.subscriptions.keys.toFinset ∧
      (service.taskHandle.isSome = true ↔ service.activeKeys ≠ ∅) ∧
      ∀ call : RegistryCall,
        let next := (service.call call).2
        (¬service.Untouched next ↔ next.subscriptions.keys.toFinset ≠ service.subscriptions.keys.toFinset) ∧
          (next.subscriptions.keys.toFinset ≠ service.subscriptions.keys.toFinset → service.Replaced next) := by
  intro service
  have consistent : service.Consistent :=
    BinanceWebsocketService.start.after_consistent calls BinanceWebsocketService.start_consistent
  refine ⟨⟨consistent.counted.distinct, consistent.counted.held⟩, fun owner key => ?_, consistent.active,
    consistent.running.handle, fun call => ?_⟩
  · exact BinanceWebsocketService.start.after_holds calls BinanceWebsocketService.start_consistent owner []
      (by simp [BinanceWebsocketService.start, Subscriptions.Holds]) key
  · obtain ⟨_, _, untouched, replaced⟩ := service.call_cases call consistent
    refine ⟨⟨fun touched same => touched (untouched same), fun changed => ?_⟩, replaced⟩
    exact service.replaced_touches _ consistent.running (replaced changed) (consistent.active ▸ changed)

example :
    (BinanceWebsocketService.start.after
      [.subscribe "chart" ["ETHUSDT", "BTCUSDT"] .oneMinute, .subscribe "live" ["BTCUSDT"] .oneMinute,
        .releaseOwner "chart"]).tasks =
      [{ keys := [("BTCUSDT", "1m"), ("ETHUSDT", "1m")], token := 0 }, { keys := [("BTCUSDT", "1m")], token := 1 }] := by
  decide +kernel

end Sagittarius
