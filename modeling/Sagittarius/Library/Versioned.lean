import Mathlib.Data.List.Basic

set_option autoImplicit false

-- Optimistic concurrency: a party reads the version of a shared state and
-- later applies its change on the condition that the version is still the one
-- it read. The version counts the mutations, and a log lists the newest first.
namespace Versioned

variable {μ : Type}

inductive Event (μ : Type)
  | read (party version : ℕ)
  | applied (party : ℕ)
  | superseded (party : ℕ)
  | mutated (mutation : μ)
deriving DecidableEq

def Event.mutates : Event μ → Bool
  | .applied _ => true
  | .mutated _ => true
  | .read _ _ => false
  | .superseded _ => false

def version (log : List (Event μ)) : ℕ := log.countP Event.mutates

theorem version_cons (log : List (Event μ)) (event : Event μ) :
    version (event :: log) = version log + if event.mutates then 1 else 0 := List.countP_cons

theorem version_applied (log : List (Event μ)) (party : ℕ) : version (.applied party :: log) = version log + 1 :=
  version_cons log (.applied party)

theorem version_append (newer older : List (Event μ)) : version (newer ++ older) = version newer + version older :=
  List.countP_append

structure Consistent (log : List (Event μ)) : Prop where
  current : ∀ newer older party seen, log = newer ++ .read party seen :: older → seen = version older
  once : ∀ newer older party seen, log = newer ++ .read party seen :: older → ∀ again, .read party again ∉ older
  matched : ∀ newer older party, log = newer ++ .applied party :: older → .read party (version older) ∈ older

theorem consistent_nil : Consistent ([] : List (Event μ)) where
  current := by
    intro newer older party seen split
    cases newer <;> cases split
  once := by
    intro newer older party seen split
    cases newer <;> cases split
  matched := by
    intro newer older party split
    cases newer <;> cases split

theorem consistent_cons (log : List (Event μ)) (event : Event μ) (consistent : Consistent log)
    (reads : ∀ party seen, event = .read party seen → seen = version log ∧ ∀ again, .read party again ∉ log)
    (applies : ∀ party, event = .applied party → .read party (version log) ∈ log) : Consistent (event :: log) where
  current := by
    intro newer older party seen split
    cases newer with
    | nil =>
        cases split
        exact (reads party seen rfl).1
    | cons head tail =>
        cases split
        exact consistent.current tail older party seen rfl
  once := by
    intro newer older party seen split
    cases newer with
    | nil =>
        cases split
        exact (reads party seen rfl).2
    | cons head tail =>
        cases split
        exact consistent.once tail older party seen rfl
  matched := by
    intro newer older party split
    cases newer with
    | nil =>
        cases split
        exact applies party rfl
    | cons head tail =>
        cases split
        exact consistent.matched tail older party rfl

variable {log : List (Event μ)}

theorem read_unique (consistent : Consistent log) (party first second : ℕ) (readFirst : .read party first ∈ log)
    (readSecond : .read party second ∈ log) : first = second := by
  obtain ⟨newer, older, split⟩ := List.append_of_mem readFirst
  rw [split] at readSecond
  rcases List.mem_append.mp readSecond with later | rest
  · obtain ⟨newest, between, newerSplit⟩ := List.append_of_mem later
    exact absurd (by simp) (consistent.once newest (between ++ .read party first :: older) party second
      (by simp [split, newerSplit]) first)
  · rcases List.mem_cons.mp rest with same | earlier
    · cases same
      rfl
    · exact absurd earlier (consistent.once newer older party first split second)

-- Between the read and the change that applies, nothing has mutated the state.
theorem applied_window_quiet (consistent : Consistent log) (newest past : List (Event μ)) (party : ℕ)
    (split : log = newest ++ .applied party :: past) :
    ∃ newer older, past = newer ++ .read party (version older) :: older ∧ ∀ event ∈ newer, event.mutates = false := by
  have matched := consistent.matched newest past party split
  generalize counted : version past = seen at matched
  obtain ⟨newer, older, rfl⟩ := List.append_of_mem matched
  have current : seen = version older :=
    consistent.current (newest ++ .applied party :: newer) older party seen (by simp [split])
  rw [version_append, version_cons] at counted
  have quiet : version newer = 0 := by
    simp only [Event.mutates] at counted
    omega
  refine ⟨newer, older, by rw [current], fun event member => ?_⟩
  simpa using List.countP_eq_zero.mp quiet event member

theorem mutated_window_supersedes (consistent : Consistent log) (newest newer older : List (Event μ)) (party seen : ℕ)
    (mutation : Event μ) (mutates : mutation.mutates = true) (read : .read party seen ∈ older) :
    log ≠ newest ++ .applied party :: (newer ++ mutation :: older) := by
  intro split
  obtain ⟨between, oldest, pastSplit, quiet⟩ := applied_window_quiet consistent newest _ party split
  have reread : ∀ again, .read party again ∉ oldest := consistent.once (newest ++ .applied party :: between) oldest party
    (version oldest) (by simp [split, pastSplit])
  rcases List.append_eq_append_iff.mp pastSplit with ⟨later, inside, rest⟩ | ⟨later, inside, rest⟩
  · cases later with
    | nil =>
        cases rest
        cases mutates
    | cons head tail =>
        cases rest
        have silent := quiet mutation (by rw [inside]; simp)
        rw [silent] at mutates
        cases mutates
  · cases later with
    | nil =>
        cases rest
        cases mutates
    | cons head tail =>
        cases rest
        exact reread seen (by simp [read])

theorem version_applies_once (consistent : Consistent log) (first second seen : ℕ) (readFirst : .read first seen ∈ log)
    (readSecond : .read second seen ∈ log) (appliedFirst : .applied first ∈ log) (appliedSecond : .applied second ∈ log) :
    first = second := by
  have appliesAt : ∀ party, .read party seen ∈ log → ∀ newer older, log = newer ++ .applied party :: older →
      version older = seen := by
    intro party read newer older split
    have matched := consistent.matched newer older party split
    exact read_unique consistent party _ _ (by rw [split]; simp [matched]) read
  obtain ⟨newer, older, split⟩ := List.append_of_mem appliedFirst
  have atFirst := appliesAt first readFirst newer older split
  rw [split] at appliedSecond
  rcases List.mem_append.mp appliedSecond with later | rest
  · obtain ⟨newest, between, newerSplit⟩ := List.append_of_mem later
    have atSecond := appliesAt second readSecond newest (between ++ .applied first :: older) (by simp [split, newerSplit])
    rw [version_append, version_applied] at atSecond
    omega
  · rcases List.mem_cons.mp rest with same | earlier
    · cases same
      rfl
    · obtain ⟨between, oldest, olderSplit⟩ := List.append_of_mem earlier
      have atSecond := appliesAt second readSecond (newer ++ .applied first :: between) oldest (by simp [split, olderSplit])
      rw [olderSplit, version_append, version_applied] at atFirst
      omega

end Versioned
