import Mathlib.Data.List.Induction
import Mathlib.Data.List.SplitBy
import Mathlib.Order.Bounds.Defs

set_option autoImplicit false

-- Maximal runs of consecutive items with the same key, built from the left:
-- an item starts a group of its own or extends the last one.
namespace Runs

variable {τ κ : Type}

abbrev Group (τ : Type) := τ × List τ

def Group.members (group : Group τ) : List τ := group.1 :: group.2

structure Partitions (key : τ → κ) (apart : κ → κ → Prop) (items : List τ) (groups : List (Group τ)) : Prop where
  covers : items = groups.flatMap Group.members
  uniform : ∀ group ∈ groups, ∀ item ∈ group.members, key item = key group.1
  separated : groups.IsChain fun a b => apart (key a.1) (key b.1)

variable (key : τ → κ) (apart : κ → κ → Prop)

theorem partitions_nil : Partitions key apart [] [] := ⟨rfl, by simp, .nil⟩

theorem partitions_start (items : List τ) (groups : List (Group τ)) (item : τ)
    (partitions : Partitions key apart items groups)
    (later : ∀ last ∈ groups.getLast?, apart (key last.1) (key item)) :
    Partitions key apart (items ++ [item]) (groups ++ [(item, [])]) where
  covers := by simp [partitions.covers, Group.members]
  uniform := by
    intro group member
    rcases List.mem_append.mp member with earlier | new
    · exact partitions.uniform group earlier
    · simp [List.mem_singleton.mp new, Group.members]
  separated := by
    refine List.isChain_append.mpr ⟨partitions.separated, .singleton _, fun last isLast first isFirst => ?_⟩
    cases isFirst
    exact later last isLast

theorem partitions_extend (items : List τ) (groups : List (Group τ)) (first : τ) (rest : List τ) (item : τ)
    (partitions : Partitions key apart items (groups ++ [(first, rest)])) (same : key item = key first) :
    Partitions key apart (items ++ [item]) (groups ++ [(first, rest ++ [item])]) where
  covers := by simp [partitions.covers, Group.members]
  uniform := by
    intro group member
    rcases List.mem_append.mp member with earlier | last
    · exact partitions.uniform group (List.mem_append_left _ earlier)
    · cases List.mem_singleton.mp last
      intro held isMember
      have before := partitions.uniform (first, rest) (by simp)
      simp only [Group.members, List.mem_cons, List.mem_append, List.not_mem_nil, or_false] at isMember
      simp only [Group.members, List.mem_cons] at before
      rcases isMember with isFirst | inRest | isItem
      · exact before held (.inl isFirst)
      · exact before held (.inr inRest)
      · exact isItem ▸ same
  separated := by
    obtain ⟨chain, _, boundary⟩ := List.isChain_append.mp partitions.separated
    refine List.isChain_append.mpr ⟨chain, .singleton _, fun last isLast next isNext => ?_⟩
    cases isNext
    exact boundary last isLast (first, rest) rfl

theorem partitions_last (items : List τ) (groups : List (Group τ)) (group : Group τ)
    (partitions : Partitions key apart items groups) (isLast : groups.getLast? = some group) :
    ∃ last, items.getLast? = some last ∧ key last = key group.1 := by
  have split : groups = groups.dropLast ++ [group] := (List.dropLast_append_getLast? group isLast).symm
  have held : group.members ≠ [] := by simp [Group.members]
  refine ⟨group.members.getLast held, ?_, ?_⟩
  · rw [partitions.covers, split, List.flatMap_append, List.flatMap_singleton, List.getLast?_append_of_ne_nil _ held,
      List.getLast?_eq_some_getLast held]
  · exact partitions.uniform group (List.mem_of_getLast? isLast) _ (List.getLast_mem held)

theorem partitions_split_by [DecidableEq κ] (items : List τ) (groups : List (Group τ))
    (partitions : Partitions key apart items groups) (distinct : ∀ a b, apart a b → a ≠ b) :
    items.splitBy (fun a b => key a = key b) = groups.map Group.members := by
  refine List.splitBy_eq_iff.mpr ⟨by rw [partitions.covers, List.flatMap], ?_, ?_, ?_⟩
  · simp [Group.members]
  · intro members member
    obtain ⟨group, held, rfl⟩ := List.mem_map.mp member
    refine List.Pairwise.isChain ?_
    refine List.Pairwise.imp_of_mem (R := fun _ _ => True) ?_ (List.pairwise_of_forall (fun _ _ => trivial))
    intro a b aMember bMember _
    simp [partitions.uniform group held a aMember, partitions.uniform group held b bMember]
  · refine (List.isChain_map _).mpr (partitions.separated.imp_of_mem_imp ?_)
    intro a b aMember bMember boundary
    refine ⟨by simp [Group.members], by simp [Group.members], decide_eq_false ?_⟩
    rw [partitions.uniform a aMember _ (List.getLast_mem (by simp [Group.members]))]
    exact distinct _ _ boundary

structure Maximal (keys : List κ) (held : κ) (first last : ℕ) : Prop where
  ordered : first ≤ last
  uniform : ∀ place, first ≤ place → place ≤ last → keys[place]? = some held
  starts : ∀ before, before + 1 = first → keys[before]? ≠ some held
  stops : keys[last + 1]? ≠ some held

section

variable (keys : List κ) (held added : κ) (first last : ℕ)

theorem maximal_last_lt (maximal : Maximal keys held first last) : last < keys.length :=
  (List.getElem?_eq_some_iff.mp (maximal.uniform last maximal.ordered (Nat.le_refl last))).1

theorem maximal_apart (other : κ) (next stop : ℕ) (maximal : Maximal keys held first last)
    (later : Maximal keys other next stop) (past : last < stop) : last < next := by
  refine Nat.lt_of_not_le fun shared => ?_
  have atLast := maximal.uniform last maximal.ordered (Nat.le_refl last)
  rw [later.uniform last shared (Nat.le_of_lt past)] at atLast
  apply maximal.stops
  rw [later.uniform (last + 1) (Nat.le_succ_of_le shared) past, atLast]

theorem maximal_unique (other : κ) (next : ℕ) (maximal : Maximal keys held first last)
    (same : Maximal keys other next last) : held = other ∧ first = next := by
  have atLast := maximal.uniform last maximal.ordered (Nat.le_refl last)
  rw [same.uniform last same.ordered (Nat.le_refl last)] at atLast
  cases atLast
  refine ⟨rfl, ?_⟩
  have ordered := maximal.ordered
  have otherOrdered := same.ordered
  rcases Nat.lt_trichotomy first next with before | equal | after
  · exact absurd (maximal.uniform (next - 1) (by omega) (by omega)) (same.starts (next - 1) (by omega))
  · exact equal
  · exact absurd (same.uniform (first - 1) (by omega) (by omega)) (maximal.starts (first - 1) (by omega))

theorem maximal_append (inside : last < keys.length) :
    Maximal (keys ++ [added]) held first last ↔ Maximal keys held first last ∧ (last + 1 = keys.length → added ≠ held) := by
  have kept (place : ℕ) (early : place < keys.length) : (keys ++ [added])[place]? = keys[place]? :=
    List.getElem?_append_left early
  constructor
  · intro maximal
    have ordered := maximal.ordered
    refine ⟨⟨ordered, fun place fromFirst toLast => ?_, fun before isBefore => ?_, fun continues => ?_⟩, fun ends same => ?_⟩
    · rw [← kept place (by omega)]
      exact maximal.uniform place fromFirst toLast
    · rw [← kept before (by omega)]
      exact maximal.starts before isBefore
    · have early := (List.getElem?_eq_some_iff.mp continues).1
      exact maximal.stops ((kept _ early).trans continues)
    · apply maximal.stops
      rw [ends, same, List.getElem?_concat_length]
  · rintro ⟨maximal, different⟩
    have ordered := maximal.ordered
    refine ⟨ordered, fun place fromFirst toLast => ?_, fun before isBefore => ?_, ?_⟩
    · rw [kept place (by omega)]
      exact maximal.uniform place fromFirst toLast
    · rw [kept before (by omega)]
      exact maximal.starts before isBefore
    · by_cases ends : last + 1 = keys.length
      · rw [ends, List.getElem?_concat_length, ne_eq, Option.some.injEq]
        exact different ends
      · rw [kept (last + 1) (by omega)]
        exact maximal.stops

theorem maximal_extend (maximal : Maximal keys held first last) (ends : last + 1 = keys.length) :
    Maximal (keys ++ [held]) held first (last + 1) where
  ordered := Nat.le_succ_of_le maximal.ordered
  uniform := by
    intro place fromFirst toLast
    by_cases new : place = keys.length
    · rw [new, List.getElem?_concat_length]
    · rw [List.getElem?_append_left (by omega)]
      exact maximal.uniform place fromFirst (by omega)
  starts := by
    intro before isBefore
    have ordered := maximal.ordered
    rw [List.getElem?_append_left (by omega)]
    exact maximal.starts before isBefore
  stops := by
    rw [List.getElem?_eq_none (by rw [List.length_append, List.length_singleton]; omega)]
    exact (Option.some_ne_none held).symm

theorem maximal_start (fresh : ∀ before, before + 1 = keys.length → keys[before]? ≠ some held) :
    Maximal (keys ++ [held]) held keys.length keys.length where
  ordered := Nat.le_refl _
  uniform := by
    intro place fromFirst toLast
    rw [Nat.le_antisymm toLast fromFirst, List.getElem?_concat_length]
  starts := by
    intro before isBefore
    rw [List.getElem?_append_left (by omega)]
    exact fresh before isBefore
  stops := by
    rw [List.getElem?_eq_none (by rw [List.length_append, List.length_singleton])]
    exact (Option.some_ne_none held).symm

end

section

variable (holds : τ → Prop) [DecidablePred holds]

-- One pass that counts the items since the last one that fails, and the most
-- there ever were.
def streak (state : ℕ × ℕ) (item : τ) : ℕ × ℕ :=
  let current := if holds item then state.1 + 1 else 0
  (current, max state.2 current)

theorem streak_of_holding (run : List τ) (state : ℕ × ℕ) (all : ∀ item ∈ run, holds item) :
    (run.foldl (streak holds) state).1 = state.1 + run.length := by
  induction run generalizing state with
  | nil => rfl
  | cons item rest ih =>
      rw [List.foldl_cons, ih _ fun other listed => all other (List.mem_cons_of_mem _ listed), streak,
        if_pos (all item List.mem_cons_self), List.length_cons, Nat.add_assoc, Nat.add_comm 1]

theorem streak_most_le (items : List τ) (state : ℕ × ℕ) : state.2 ≤ (items.foldl (streak holds) state).2 := by
  induction items generalizing state with
  | nil => exact Nat.le_refl _
  | cons item rest ih => exact (Nat.le_max_left _ _).trans (ih (streak holds state item))

theorem streak_current_le (items : List τ) (state : ℕ × ℕ) (kept : state.1 ≤ state.2) :
    (items.foldl (streak holds) state).1 ≤ (items.foldl (streak holds) state).2 := by
  induction items generalizing state with
  | nil => exact kept
  | cons item rest ih => exact ih _ (Nat.le_max_right _ _)

theorem streak_found (items : List τ) :
    (∃ run, run <:+ items ∧ (∀ item ∈ run, holds item) ∧ run.length = (items.foldl (streak holds) (0, 0)).1) ∧
      ∃ run, run <:+: items ∧ (∀ item ∈ run, holds item) ∧ run.length = (items.foldl (streak holds) (0, 0)).2 := by
  induction items using List.reverseRecOn with
  | nil => exact ⟨⟨[], List.suffix_rfl, by simp, rfl⟩, [], List.infix_rfl, by simp, rfl⟩
  | append_singleton done item ih =>
      obtain ⟨⟨current, atEnd, currentHolds, currentLength⟩, longest, inside, longestHolds, longestLength⟩ := ih
      rw [List.foldl_append, List.foldl_cons, List.foldl_nil]
      have continued : ∃ run, run <:+ done ++ [item] ∧ (∀ other ∈ run, holds other) ∧
          run.length = (streak holds (done.foldl (streak holds) (0, 0)) item).1 := by
        by_cases held : holds item
        · obtain ⟨before, rfl⟩ := atEnd
          refine ⟨current ++ [item], ⟨before, by simp⟩, fun other listed => ?_, ?_⟩
          · rcases List.mem_append.mp listed with earlier | last
            · exact currentHolds other earlier
            · rw [List.mem_singleton.mp last]
              exact held
          · simp [streak, held, currentLength]
        · exact ⟨[], List.nil_suffix, by simp, by simp [streak, held]⟩
      refine ⟨continued, ?_⟩
      rcases Nat.le_total (streak holds (done.foldl (streak holds) (0, 0)) item).1
        (done.foldl (streak holds) (0, 0)).2 with fewer | more
      · exact ⟨longest, inside.trans (List.prefix_append done [item]).isInfix, longestHolds,
          longestLength.trans (Nat.max_eq_left fewer).symm⟩
      · obtain ⟨run, suffix, runHolds, runLength⟩ := continued
        exact ⟨run, suffix.isInfix, runHolds, runLength.trans (Nat.max_eq_right more).symm⟩

theorem streak_longest (items : List τ) :
    IsGreatest { length | ∃ run, run <:+: items ∧ (∀ item ∈ run, holds item) ∧ run.length = length }
      (items.foldl (streak holds) (0, 0)).2 := by
  refine ⟨(streak_found holds items).2, ?_⟩
  rintro _ ⟨run, ⟨before, after, rfl⟩, all, rfl⟩
  rw [List.foldl_append, List.foldl_append]
  refine le_trans ?_ (streak_most_le holds after _)
  refine le_trans ?_ (streak_current_le holds run _ (streak_current_le holds before (0, 0) (Nat.le_refl 0)))
  rw [streak_of_holding holds run _ all]
  exact Nat.le_add_left _ _

end

end Runs
