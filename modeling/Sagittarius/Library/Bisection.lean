import Mathlib.Data.List.Basic
import Mathlib.Order.Basic

set_option autoImplicit false

-- Searching by halving for the place where a property stops, and what the
-- places of two properties have between them.
namespace Bisecting

def search (before : ℕ → Bool) (lo hi : ℕ) : ℕ :=
  if lo < hi then
    if before ((lo + hi) / 2) then search before ((lo + hi) / 2 + 1) hi else search before lo ((lo + hi) / 2)
  else lo
termination_by hi - lo

theorem search_bounds (before : ℕ → Bool) (lo hi : ℕ) (ordered : lo ≤ hi) :
    lo ≤ search before lo hi ∧ search before lo hi ≤ hi := by
  induction lo, hi using search.induct before with
  | case1 lo hi less isBefore ih =>
      rw [search, if_pos less, if_pos isBefore]
      have bounds := ih (by omega)
      omega
  | case2 lo hi less notBefore ih =>
      rw [search, if_pos less, if_neg notBefore]
      have bounds := ih (by omega)
      omega
  | case3 lo hi notLess =>
      rw [search, if_neg notLess]
      omega

theorem search_splits (before : ℕ → Bool) (down : ∀ i j, i ≤ j → before j = true → before i = true) (lo hi : ℕ) :
    (∀ i, lo ≤ i → i < search before lo hi → before i = true) ∧
      ∀ i, search before lo hi ≤ i → i < hi → before i = false := by
  induction lo, hi using search.induct before with
  | case1 lo hi less isBefore ih =>
      rw [search, if_pos less, if_pos isBefore]
      refine ⟨fun i from_lo found => ?_, ih.2⟩
      by_cases upper : (lo + hi) / 2 + 1 ≤ i
      · exact ih.1 i upper found
      · exact down i _ (by omega) isBefore
  | case2 lo hi less notBefore ih =>
      rw [search, if_pos less, if_neg notBefore]
      refine ⟨ih.1, fun i from_found under => ?_⟩
      by_cases lower : i < (lo + hi) / 2
      · exact ih.2 i from_found lower
      · exact eq_false_of_ne_true fun isBefore => notBefore (down _ i (by omega) isBefore)
  | case3 lo hi notLess =>
      rw [search, if_neg notLess]
      exact ⟨fun i from_lo found => by omega, fun i from_lo under => by omega⟩

section Values

variable {τ : Type} (before : τ → Bool) (values : List τ)

def insertionPoint : ℕ := search (fun i => values[i]?.any before) 0 values.length

theorem insertion_point_le : insertionPoint before values ≤ values.length :=
  (search_bounds _ 0 values.length (Nat.zero_le _)).2

def StopsOnce : Prop := values.Pairwise fun first second => before second = true → before first = true

theorem insertion_point_splits (stops : StopsOnce before values) (i : ℕ) (value : τ) (listed : values[i]? = some value) :
    before value = true ↔ i < insertionPoint before values := by
  have down : ∀ i j : ℕ, i ≤ j → values[j]?.any before = true → values[i]?.any before = true := by
    intro i j ordered isBefore
    obtain ⟨later, isLater, laterBefore⟩ := (Option.any_eq_true before values[j]?).mp isBefore
    obtain ⟨inside, rfl⟩ := List.getElem?_eq_some_iff.mp isLater
    have within : i < values.length := by omega
    rw [List.getElem?_eq_getElem within, Option.any_some]
    by_cases same : i = j
    · subst same
      exact laterBefore
    · exact List.pairwise_iff_getElem.mp stops i j within inside (by omega) laterBefore
  have splits := search_splits (fun i => values[i]?.any before) down 0 values.length
  obtain ⟨inside, rfl⟩ := List.getElem?_eq_some_iff.mp listed
  constructor
  · intro isBefore
    by_contra late
    have notBefore := splits.2 i (Nat.not_lt.mp late) inside
    rw [listed, Option.any_some, isBefore] at notBefore
    cases notBefore
  · intro early
    have isBefore := splits.1 i (Nat.zero_le i) early
    rwa [listed, Option.any_some] at isBefore

-- `values[lo:hi]`
def slice (lo hi : ℕ) (values : List τ) : List τ := (values.take hi).drop lo

theorem take_filter (place : ℕ) (splits : ∀ i value, values[i]? = some value → (before value = true ↔ i < place)) :
    values.take place = values.filter before ∧ values.drop place = values.filter fun value => !before value := by
  induction values generalizing place with
  | nil => simp
  | cons first rest ih =>
      have head := splits 0 first rfl
      have tail := fun i value listed => splits (i + 1) value listed
      cases place with
      | zero =>
          have notFirst : ¬ before first = true := fun isBefore => absurd (head.mp isBefore) (Nat.not_lt_zero 0)
          have none : ∀ value ∈ rest, ¬ before value = true := by
            intro value inside isBefore
            obtain ⟨i, listed⟩ := List.mem_iff_getElem?.mp inside
            exact absurd ((tail i value listed).mp isBefore) (Nat.not_lt_zero _)
          refine ⟨?_, ?_⟩
          · rw [List.take_zero, List.filter_cons_of_neg notFirst, List.filter_eq_nil_iff.mpr none]
          · refine (List.filter_eq_self.mpr fun value inside => ?_).symm
            cases List.mem_cons.mp inside with
            | inl same => simpa [same] using notFirst
            | inr later => simpa using none value later
      | succ place =>
          have isFirst : before first = true := head.mpr (Nat.succ_pos place)
          obtain ⟨taken, dropped⟩ := ih place fun i value listed => (tail i value listed).trans Nat.succ_lt_succ_iff
          simp [isFirst, taken, dropped]

end Values

-- What lies between the places of two properties has the second and not the
-- first.
theorem slice_filter {τ : Type} (under within : τ → Bool) (values : List τ) (underStops : StopsOnce under values)
    (withinStops : StopsOnce within values) :
    slice (insertionPoint under values) (insertionPoint within values) values =
      values.filter fun value => !under value && within value := by
  have kept := (take_filter within values _ (insertion_point_splits within values withinStops)).1
  have cut := (take_filter under (values.take (insertionPoint within values)) (insertionPoint under values)
    fun i value listed => ?_).2
  · rw [slice, cut, kept, List.filter_filter]
  · rw [List.getElem?_take] at listed
    split at listed
    · exact insertion_point_splits under values underStops i value listed
    · cases listed

end Bisecting
