import Mathlib.Algebra.Order.Group.Nat
import Mathlib.Data.List.Basic
import Mathlib.Data.List.Induction
import Mathlib.Logic.Function.Iterate
import Mathlib.Tactic.Ring
import Sagittarius.Library.Bisection
import Sagittarius.Library.Python

set_option autoImplicit false

-- A sequence summed up at ever coarser levels: each level holds one aggregate
-- for two neighbours of the level under it, up to the level of one.
namespace Pyramids

variable {τ : Type} (aggregate : List τ → τ)

def halve : List τ → List τ
  | [] => []
  | [last] => [aggregate [last]]
  | first :: second :: rest => aggregate [first, second] :: halve rest

theorem halve_length (level : List τ) : (halve aggregate level).length = (level.length + 1) / 2 := by
  induction level using halve.induct with
  | case1 => simp [halve]
  | case2 last => simp [halve]
  | case3 first second rest ih =>
      rw [halve, List.length_cons, ih, List.length_cons, List.length_cons]
      omega

def climb (level : List τ) : List (List τ) :=
  if level.length ≤ 1 then [level] else level :: climb (halve aggregate level)
termination_by level.length
decreasing_by
  rw [halve_length]
  omega

theorem climb_top (level : List τ) (short : level.length ≤ 1) : climb aggregate level = [level] := by
  rw [climb, if_pos short]

theorem climb_on (level : List τ) (long : ¬ level.length ≤ 1) :
    climb aggregate level = level :: climb aggregate (halve aggregate level) := by
  rw [climb, if_neg long]

theorem climb_ne_nil (level : List τ) : climb aggregate level ≠ [] := by
  by_cases short : level.length ≤ 1
  · rw [climb_top aggregate level short]
    exact List.cons_ne_nil _ _
  · rw [climb_on aggregate level short]
    exact List.cons_ne_nil _ _

theorem climb_level (level : List τ) (number : ℕ) (found : List τ)
    (listed : (climb aggregate level)[number]? = some found) : found = (halve aggregate)^[number] level := by
  induction level using climb.induct aggregate generalizing number with
  | case1 level short =>
      rw [climb_top aggregate level short] at listed
      cases number with
      | zero => exact (Option.some.inj listed).symm
      | succ number => cases listed
  | case2 level long ih =>
      rw [climb_on aggregate level long] at listed
      cases number with
      | zero => exact (Option.some.inj listed).symm
      | succ number => exact ih number listed

theorem climb_last (level : List τ) (found : List τ)
    (listed : (climb aggregate level)[(climb aggregate level).length - 1]? = some found) : found.length ≤ 1 := by
  induction level using climb.induct aggregate with
  | case1 level short =>
      rw [climb_top aggregate level short] at listed
      obtain rfl := Option.some.inj listed
      exact short
  | case2 level long ih =>
      rw [climb_on aggregate level long] at listed
      have positive := List.length_pos_iff.mpr (climb_ne_nil aggregate (halve aggregate level))
      refine ih ?_
      rw [List.length_cons, Nat.add_sub_cancel, List.getElem?_cons, if_neg (by omega)] at listed
      exact listed

section Buckets

def bucket (number index : ℕ) (data : List τ) : List τ := (data.drop (index * 2 ^ number)).take (2 ^ number)

theorem bucket_two (number index : ℕ) (data : List τ) :
    bucket (number + 1) index data = bucket number (2 * index) data ++ bucket number (2 * index + 1) data := by
  have doubled : 2 ^ (number + 1) = 2 ^ number + 2 ^ number := by rw [pow_succ]; omega
  have start : index * 2 ^ (number + 1) = 2 * index * 2 ^ number := by rw [pow_succ]; ring
  have middle : (2 * index + 1) * 2 ^ number = 2 * index * 2 ^ number + 2 ^ number := by ring
  rw [bucket, bucket, bucket, start, middle, doubled, List.take_add, List.drop_drop]

theorem bucket_empty (number index : ℕ) (data : List τ) : bucket number index data = [] ↔ data.length ≤ index * 2 ^ number := by
  have positive : 2 ^ number ≠ 0 := (Nat.two_pow_pos number).ne'
  rw [bucket, List.take_eq_nil_iff, List.drop_eq_nil_iff]
  exact or_iff_right positive

theorem bucket_sublist (number index : ℕ) (data : List τ) : (bucket number index data).Sublist data :=
  (List.take_sublist _ _).trans (List.drop_sublist _ _)

theorem halve_get (level : List τ) (index : ℕ) :
    (halve aggregate level)[index]? =
      if (level.drop (2 * index)).take 2 = [] then none else some (aggregate ((level.drop (2 * index)).take 2)) := by
  induction level using halve.induct generalizing index with
  | case1 => simp [halve]
  | case2 last =>
      cases index with
      | zero => simp [halve]
      | succ index => simp [halve, Nat.mul_succ]
  | case3 first second rest ih =>
      cases index with
      | zero => simp [halve]
      | succ index => simp [halve, Nat.mul_succ, ih]

theorem take_two (level : List τ) (place : ℕ) :
    (level.drop place).take 2 = level[place]?.toList ++ level[place + 1]?.toList := by
  rw [List.take_add_one, List.take_one, List.head?_drop, List.getElem?_drop]

theorem related {σ υ : Type} (Related : σ → υ → Prop) (first : List σ) (second : List υ)
    (each : ∀ index : ℕ, Option.Rel Related first[index]? second[index]?) : List.Forall₂ Related first second := by
  induction first generalizing second with
  | nil =>
      cases second with
      | nil => exact .nil
      | cons entry rest => cases each 0
  | cons entry rest ih =>
      cases second with
      | nil => cases each 0
      | cons other others =>
          have head := each 0
          cases head with
          | some same => exact .cons same (ih others fun index => each (index + 1))

-- When an entry stands for what it is the aggregate of, each entry of a level
-- stands for its bucket.
structure Represents (Stands : List τ → τ → Prop) (data : List τ) : Prop where
  lone : ∀ entry, aggregate [entry] = entry
  single : ∀ entry, Stands [entry] entry
  pair : ∀ earlier later first second, earlier ≠ [] → later ≠ [] → (earlier ++ later).Sublist data →
    Stands earlier first → Stands later second → Stands (earlier ++ later) (aggregate [first, second])

variable (Stands : List τ → τ → Prop) (data : List τ)

theorem level_get (represents : Represents aggregate Stands data) (number index : ℕ) :
    if data.length ≤ index * 2 ^ number then ((halve aggregate)^[number] data)[index]? = none
    else ∃ entry, ((halve aggregate)^[number] data)[index]? = some entry ∧ Stands (bucket number index data) entry := by
  induction number generalizing index with
  | zero =>
      rw [Function.iterate_zero, id, pow_zero, mul_one]
      by_cases past : data.length ≤ index
      · rw [if_pos past, List.getElem?_eq_none past]
      · have inside : index < data.length := Nat.not_le.mp past
        rw [if_neg past, bucket, pow_zero, mul_one, List.take_one, List.head?_drop, List.getElem?_eq_getElem inside]
        exact ⟨_, rfl, represents.single _⟩
  | succ number ih =>
      have start : index * 2 ^ (number + 1) = 2 * index * 2 ^ number := by rw [pow_succ]; ring
      have later : 2 * index * 2 ^ number ≤ (2 * index + 1) * 2 ^ number := by rw [add_mul]; omega
      have first := ih (2 * index)
      have second := ih (2 * index + 1)
      rw [Function.iterate_succ_apply', halve_get, take_two, start]
      by_cases past : data.length ≤ 2 * index * 2 ^ number
      · rw [if_pos past] at first ⊢
        rw [if_pos (past.trans later)] at second
        rw [first, second]
        rfl
      · rw [if_neg past] at first ⊢
        obtain ⟨entry, isEntry, stands⟩ := first
        rw [isEntry, bucket_two]
        by_cases alone : data.length ≤ (2 * index + 1) * 2 ^ number
        · rw [if_pos alone] at second
          rw [second, (bucket_empty number (2 * index + 1) data).mpr alone, List.append_nil]
          exact ⟨entry, by simp [represents.lone], stands⟩
        · rw [if_neg alone] at second
          obtain ⟨other, isOther, otherStands⟩ := second
          rw [isOther]
          refine ⟨aggregate [entry, other], rfl, represents.pair _ _ _ _ ?_ ?_ ?_ stands otherStands⟩
          · exact (bucket_empty number (2 * index) data).not.mpr past
          · exact (bucket_empty number (2 * index + 1) data).not.mpr alone
          · rw [← bucket_two]
            exact bucket_sublist _ _ _

theorem slices_get (number index : ℕ) :
    (pySlices (2 ^ number) data)[index]? =
      if data.length ≤ index * 2 ^ number then none else some (bucket number index data) := by
  have positive := Nat.two_pow_pos number
  have bound : index < (data.length + 2 ^ number - 1) / 2 ^ number ↔ ¬ data.length ≤ index * 2 ^ number := by
    rw [Nat.lt_iff_add_one_le, Nat.le_div_iff_mul_le positive, add_mul]
    omega
  rw [pySlices, List.getElem?_map]
  by_cases past : data.length ≤ index * 2 ^ number
  · rw [if_pos past, List.getElem?_eq_none (by rw [List.length_range]; exact Nat.not_lt.mp (bound.not.mpr (not_not.mpr past)))]
    rfl
  · rw [if_neg past, List.getElem?_range (bound.mpr past)]
    rfl

theorem level_stands (represents : Represents aggregate Stands data) (number : ℕ) :
    List.Forall₂ Stands (pySlices (2 ^ number) data) ((halve aggregate)^[number] data) := by
  refine related Stands _ _ fun index => ?_
  have entry := level_get aggregate Stands data represents number index
  rw [slices_get]
  by_cases past : data.length ≤ index * 2 ^ number
  · rw [if_pos past] at entry ⊢
    rw [entry]
    exact .none
  · rw [if_neg past] at entry ⊢
    obtain ⟨found, isFound, stands⟩ := entry
    rw [isFound]
    exact .some stands

theorem slices_between (size lo hi : ℕ) (positive : 0 < size) :
    (Bisecting.slice lo hi (pySlices size data)).flatten = Bisecting.slice (lo * size) (hi * size) data := by
  have front (count : ℕ) : ((pySlices size data).take count).flatten = data.take (count * size) := by
    rw [pySlices, ← List.map_take, List.take_range, py_slices_front]
    by_cases all : (data.length + size - 1) / size ≤ count
    · have whole := py_slices_flatten size positive data
      rw [pySlices, py_slices_front] at whole
      rw [min_eq_right all, whole, List.take_of_length_le]
      rw [Nat.div_le_iff_le_mul positive] at all
      omega
    · rw [min_eq_left (Nat.not_le.mp all).le]
  by_cases ordered : lo ≤ hi
  · have split := congrArg List.flatten (List.take_append_drop lo ((pySlices size data).take hi))
    rw [List.flatten_append, List.take_take, min_eq_left ordered, front, front] at split
    rw [Bisecting.slice, Bisecting.slice]
    by_cases past : data.length ≤ lo * size
    · have none := past.trans (Nat.mul_le_mul_right size ordered)
      rw [List.take_of_length_le past, List.take_of_length_le none] at split
      rw [List.append_right_eq_self.mp split, List.take_of_length_le none, List.drop_eq_nil_of_le past]
    · have frontLength : (data.take (lo * size)).length = lo * size := by
        rw [List.length_take]
        omega
      rw [← split, List.drop_left' frontLength]
  · have reversed := Nat.mul_le_mul_right size (Nat.not_le.mp ordered).le
    have short : ((pySlices size data).take hi).length ≤ lo := (List.length_take_le _ _).trans (Nat.not_le.mp ordered).le
    rw [Bisecting.slice, Bisecting.slice, List.drop_eq_nil_of_le short,
      List.drop_eq_nil_of_le ((List.length_take_le _ _).trans reversed)]
    rfl

-- Entries that stand for consecutive pieces of the data, which cover a window
-- of it and go beyond it by less than a piece at either end.
def Shows (lo hi size : ℕ) (shown : List τ) : Prop :=
  ∃ start stop pieces, List.Forall₂ Stands pieces shown ∧ pieces.flatten = Bisecting.slice start stop data ∧
    start ≤ lo ∧ lo < start + size ∧ hi ≤ stop ∧ stop < hi + size

theorem level_shows (represents : Represents aggregate Stands data) (number lo hi : ℕ) :
    Shows Stands data lo hi (2 ^ number)
      (Bisecting.slice (lo / 2 ^ number) ((hi + 2 ^ number - 1) / 2 ^ number) ((halve aggregate)^[number] data)) := by
  have positive := Nat.two_pow_pos number
  have stands := level_stands aggregate Stands data represents number
  refine ⟨_, _, _, List.forall₂_drop _ (List.forall₂_take _ stands), slices_between data _ _ _ positive, ?_⟩
  have below := Nat.div_add_mod lo (2 ^ number)
  have rest := Nat.mod_lt lo positive
  have above := Nat.div_add_mod (hi + 2 ^ number - 1) (2 ^ number)
  have upper := Nat.mod_lt (hi + 2 ^ number - 1) positive
  rw [mul_comm] at below above
  omega

theorem shown_few (level : List τ) (number lo hi budget : ℕ) (fits : hi - lo ≤ budget * 2 ^ number) :
    (Bisecting.slice (lo / 2 ^ number) ((hi + 2 ^ number - 1) / 2 ^ number) level).length ≤ budget + 1 := by
  have positive := Nat.two_pow_pos number
  have below := Nat.div_add_mod lo (2 ^ number)
  have rest := Nat.mod_lt lo positive
  have few : (hi + 2 ^ number - 1) / 2 ^ number ≤ lo / 2 ^ number + (budget + 1) := by
    rw [Nat.div_le_iff_le_mul positive, add_mul, add_mul, one_mul, mul_comm (lo / 2 ^ number)]
    omega
  rw [Bisecting.slice, List.length_drop, List.length_take]
  omega

end Buckets

section Tail

def retail (source target : List τ) : List τ :=
  let start := (source.length - 1) / 2 * 2
  let index := start / 2
  let entry := aggregate ((source.drop start).take 2)
  if index < target.length then target.take index ++ [entry] else target ++ [entry]

-- Only the last entry of each level is made anew, and levels are added as long
-- as the last one has more entries than one.
def retower (source : List τ) : List (List τ) → List (List τ)
  | [] => climb aggregate source
  | target :: targets => source :: retower (retail aggregate source target) targets

def TailChanged (old new : List τ) : Prop :=
  ∃ kept last, new = kept ++ [last] ∧ (old = kept ∨ ∃ replaced, old = kept ++ [replaced])

theorem halve_append (kept tail : List τ) (even : kept.length % 2 = 0) :
    halve aggregate (kept ++ tail) = halve aggregate kept ++ halve aggregate tail := by
  induction kept using halve.induct with
  | case1 => rfl
  | case2 last => simp at even
  | case3 first second rest ih =>
      have evenRest : rest.length % 2 = 0 := by
        rw [List.length_cons, List.length_cons] at even
        omega
      rw [List.cons_append, List.cons_append, halve, halve, ih evenRest, List.cons_append]

theorem retail_halves (old new : List τ) (changed : TailChanged old new) :
    retail aggregate new (halve aggregate old) = halve aggregate new ∧
      TailChanged (halve aggregate old) (halve aggregate new) := by
  obtain ⟨kept, last, rfl, was⟩ := changed
  by_cases even : kept.length % 2 = 0
  · have start : ((kept ++ [last]).length - 1) / 2 * 2 = kept.length := by rw [List.length_append, List.length_singleton]; omega
    have index : kept.length / 2 = (halve aggregate kept).length := by rw [halve_length]; omega
    have made : halve aggregate (kept ++ [last]) = halve aggregate kept ++ [aggregate [last]] := halve_append _ kept [last] even
    have entry : ((kept ++ [last]).drop kept.length).take 2 = [last] := by simp
    obtain rfl | ⟨replaced, rfl⟩ := was
    · refine ⟨?_, _, _, made, .inl rfl⟩
      simp only [retail, start, index, entry, made]
      rw [if_neg (lt_irrefl _)]
    · have before : halve aggregate (kept ++ [replaced]) = halve aggregate kept ++ [aggregate [replaced]] :=
        halve_append _ kept [replaced] even
      refine ⟨?_, _, _, made, .inr ⟨_, before⟩⟩
      simp only [retail, start, index, entry, made, before]
      rw [if_pos (by simp), List.take_left]
  · obtain ⟨front, single, rfl⟩ : ∃ front single, kept = front ++ [single] := by
      cases kept using List.reverseRecOn with
      | nil => simp at even
      | append_singleton front single => exact ⟨front, single, rfl⟩
    have evenFront : front.length % 2 = 0 := by
      rw [List.length_append, List.length_singleton] at even
      omega
    have start : ((front ++ [single] ++ [last]).length - 1) / 2 * 2 = front.length := by simp; omega
    have index : front.length / 2 = (halve aggregate front).length := by rw [halve_length]; omega
    have made : halve aggregate (front ++ [single] ++ [last]) = halve aggregate front ++ [aggregate [single, last]] := by
      rw [List.append_assoc]
      exact halve_append _ front [single, last] evenFront
    have entry : ((front ++ [single] ++ [last]).drop front.length).take 2 = [single, last] := by simp
    obtain rfl | ⟨replaced, rfl⟩ := was
    · have before : halve aggregate (front ++ [single]) = halve aggregate front ++ [aggregate [single]] :=
        halve_append _ front [single] evenFront
      refine ⟨?_, _, _, made, .inr ⟨_, before⟩⟩
      simp only [retail, start, index, entry, made, before]
      rw [if_pos (by simp), List.take_left]
    · have before : halve aggregate (front ++ [single] ++ [replaced]) =
          halve aggregate front ++ [aggregate [single, replaced]] := by
        rw [List.append_assoc]
        exact halve_append _ front [single, replaced] evenFront
      refine ⟨?_, _, _, made, .inr ⟨_, before⟩⟩
      simp only [retail, start, index, entry, made, before]
      rw [if_pos (by simp), List.take_left]

theorem retower_climbs (old new : List τ) (changed : TailChanged old new) :
    retower aggregate new (climb aggregate old).tail = climb aggregate new := by
  induction old using climb.induct aggregate generalizing new with
  | case1 old short =>
      rw [climb_top aggregate old short]
      rfl
  | case2 old long ih =>
      obtain ⟨remade, above⟩ := retail_halves aggregate old new changed
      have longer : ¬ new.length ≤ 1 := by
        obtain ⟨kept, last, rfl, was⟩ := changed
        obtain rfl | ⟨replaced, rfl⟩ := was
        · simp only [List.length_append, List.length_singleton]
          omega
        · simpa using long
      have next := climb_ne_nil aggregate (halve aggregate old)
      rw [climb_on aggregate old long, climb_on aggregate new longer, List.tail_cons]
      have split : climb aggregate (halve aggregate old) =
          halve aggregate old :: (climb aggregate (halve aggregate old)).tail := by
        cases listed : climb aggregate (halve aggregate old) with
        | nil => exact absurd listed next
        | cons first rest =>
            have isFirst := climb_level aggregate (halve aggregate old) 0 first (by rw [listed]; rfl)
            rw [isFirst]
            rfl
      rw [split, retower, remade, ih _ above]

end Tail

end Pyramids
