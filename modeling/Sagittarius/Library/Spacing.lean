import Mathlib.Algebra.BigOperators.Group.List.Basic
import Mathlib.Algebra.Order.Ring.Int
import Mathlib.Data.Int.Basic
import Mathlib.Data.List.Induction
import Mathlib.Order.Bounds.Basic
import Mathlib.Tactic.LinearCombination

set_option autoImplicit false

-- Increasing multiples of a step: what neighbours leave out between them.
namespace Spacing

section Neighbours

variable {τ : Type}

def neighbours : List τ → List (τ × τ)
  | first :: second :: rest => (first, second) :: neighbours (second :: rest)
  | [] => []
  | [_] => []

theorem neighbours_mem (points : List τ) (pair : τ × τ) (inside : pair ∈ neighbours points) :
    pair.1 ∈ points ∧ pair.2 ∈ points := by
  induction points with
  | nil => cases inside
  | cons first rest ih =>
      cases rest with
      | nil => cases inside
      | cons second rest =>
          cases List.mem_cons.mp inside with
          | inl head =>
              rw [head]
              exact ⟨by simp, by simp⟩
          | inr later =>
              have members := ih later
              exact ⟨List.mem_cons_of_mem _ members.1, List.mem_cons_of_mem _ members.2⟩

theorem neighbours_iff (points : List ℤ) (increasing : points.Pairwise fun a b => a < b) (a b : ℤ) :
    (a, b) ∈ neighbours points ↔ a ∈ points ∧ b ∈ points ∧ a < b ∧ ∀ x ∈ points, x ≤ a ∨ b ≤ x := by
  induction points with
  | nil => simp [neighbours]
  | cons first rest ih =>
      cases rest with
      | nil =>
          refine iff_of_false (by simp [neighbours]) fun both => ?_
          obtain ⟨fst, snd, less, _⟩ := both
          rw [List.mem_singleton] at fst snd
          omega
      | cons second rest =>
          obtain ⟨above, tail⟩ := List.pairwise_cons.mp increasing
          have next := above second List.mem_cons_self
          rw [neighbours, List.mem_cons, ih tail, Prod.mk.injEq]
          constructor
          · intro either
            cases either with
            | inl head =>
                obtain ⟨rfl, rfl⟩ := head
                refine ⟨by simp, by simp, next, fun x inside => ?_⟩
                cases List.mem_cons.mp inside with
                | inl same => exact .inl same.le
                | inr later =>
                    cases List.mem_cons.mp later with
                    | inl same => exact .inr same.ge
                    | inr beyond => exact .inr ((List.pairwise_cons.mp tail).1 x beyond).le
            | inr later =>
                obtain ⟨fst, snd, less, apart⟩ := later
                refine ⟨List.mem_cons_of_mem _ fst, List.mem_cons_of_mem _ snd, less, fun x inside => ?_⟩
                cases List.mem_cons.mp inside with
                | inl same => exact .inl (same.le.trans (above a fst).le)
                | inr further => exact apart x further
          · intro both
            obtain ⟨fst, snd, less, apart⟩ := both
            have sndLater : b ∈ second :: rest := by
              cases List.mem_cons.mp snd with
              | inr later => exact later
              | inl same =>
                  cases List.mem_cons.mp fst with
                  | inl sameToo => omega
                  | inr later =>
                      have past := above a later
                      omega
            cases List.mem_cons.mp fst with
            | inl same =>
                have between := apart second (by simp)
                refine .inl ⟨same, ?_⟩
                cases List.mem_cons.mp sndLater with
                | inl sameToo => exact sameToo
                | inr beyond =>
                    have past := (List.pairwise_cons.mp tail).1 b beyond
                    omega
            | inr later => exact .inr ⟨later, sndLater, less, fun x inside => apart x (List.mem_cons_of_mem _ inside)⟩

theorem neighbours_zip (points : List τ) :
    ((none :: points.map some).zip points).filterMap (fun pair => pair.1.map fun before => (before, pair.2)) =
      neighbours points := by
  cases points with
  | nil => rfl
  | cons first rest =>
      rw [List.zip_cons_cons, List.filterMap_cons_none rfl]
      induction rest generalizing first with
      | nil => rfl
      | cons second rest ih =>
          rw [List.map_cons, List.zip_cons_cons, neighbours]
          exact congrArg (List.cons (first, second)) (ih second)

end Neighbours

theorem head_le (first point : ℤ) (rest : List ℤ) (increasing : (first :: rest).Pairwise fun a b => a < b)
    (inside : point ∈ first :: rest) : first ≤ point := by
  cases List.mem_cons.mp inside with
  | inl same => exact same.ge
  | inr later => exact ((List.pairwise_cons.mp increasing).1 point later).le

section Increasing

variable (points values : List ℤ) (increasing : points.Pairwise fun a b => a < b) (permuted : values.Perm points)

include increasing permuted

theorem min_increasing : values.min? = points.head? := by
  cases points with
  | nil =>
      rw [permuted.eq_nil]
      rfl
  | cons first rest =>
      refine List.min?_eq_some_iff.mpr ⟨permuted.mem_iff.mpr List.mem_cons_self, fun value inside => ?_⟩
      exact head_le first value rest increasing (permuted.mem_iff.mp inside)

theorem max_increasing : values.max? = points.getLast? := by
  cases points using List.reverseRecOn with
  | nil =>
      rw [permuted.eq_nil]
      rfl
  | append_singleton before last _ =>
      rw [List.getLast?_concat]
      refine List.max?_eq_some_iff.mpr ⟨permuted.mem_iff.mpr (by simp), fun value inside => ?_⟩
      cases List.mem_append.mp (permuted.mem_iff.mp inside) with
      | inl earlier => exact ((List.pairwise_append.mp increasing).2.2 value earlier last (by simp)).le
      | inr same => exact (List.mem_singleton.mp same).le

end Increasing

theorem head_least (points : List ℤ) (first : ℤ) (increasing : points.Pairwise fun a b => a < b)
    (least : IsLeast {point | point ∈ points} first) : points.head? = some first := by
  cases points with
  | nil => cases least.1
  | cons head rest =>
      have bound := least.2 (show head ∈ head :: rest from List.mem_cons_self)
      cases List.mem_cons.mp least.1 with
      | inl same => rw [same, List.head?_cons]
      | inr later =>
          have past := (List.pairwise_cons.mp increasing).1 first later
          omega

theorem head_filter (points : List ℤ) (past : ℤ) (increasing : points.Pairwise fun a b => a < b) :
    (points.filter fun point => point < past).head? = points.head?.filter fun point => point < past := by
  cases points with
  | nil => rfl
  | cons first rest =>
      by_cases early : first < past
      · rw [List.filter_cons, if_pos (by simpa using early), List.head?_cons, List.head?_cons, Option.filter_some,
          if_pos (by simpa using early)]
      · rw [List.head?_cons, Option.filter_some, if_neg (by simpa using early), List.head?_eq_none_iff, List.filter_eq_nil_iff]
        intro point inside
        have atLeast := head_le first point rest increasing inside
        simp only [decide_eq_true_eq]
        omega

section Range

def range (start past step : ℤ) : List ℤ :=
  (List.range ((past - start + step - 1) / step).toNat).map fun k : ℕ => start + (k : ℤ) * step

variable (start past step : ℤ) (positive : 0 < step)

include positive

theorem range_increasing : (range start past step).Pairwise fun a b => a < b := by
  refine List.pairwise_map.mpr (List.pairwise_lt_range.imp ?_)
  intro a b less
  have scaled := Int.mul_lt_mul_of_pos_right (Int.ofNat_lt.mpr less) positive
  omega

theorem range_iff (x : ℤ) : x ∈ range start past step ↔ step ∣ x - start ∧ start ≤ x ∧ x < past := by
  have counted : ∀ k : ℕ, k < ((past - start + step - 1) / step).toNat ↔ start + k * step < past := by
    intro k
    rw [Int.lt_toNat, ← Int.add_one_le_iff, Int.le_ediv_iff_mul_le positive, Int.add_mul]
    omega
  rw [range, List.mem_map]
  constructor
  · intro listed
    obtain ⟨k, inRange, rfl⟩ := listed
    have scaled := Int.mul_nonneg (Int.natCast_nonneg k) positive.le
    have apart : start + k * step - start = k * step := by omega
    rw [apart]
    exact ⟨Int.dvd_mul_left _ _, by omega, (counted k).mp (List.mem_range.mp inRange)⟩
  · intro bounds
    obtain ⟨⟨quotient, isQuotient⟩, atLeast, before⟩ := bounds
    have nonneg : 0 ≤ quotient := by
      by_contra negative
      have scaled := Int.mul_le_mul_of_nonneg_left (show quotient ≤ -1 by omega) positive.le
      omega
    have same : start + (quotient.toNat : ℤ) * step = x := by
      rw [Int.toNat_of_nonneg nonneg, Int.mul_comm]
      omega
    exact ⟨quotient.toNat, List.mem_range.mpr ((counted _).mpr (by omega)), same⟩

theorem range_length (ordered : start ≤ past) (aligned : step ∣ past - start) :
    ((range start past step).length : ℤ) * step = past - start := by
  obtain ⟨quotient, isQuotient⟩ := aligned
  have nonneg : 0 ≤ quotient := by
    by_contra negative
    have scaled := Int.mul_le_mul_of_nonneg_left (show quotient ≤ -1 by omega) positive.le
    omega
  have divided : (past - start + step - 1) / step = quotient := by
    rw [isQuotient, Int.add_sub_assoc, Int.mul_add_ediv_left _ _ positive.ne', Int.ediv_eq_zero_of_lt (by omega) (by omega)]
    omega
  rw [range, List.length_map, List.length_range, divided, Int.toNat_of_nonneg nonneg, isQuotient, Int.mul_comm]

end Range

structure Marks (step : ℤ) (points : List ℤ) : Prop where
  increasing : points.Pairwise fun a b => a < b
  aligned : ∀ point ∈ points, step ∣ point

variable {step : ℤ}

theorem marks_tail (first : ℤ) (rest : List ℤ) (marks : Marks step (first :: rest)) : Marks step rest where
  increasing := (List.pairwise_cons.mp marks.increasing).2
  aligned := fun point inside => marks.aligned point (List.mem_cons_of_mem _ inside)

theorem step_le (a b : ℤ) (alignedA : step ∣ a) (alignedB : step ∣ b) (less : a < b) : a + step ≤ b := by
  have apart := Int.le_of_dvd (by omega) (Int.dvd_sub alignedB alignedA)
  omega

theorem neighbours_increasing (points : List ℤ) (marks : Marks step points) (pair : ℤ × ℤ)
    (inside : pair ∈ neighbours points) : pair.1 < pair.2 := by
  induction points with
  | nil => cases inside
  | cons first rest ih =>
      cases rest with
      | nil => cases inside
      | cons second rest =>
          cases List.mem_cons.mp inside with
          | inl head =>
              rw [head]
              exact (List.pairwise_cons.mp marks.increasing).1 second List.mem_cons_self
          | inr later => exact ih (marks_tail first _ marks) later

-- The pairs of neighbours with something missing between them.
def holes (step : ℤ) (points : List ℤ) : List (ℤ × ℤ) :=
  (neighbours points).filter fun pair => step < pair.2 - pair.1

def Within (pair : ℤ × ℤ) (x : ℤ) : Prop := pair.1 < x ∧ x < pair.2

theorem neighbours_ordered (points : List ℤ) (marks : Marks step points) :
    (neighbours points).Pairwise fun before after => before.2 ≤ after.1 := by
  induction points with
  | nil => exact .nil
  | cons first rest ih =>
      cases rest with
      | nil => exact .nil
      | cons second rest =>
          have tail := marks_tail first _ marks
          refine List.pairwise_cons.mpr ⟨fun pair inside => ?_, ih tail⟩
          cases List.mem_cons.mp (neighbours_mem _ pair inside).1 with
          | inl same => exact same.ge
          | inr later => exact ((List.pairwise_cons.mp tail.increasing).1 pair.1 later).le

theorem holes_ordered (points : List ℤ) (marks : Marks step points) :
    (holes step points).Pairwise fun before after => before.2 ≤ after.1 :=
  (neighbours_ordered points marks).sublist List.filter_sublist

theorem holes_mem (points : List ℤ) (hole : ℤ × ℤ) :
    hole ∈ holes step points ↔ hole ∈ neighbours points ∧ step < hole.2 - hole.1 := by
  rw [holes, List.mem_filter, decide_eq_true_eq]

theorem holes_starts (points : List ℤ) (marks : Marks step points) :
    ((holes step points).map Prod.fst).Pairwise fun a b => a < b := by
  refine List.pairwise_map.mpr ((holes_ordered points marks).imp_of_mem ?_)
  intro before after isHole _ ordered
  have rises := neighbours_increasing points marks before ((holes_mem points before).mp isHole).1
  omega

theorem missing_iff (points : List ℤ) (marks : Marks step points) (x : ℤ) (aligned : step ∣ x) :
    (∃ hole ∈ holes step points, Within hole x) ↔
      x ∉ points ∧ (∃ before ∈ points, before < x) ∧ ∃ after ∈ points, x < after := by
  constructor
  · intro missing
    obtain ⟨hole, isHole, after, before⟩ := missing
    have neighbour := ((holes_mem points hole).mp isHole).1
    obtain ⟨fst, snd⟩ := neighbours_mem points hole neighbour
    refine ⟨?_, ⟨hole.1, fst, after⟩, hole.2, snd, before⟩
    clear isHole fst snd
    induction points with
    | nil => simp
    | cons first rest ih =>
        cases rest with
        | nil => cases neighbour
        | cons second rest =>
            have tail := marks_tail first _ marks
            have above := (List.pairwise_cons.mp marks.increasing).1
            have further := (List.pairwise_cons.mp tail.increasing).1
            intro inside
            cases List.mem_cons.mp neighbour with
            | inl head =>
                rw [head] at after before
                cases List.mem_cons.mp inside with
                | inl same => exact absurd after (by simp [same])
                | inr later =>
                    cases List.mem_cons.mp later with
                    | inl same => exact absurd before (by simp [same])
                    | inr beyond =>
                        have past := further x beyond
                        simp only at before
                        omega
            | inr later =>
                cases List.mem_cons.mp inside with
                | inl same =>
                    have past := above hole.1 (neighbours_mem _ hole later).1
                    omega
                | inr inRest => exact ih tail later inRest
  · intro missing
    obtain ⟨absent, before, after⟩ := missing
    induction points with
    | nil =>
        obtain ⟨point, inside, _⟩ := before
        cases inside
    | cons first rest ih =>
        obtain ⟨low, isLow, lowLess⟩ := before
        obtain ⟨high, isHigh, highLess⟩ := after
        have above := (List.pairwise_cons.mp marks.increasing).1
        have firstLess : first < x := by
          cases List.mem_cons.mp isLow with
          | inl same => omega
          | inr later =>
              have past := above low later
              omega
        have highLater : high ∈ rest := by
          cases List.mem_cons.mp isHigh with
          | inl same => omega
          | inr later => exact later
        cases rest with
        | nil => cases highLater
        | cons second rest =>
            have tail := marks_tail first _ marks
            by_cases inGap : x < second
            · have apart := step_le first x (marks.aligned first List.mem_cons_self) aligned firstLess
              exact ⟨(first, second), (holes_mem _ _).mpr ⟨List.mem_cons_self, by simp only; omega⟩, firstLess, inGap⟩
            · have past : second < x := by
                have differs : x ≠ second := fun same => absent (by simp [same])
                omega
              obtain ⟨hole, isHole, within⟩ := ih tail (fun inside => absent (List.mem_cons_of_mem _ inside))
                ⟨second, List.mem_cons_self, past⟩ ⟨high, highLater, highLess⟩
              obtain ⟨isNeighbour, wide⟩ := (holes_mem _ _).mp isHole
              exact ⟨hole, (holes_mem _ _).mpr ⟨List.mem_cons_of_mem _ isNeighbour, wide⟩, within⟩

def lacks (step : ℤ) (hole : ℤ × ℤ) : ℤ := (hole.2 - hole.1 - step) / step

theorem lacks_mul (hole : ℤ × ℤ) (fst : step ∣ hole.1) (snd : step ∣ hole.2) :
    step * lacks step hole = hole.2 - hole.1 - step := by
  rw [lacks]
  exact Int.mul_ediv_cancel' (Int.dvd_sub (Int.dvd_sub snd fst) (Int.dvd_refl step))

theorem holes_account (first : ℤ) (rest : List ℤ) (marks : Marks step (first :: rest)) :
    step * ((first :: rest).length + ((holes step (first :: rest)).map (lacks step)).sum) =
      rest.getLastD first - first + step := by
  induction rest generalizing first with
  | nil => simp [holes, neighbours]
  | cons second rest ih =>
      have tail := marks_tail first _ marks
      have later := ih second tail
      have alignedFirst := marks.aligned first List.mem_cons_self
      have alignedSecond := marks.aligned second (by simp)
      have apart := step_le first second alignedFirst alignedSecond
        ((List.pairwise_cons.mp marks.increasing).1 second List.mem_cons_self)
      rw [List.getLastD_cons, List.length_cons]
      by_cases wide : step < second - first
      · have lacking := lacks_mul (first, second) alignedFirst alignedSecond
        have split : holes step (first :: second :: rest) = (first, second) :: holes step (second :: rest) := by
          rw [holes, neighbours, List.filter_cons_of_pos (by simpa using wide)]
          rfl
        rw [split, List.map_cons, List.sum_cons]
        push_cast
        linear_combination later + lacking
      · have split : holes step (first :: second :: rest) = holes step (second :: rest) := by
          rw [holes, neighbours, List.filter_cons_of_neg (by simpa using wide)]
          rfl
        have exactly : second - first = step := by omega
        rw [split]
        push_cast
        linear_combination later - exactly

theorem holes_span (points : List ℤ) (marks : Marks step points) (first last : ℤ) (isFirst : points.head? = some first)
    (isLast : points.getLast? = some last) :
    step * (points.length + ((holes step points).map (lacks step)).sum) = last - first + step := by
  obtain ⟨rest, rfl⟩ := List.head?_eq_some_iff.mp isFirst
  have ends : rest.getLastD first = last := by
    rw [List.getLast?_cons] at isLast
    rw [List.getLastD_eq_getLast?]
    exact Option.some.inj isLast
  rw [holes_account first rest marks, ends]

section Missing

def Missing (step : ℤ) (points : List ℤ) (first past : ℤ) : Set ℤ :=
  {x | step ∣ x ∧ first ≤ x ∧ x < past ∧ x ∉ points}

variable (points : List ℤ) (marks : Marks step points) (first last : ℤ)

include marks

theorem first_le (isFirst : points.head? = some first) (point : ℤ) (inside : point ∈ points) : first ≤ point := by
  obtain ⟨rest, rfl⟩ := List.head?_eq_some_iff.mp isFirst
  exact head_le first point rest marks.increasing inside

theorem le_last (isLast : points.getLast? = some last) (point : ℤ) (inside : point ∈ points) : point ≤ last := by
  obtain ⟨before, rfl⟩ := List.getLast?_eq_some_iff.mp isLast
  cases List.mem_append.mp inside with
  | inl earlier => exact ((List.pairwise_append.mp marks.increasing).2.2 point earlier last (by simp)).le
  | inr same => exact (List.mem_singleton.mp same).le

theorem present_before (isFirst : points.head? = some first) (isLast : points.getLast? = some last) (x : ℤ)
    (aligned : step ∣ x) (atLeast : first ≤ x) (atMost : x ≤ last)
    (before : ∀ hole ∈ (holes step points).head?, x ≤ hole.1) : x ∈ points := by
  by_contra absent
  have isPoint : first ∈ points := List.mem_of_head? isFirst
  have isPointToo : last ∈ points := List.mem_of_getLast? isLast
  have notFirst : first ≠ x := fun same => absent (same ▸ isPoint)
  have notLast : x ≠ last := fun same => absent (same ▸ isPointToo)
  obtain ⟨hole, isHole, within⟩ := (missing_iff points marks x aligned).mpr
    ⟨absent, ⟨first, isPoint, by omega⟩, last, isPointToo, by omega⟩
  have ordered := holes_ordered points marks
  cases listed : holes step points with
  | nil => simp [listed] at isHole
  | cons head others =>
      rw [listed] at isHole ordered before
      have early := before head rfl
      obtain ⟨after, _⟩ := within
      cases List.mem_cons.mp isHole with
      | inl same =>
          rw [same] at after
          omega
      | inr later =>
          have past := (List.pairwise_cons.mp ordered).1 hole later
          have isNeighbour : head ∈ neighbours points := by
            have inside : head ∈ holes step points := by simp [listed]
            exact ((holes_mem points head).mp inside).1
          have rises := neighbours_increasing points marks head isNeighbour
          omega

variable (past : ℤ) (positive : 0 < step)

include positive

theorem missing_hole (isFirst : points.head? = some first) (isLast : points.getLast? = some last) (before : last < past)
    (hole : ℤ × ℤ) (isHole : (holes step points).head? = some hole) :
    IsLeast (Missing step points first past) (hole.1 + step) := by
  obtain ⟨isNeighbour, wide⟩ := (holes_mem points hole).mp (List.mem_of_head? isHole)
  obtain ⟨fst, snd⟩ := neighbours_mem points hole isNeighbour
  have low := first_le points marks first isFirst hole.1 fst
  have high := le_last points marks last isLast hole.2 snd
  have aligned : step ∣ hole.1 + step := Int.dvd_add (marks.aligned hole.1 fst) (Int.dvd_refl step)
  constructor
  · refine ⟨aligned, by omega, by omega, ?_⟩
    exact ((missing_iff points marks _ aligned).mp
      ⟨hole, List.mem_of_head? isHole, show hole.1 < hole.1 + step by omega, show hole.1 + step < hole.2 by omega⟩).1
  · intro x missing
    obtain ⟨alignedX, atLeast, _, absent⟩ := missing
    by_contra early
    have atHole : x ≤ hole.1 := by
      by_contra beyond
      have apart := step_le hole.1 x (marks.aligned hole.1 fst) alignedX (by omega)
      omega
    refine absent (present_before points marks first last isFirst isLast x alignedX atLeast (by omega) ?_)
    intro head isHead
    rw [isHole] at isHead
    cases isHead
    exact atHole

theorem missing_end (isFirst : points.head? = some first) (isLast : points.getLast? = some last)
    (short : last + step < past) (solid : holes step points = []) :
    IsLeast (Missing step points first past) (last + step) := by
  have isPoint : last ∈ points := List.mem_of_getLast? isLast
  have low := first_le points marks first isFirst last isPoint
  constructor
  · refine ⟨Int.dvd_add (marks.aligned last isPoint) (Int.dvd_refl step), by omega, short, fun inside => ?_⟩
    have high := le_last points marks last isLast _ inside
    omega
  · intro x missing
    obtain ⟨alignedX, atLeast, _, absent⟩ := missing
    by_contra early
    have atMost : x ≤ last := by
      by_contra beyond
      have apart := step_le last x (marks.aligned last isPoint) alignedX (by omega)
      omega
    exact absent (present_before points marks first last isFirst isLast x alignedX atLeast atMost (by simp [solid]))

omit positive in
theorem missing_none (isFirst : points.head? = some first) (isLast : points.getLast? = some last)
    (reaches : past ≤ last + step) (solid : holes step points = []) (x : ℤ) : x ∉ Missing step points first past := by
  intro missing
  obtain ⟨alignedX, atLeast, before, absent⟩ := missing
  have atMost : x ≤ last := by
    by_contra beyond
    have apart := step_le last x (marks.aligned last (List.mem_of_getLast? isLast)) alignedX (by omega)
    omega
  exact absent (present_before points marks first last isFirst isLast x alignedX atLeast atMost (by simp [solid]))

end Missing

end Spacing
