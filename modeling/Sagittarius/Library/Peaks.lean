import Mathlib.Data.List.MinMax
import Mathlib.Order.Bounds.Basic

set_option autoImplicit false

-- What one pass over a list of points knows: the highest point so far, the best
-- pair of points in order, and the longest streak of points below a peak.
namespace Peaks

section Pairs

variable {τ β : Type} [LinearOrder β]

def Follows (points : List τ) (earlier later : τ) : Prop :=
  ∃ i j : ℕ, i ≤ j ∧ points[i]? = some earlier ∧ points[j]? = some later

theorem follows_append (points : List τ) (last earlier later : τ) :
    Follows (points ++ [last]) earlier later ↔
      Follows points earlier later ∨ earlier ∈ points ++ [last] ∧ later = last := by
  constructor
  · intro follows
    obtain ⟨i, j, ordered, isEarlier, isLater⟩ := follows
    by_cases within : j < points.length
    · rw [List.getElem?_append_left within] at isLater
      rw [List.getElem?_append_left (by omega)] at isEarlier
      exact .inl ⟨i, j, ordered, isEarlier, isLater⟩
    · have atEnd := (List.getElem?_eq_some_iff.mp isLater).1
      have isLast : j = points.length := by
        rw [List.length_append, List.length_singleton] at atEnd
        omega
      subst isLast
      rw [List.getElem?_concat_length] at isLater
      exact .inr ⟨List.mem_of_getElem? isEarlier, (Option.some.inj isLater).symm⟩
  · intro either
    cases either with
    | inl follows =>
        obtain ⟨i, j, ordered, isEarlier, isLater⟩ := follows
        have iWithin := (List.getElem?_eq_some_iff.mp isEarlier).1
        have jWithin := (List.getElem?_eq_some_iff.mp isLater).1
        exact ⟨i, j, ordered, by rw [List.getElem?_append_left iWithin, isEarlier],
          by rw [List.getElem?_append_left jWithin, isLater]⟩
    | inr ends =>
        obtain ⟨member, rfl⟩ := ends
        obtain ⟨i, isEarlier⟩ := List.getElem?_of_mem member
        have within := (List.getElem?_eq_some_iff.mp isEarlier).1
        rw [List.length_append, List.length_singleton] at within
        exact ⟨i, points.length, by omega, isEarlier, List.getElem?_concat_length⟩

def Worths (admits : τ → Prop) (worth : τ → τ → β) (points : List τ) : Set β :=
  {value | ∃ earlier later, Follows points earlier later ∧ admits earlier ∧ value = worth earlier later}

theorem worths_append (admits : τ → Prop) (worth : τ → τ → β) (points : List τ) (last partner : τ) (best : β)
    (greatest : IsGreatest (Worths admits worth points) best) (member : partner ∈ points ++ [last])
    (admitted : admits partner)
    (better : ∀ point ∈ points ++ [last], admits point → worth point last ≤ worth partner last) :
    IsGreatest (Worths admits worth (points ++ [last])) (max best (worth partner last)) := by
  have splits : Worths admits worth (points ++ [last]) =
      Worths admits worth points ∪ {value | ∃ point ∈ points ++ [last], admits point ∧ value = worth point last} := by
    ext value
    constructor
    · intro inside
      obtain ⟨earlier, later, follows, admitted, rfl⟩ := inside
      cases (follows_append points last earlier later).mp follows with
      | inl before => exact .inl ⟨earlier, later, before, admitted, rfl⟩
      | inr ends => exact .inr ⟨earlier, ends.1, admitted, by rw [ends.2]⟩
    · intro inside
      cases inside with
      | inl before =>
          obtain ⟨earlier, later, follows, admitted, rfl⟩ := before
          exact ⟨earlier, later, (follows_append points last earlier later).mpr (.inl follows), admitted, rfl⟩
      | inr ends =>
          obtain ⟨point, isPoint, admitted, rfl⟩ := ends
          exact ⟨point, last, (follows_append points last point last).mpr (.inr ⟨isPoint, rfl⟩), admitted, rfl⟩
  rw [splits]
  refine greatest.union ⟨⟨partner, member, admitted, rfl⟩, ?_⟩
  intro value inside
  obtain ⟨point, isPoint, admitted, rfl⟩ := inside
  exact better point isPoint admitted

theorem follows_singleton (point earlier later : τ) : Follows [point] earlier later ↔ earlier = point ∧ later = point := by
  rw [← List.nil_append [point], follows_append, List.nil_append, List.mem_singleton]
  simp [Follows]

theorem worths_singleton (admits : τ → Prop) (worth : τ → τ → β) (point : τ) (admitted : admits point) :
    IsGreatest (Worths admits worth [point]) (worth point point) := by
  refine ⟨⟨point, point, (follows_singleton point point point).mpr ⟨rfl, rfl⟩, admitted, rfl⟩, ?_⟩
  intro value inside
  obtain ⟨earlier, later, follows, _, rfl⟩ := inside
  obtain ⟨rfl, rfl⟩ := (follows_singleton point earlier later).mp follows
  exact le_refl _

end Pairs

section Streaks

variable (holds : ℕ → Prop)

def Streak (count length : ℕ) : Prop := ∃ start, start + length ≤ count ∧ ∀ k < length, holds (start + k)

def EndStreak (count length : ℕ) : Prop := length ≤ count ∧ ∀ k < length, holds (count - length + k)

structure Streaks (count current longest : ℕ) : Prop where
  current : IsGreatest {length | EndStreak holds count length} current
  longest : IsGreatest {length | Streak holds count length} longest

theorem streaks_start : Streaks holds 0 0 0 where
  current := ⟨⟨le_refl 0, nofun⟩, fun _ ends => ends.1⟩
  longest := by
    refine ⟨⟨0, le_refl 0, nofun⟩, ?_⟩
    intro length streak
    obtain ⟨start, within, _⟩ := streak
    omega

variable {holds}

theorem streak_succ (count length : ℕ) :
    Streak holds (count + 1) length ↔ Streak holds count length ∨ EndStreak holds (count + 1) length := by
  constructor
  · intro streak
    obtain ⟨start, within, all⟩ := streak
    by_cases before : start + length ≤ count
    · exact .inl ⟨start, before, all⟩
    · refine .inr ⟨by omega, fun k less => ?_⟩
      have here : count + 1 - length = start := by omega
      rw [here]
      exact all k less
  · intro either
    cases either with
    | inl streak =>
        obtain ⟨start, within, all⟩ := streak
        exact ⟨start, by omega, all⟩
    | inr ends => exact ⟨count + 1 - length, by have within := ends.1; omega, ends.2⟩

theorem end_streak_succ (count length : ℕ) :
    EndStreak holds (count + 1) (length + 1) ↔ EndStreak holds count length ∧ holds count := by
  have shifted : count + 1 - (length + 1) = count - length := by omega
  rw [EndStreak, EndStreak, shifted]
  constructor
  · intro ends
    obtain ⟨within, all⟩ := ends
    have last := all length (by omega)
    rw [Nat.sub_add_cancel (by omega)] at last
    exact ⟨⟨by omega, fun k less => all k (by omega)⟩, last⟩
  · intro both
    obtain ⟨⟨within, all⟩, last⟩ := both
    refine ⟨by omega, fun k less => ?_⟩
    by_cases before : k < length
    · exact all k before
    · have atEnd : k = length := by omega
      rw [atEnd, Nat.sub_add_cancel within]
      exact last

theorem longest_succ (count current longest : ℕ) (greatest : IsGreatest {length | Streak holds count length} longest)
    (ends : IsGreatest {length | EndStreak holds (count + 1) length} current) :
    IsGreatest {length | Streak holds (count + 1) length} (max longest current) := by
  have splits : {length | Streak holds (count + 1) length} =
      {length | Streak holds count length} ∪ {length | EndStreak holds (count + 1) length} :=
    Set.ext fun length => streak_succ count length
  rw [splits]
  exact greatest.union ends

theorem streaks_extend (count current longest : ℕ) (streaks : Streaks holds count current longest) (here : holds count) :
    Streaks holds (count + 1) (current + 1) (max longest (current + 1)) := by
  have ends : IsGreatest {length | EndStreak holds (count + 1) length} (current + 1) := by
    refine ⟨(end_streak_succ count current).mpr ⟨streaks.current.1, here⟩, ?_⟩
    intro length streak
    cases length with
    | zero => exact Nat.zero_le _
    | succ length =>
        exact Nat.succ_le_succ (streaks.current.2 ((end_streak_succ count length).mp streak).1)
  exact ⟨ends, longest_succ count (current + 1) longest streaks.longest ends⟩

theorem streaks_break (count current longest : ℕ) (streaks : Streaks holds count current longest)
    (breaks : ¬ holds count) : Streaks holds (count + 1) 0 longest := by
  have ends : IsGreatest {length | EndStreak holds (count + 1) length} 0 := by
    refine ⟨⟨Nat.zero_le _, nofun⟩, ?_⟩
    intro length streak
    cases length with
    | zero => exact le_refl 0
    | succ length => exact absurd ((end_streak_succ count length).mp streak).2 breaks
  have longer := longest_succ count 0 longest streaks.longest ends
  rw [Nat.max_zero] at longer
  exact ⟨ends, longer⟩

theorem streaks_congr (others : ℕ → Prop) (count current longest : ℕ)
    (same : ∀ index < count, holds index ↔ others index) (streaks : Streaks holds count current longest) :
    Streaks others count current longest := by
  have ends : ∀ length, EndStreak holds count length ↔ EndStreak others count length := by
    intro length
    refine and_congr_right fun within => forall₂_congr fun k less => same _ ?_
    omega
  have anywhere : ∀ length, Streak holds count length ↔ Streak others count length := by
    intro length
    refine exists_congr fun start => and_congr_right fun within => forall₂_congr fun k less => same _ ?_
    omega
  obtain ⟨current, longest⟩ := streaks
  simp only [ends] at current
  simp only [anywhere] at longest
  exact ⟨current, longest⟩

theorem longest_zero (count longest : ℕ) (greatest : IsGreatest {length | Streak holds count length} longest) :
    longest = 0 ↔ ∀ index < count, ¬ holds index := by
  constructor
  · intro none index within here
    have streak : Streak holds count 1 := ⟨index, within, fun k less => by rwa [Nat.lt_one_iff.mp less]⟩
    have bounded := greatest.2 streak
    omega
  · intro none
    obtain ⟨start, within, all⟩ := greatest.1
    by_contra positive
    exact none start (by omega) (all 0 (by omega))

end Streaks

section Below

variable {τ : Type} [LinearOrder τ]

def Below (points : List τ) (index : ℕ) : Prop :=
  ∃ point, points[index]? = some point ∧ (point : WithBot τ) < (points.take index).maximum

theorem below_append (points : List τ) (last : τ) (index : ℕ) (within : index < points.length) :
    Below points index ↔ Below (points ++ [last]) index := by
  rw [Below, Below, List.getElem?_append_left within, List.take_append_of_le_length within.le]

theorem below_last (points : List τ) (last peak : τ) (greatest : IsGreatest {point | point ∈ points} peak) :
    Below (points ++ [last]) points.length ↔ last < peak := by
  have top : points.maximum = peak := List.maximum_eq_coe_iff.mpr ⟨greatest.1, greatest.2⟩
  rw [Below, List.getElem?_concat_length, List.take_left, top]
  simp

theorem below_follows (points : List τ) (index : ℕ) (below : Below points index) :
    ∃ earlier later, Follows points earlier later ∧ later < earlier := by
  obtain ⟨later, isLater, less⟩ := below
  obtain ⟨earlier, top⟩ := WithBot.ne_bot_iff_exists.mp (ne_bot_of_gt less)
  rw [← top, WithBot.coe_lt_coe] at less
  have member := (List.maximum_eq_coe_iff.mp top.symm).1
  obtain ⟨i, isEarlier⟩ := List.getElem?_of_mem member
  rw [List.getElem?_take] at isEarlier
  split_ifs at isEarlier with before
  exact ⟨earlier, later, ⟨i, index, before.le, isEarlier, isLater⟩, less⟩

theorem follows_below (points : List τ) (earlier later : τ) (follows : Follows points earlier later)
    (less : later < earlier) : ∃ index < points.length, Below points index := by
  obtain ⟨i, j, ordered, isEarlier, isLater⟩ := follows
  have within := (List.getElem?_eq_some_iff.mp isLater).1
  refine ⟨j, within, later, isLater, ?_⟩
  have before : i < j := by
    by_contra notBefore
    have same : i = j := by omega
    rw [same, isLater] at isEarlier
    cases isEarlier
    exact lt_irrefl _ less
  have member : earlier ∈ points.take j := List.mem_of_getElem? (by rw [List.getElem?_take, if_pos before, isEarlier])
  exact lt_of_lt_of_le (WithBot.coe_lt_coe.mpr less) (List.le_maximum_of_mem' member)

theorem peak_append (points : List τ) (last peak : τ) (greatest : IsGreatest {point | point ∈ points} peak) :
    IsGreatest {point | point ∈ points ++ [last]} (max peak last) := by
  have splits : {point | point ∈ points ++ [last]} = {point | point ∈ points} ∪ {last} := by
    ext point
    simp [or_comm]
  rw [splits]
  exact greatest.union isGreatest_singleton

end Below

end Peaks
