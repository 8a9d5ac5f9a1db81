import Mathlib.Data.List.Induction
import Sagittarius.Domain.Series

set_option autoImplicit false

namespace Sagittarius

variable {α : Type}

inductive SeriesCall (α : Type)
  | push (value : Option α)
  | pokeProvisional (value : Option α)
deriving DecidableEq

namespace SeriesCall

def isPush : SeriesCall α → Bool
  | push _ => true
  | pokeProvisional _ => false

def value : SeriesCall α → Option α
  | push value => value
  | pokeProvisional value => value

def pushed (calls : List (SeriesCall α)) : List (Option α) := ((calls.filter isPush).map value).reverse

def pokedSince (calls : List (SeriesCall α)) : List (Option α) := (calls.reverse.takeWhile fun call => !call.isPush).map value

theorem pushed_append (calls : List (SeriesCall α)) (last : SeriesCall α) :
    pushed (calls ++ [last]) = if last.isPush then last.value :: pushed calls else pushed calls := by
  cases last with
  | push value =>
      rw [pushed, List.filter_append, List.map_append, List.reverse_append]
      rfl
  | pokeProvisional value =>
      rw [pushed, List.filter_append, List.map_append, List.reverse_append]
      rfl

theorem poked_append (calls : List (SeriesCall α)) (last : SeriesCall α) :
    pokedSince (calls ++ [last]) = if last.isPush then [] else last.value :: pokedSince calls := by
  cases last with
  | push value => simp [pokedSince, isPush]
  | pokeProvisional value => simp [pokedSince, isPush]

end SeriesCall

namespace Series

open SeriesCall

def call (series : Series α) : SeriesCall α → Series α
  | .push value => series.push value
  | .pokeProvisional value => series.pokeProvisional value

def after (history : ℕ) (comparable : minimumHistory ≤ history) (calls : List (SeriesCall α)) : Series α :=
  calls.foldl call (empty history comparable)

-- The deque is the newest part of an unbounded list of bars.
structure Represents (series : Series α) (pushes pokes : List (Option α)) : Prop where
  values : series.values = pushes.take series.history
  provisional : series.provisional = pokes.head?

theorem represents_push (series : Series α) (pushes pokes : List (Option α)) (value : Option α)
    (represents : series.Represents pushes pokes) : (series.push value).Represents (value :: pushes) [] where
  values := by
    obtain ⟨rest, isRest⟩ : ∃ rest, series.history = rest + 1 :=
      ⟨series.history - 1, by have := series.comparable; rw [minimumHistory] at this; omega⟩
    have cut : (value :: series.values).take series.history = (value :: pushes).take series.history := by
      rw [represents.values, isRest, List.take_succ_cons, List.take_succ_cons, List.take_take,
        Nat.min_eq_left (Nat.le_succ rest)]
    exact cut
  provisional := rfl

theorem represents_poke (series : Series α) (pushes pokes : List (Option α)) (value : Option α)
    (represents : series.Represents pushes pokes) : (series.pokeProvisional value).Represents pushes (value :: pokes) where
  values := represents.values
  provisional := rfl

theorem represents_call (series : Series α) (calls : List (SeriesCall α)) (last : SeriesCall α)
    (represents : series.Represents (pushed calls) (pokedSince calls)) :
    (series.call last).Represents (pushed (calls ++ [last])) (pokedSince (calls ++ [last])) := by
  rw [pushed_append, poked_append]
  cases last with
  | push value => exact represents_push series _ _ value represents
  | pokeProvisional value => exact represents_poke series _ _ value represents

theorem call_history (series : Series α) (last : SeriesCall α) : (series.call last).history = series.history := by
  cases last with
  | push value => rfl
  | pokeProvisional value => rfl

section

variable (history : ℕ) (comparable : minimumHistory ≤ history)

theorem after_append (calls : List (SeriesCall α)) (last : SeriesCall α) :
    after history comparable (calls ++ [last]) = (after history comparable calls).call last :=
  List.foldl_concat ..

theorem after_history (calls : List (SeriesCall α)) : (after history comparable calls).history = history := by
  induction calls using List.reverseRecOn with
  | nil => rfl
  | append_singleton calls last ih => rw [after_append, call_history, ih]

theorem after_represents (calls : List (SeriesCall α)) :
    (after history comparable calls).Represents (pushed calls) (pokedSince calls) := by
  induction calls using List.reverseRecOn with
  | nil => exact ⟨List.take_nil.symm, rfl⟩
  | append_singleton calls last ih =>
      rw [after_append]
      exact represents_call _ calls last ih

end

section

variable (series : Series α) (pushes pokes : List (Option α)) (represents : series.Represents pushes pokes)

include represents

theorem committed_recent (back : ℕ) (kept : back < min series.history pushes.length) :
    ∃ value, pushes[back]? = some value ∧ series.committed back = value := by
  obtain ⟨inWindow, inPushes⟩ := Nat.lt_min.mp kept
  refine ⟨pushes[back], List.getElem?_eq_getElem inPushes, ?_⟩
  rw [committed, represents.values, List.getElem?_take_of_lt inWindow, List.getElem?_eq_getElem inPushes]
  rfl

theorem committed_beyond (back : ℕ) (beyond : min series.history pushes.length ≤ back) : series.committed back = none := by
  have outside : (pushes.take series.history)[back]? = none :=
    List.getElem?_eq_none (by rw [List.length_take]; exact beyond)
  rw [committed, represents.values, outside]
  rfl

theorem item_settled (settled : pokes = []) (back : ℕ) : series.item back = series.committed back := by
  have unset : series.provisional = none := by rw [represents.provisional, settled]; rfl
  unfold item
  rw [unset]

theorem item_latest (latest : Option α) (earlier : List (Option α)) (poked : pokes = latest :: earlier) :
    series.item 0 = latest ∧ ∀ back, series.item (back + 1) = series.committed back := by
  have held : series.provisional = some latest := by rw [represents.provisional, poked]; rfl
  constructor
  · unfold item
    rw [held]
  · intro back
    unfold item
    rw [held]

end

theorem poke_committed (series : Series α) (value : Option α) (back : ℕ) :
    (series.pokeProvisional value).committed back = series.committed back := rfl

theorem simulates_bars (history : ℕ) (comparable : minimumHistory ≤ history) (calls : List (SeriesCall α)) :
    let series := after history comparable calls
    (∀ back, back < min history (pushed calls).length →
        ∃ value, (pushed calls)[back]? = some value ∧ series.committed back = value) ∧
      (∀ back, min history (pushed calls).length ≤ back → series.committed back = none) ∧
      (pokedSince calls = [] → ∀ back, series.item back = series.committed back) ∧
      (∀ latest earlier, pokedSince calls = latest :: earlier →
        series.item 0 = latest ∧ ∀ back, series.item (back + 1) = series.committed back) ∧
      ∀ value back, (series.pokeProvisional value).committed back = series.committed back := by
  intro series
  have represents : series.Represents (pushed calls) (pokedSince calls) := after_represents history comparable calls
  have same : series.history = history := after_history history comparable calls
  refine ⟨fun back kept => ?_, fun back beyond => ?_, ?_, ?_, ?_⟩
  · exact committed_recent series _ _ represents back (same ▸ kept)
  · exact committed_beyond series _ _ represents back (same ▸ beyond)
  · exact item_settled series _ _ represents
  · exact item_latest series _ _ represents
  · exact poke_committed series

theorem second_poke_shown :
    let series := after 2 (by decide)
      [.push (some 4), .push none, .push (some 6), .pokeProvisional (some 7), .pokeProvisional (some 9)]
    series.item 0 = some 9 ∧ (∀ back, series.item (back + 1) = series.committed back) ∧ series.committed 0 = some 6 ∧
      series.committed 2 = none := by
  have simulates := simulates_bars 2 (by decide)
    [.push (some 4), .push none, .push (some 6), .pokeProvisional (some 7), .pokeProvisional (some 9)]
  obtain ⟨_, beyond, _, poked, _⟩ := simulates
  obtain ⟨latest, shifted⟩ := poked (some 9) [some 7] rfl
  exact ⟨latest, shifted, rfl, beyond 2 (by decide)⟩

end Series

end Sagittarius
