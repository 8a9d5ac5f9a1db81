import Mathlib.Data.Nat.Size
import Sagittarius.Library.Pyramid

set_option autoImplicit false

namespace Sagittarius

open Pyramids Bisecting

variable {α : Type} [PyFloat α]

abbrev VolumeBar (α : Type) := α × α × Bool

-- A bucket has a row or two of the level under it, never none.
def aggregateVolumeBucket : List (VolumeBar α) → VolumeBar α
  | [] => (PyFloat.literal 0, PyFloat.literal 0, false)
  | first :: rest =>
      let last := rest.getLastD first
      (first.1 + (last.1 - first.1) / PyFloat.literal 2, PyFloat.total ((first :: rest).map (·.2.1)), last.2.2)

def buildVolumeLodPyramid (data : List (VolumeBar α)) : List (List (VolumeBar α)) := climb aggregateVolumeBucket data

structure OhlcRow (α : Type) where
  timestamp : α
  openPrice : α
  highPrice : α
  lowPrice : α
  closePrice : α
deriving DecidableEq

def aggregateOhlcBucket : List (OhlcRow α) → OhlcRow α
  | [] =>
      { timestamp := PyFloat.literal 0
        openPrice := PyFloat.literal 0
        highPrice := PyFloat.literal 0
        lowPrice := PyFloat.literal 0
        closePrice := PyFloat.literal 0 }
  | first :: rest =>
      let last := rest.getLastD first
      { timestamp := first.timestamp + (last.timestamp - first.timestamp) / PyFloat.literal 2
        openPrice := first.openPrice
        highPrice := PyFloat.largest first.highPrice (rest.map (·.highPrice))
        lowPrice := PyFloat.smallest first.lowPrice (rest.map (·.lowPrice))
        closePrice := last.closePrice }

def buildOhlcLodPyramid (data : List (OhlcRow α)) : List (List (OhlcRow α)) := climb aggregateOhlcBucket data

def minPixelsPerBucket : α := PyFloat.literal 3

def targetBucketCount (viewportWidth : α) : ℕ := max 1 (PyFloat.toInt (viewportWidth / minPixelsPerBucket)).toNat

def selectLodLevel (visibleSampleCount : ℕ) (viewportWidth : α) (availableLevels : ℕ) : ℕ :=
  if visibleSampleCount = 0 ∨ viewportWidth ≤ PyFloat.literal 0 ∨ availableLevels ≤ 1 then 0
  else
    let target := targetBucketCount viewportWidth
    let requiredBucketSize := max 1 ((visibleSampleCount + target - 1) / target)
    min (requiredBucketSize - 1).size (availableLevels - 1)

def lodSliceIndices (rawLo rawHi level : ℕ) : ℕ × ℕ := (rawLo / 2 ^ level, (rawHi + 2 ^ level - 1) / 2 ^ level)

def visibleSliceIndices {τ : Type} (key : τ → α) (sortedValues : List τ) (minX maxX padding : α) : ℕ × ℕ :=
  (insertionPoint (fun value => Decidable.decide (key value < minX - padding)) sortedValues,
    insertionPoint (fun value => !Decidable.decide (maxX + padding < key value)) sortedValues)

theorem level_fits (count : ℕ) (viewportWidth : α) (availableLevels : ℕ) (wide : ¬ viewportWidth ≤ PyFloat.literal 0) :
    count ≤ targetBucketCount viewportWidth * 2 ^ selectLodLevel count viewportWidth availableLevels ∨
      selectLodLevel count viewportWidth availableLevels = availableLevels - 1 := by
  have positive : 0 < targetBucketCount viewportWidth := Nat.lt_of_lt_of_le Nat.one_pos (le_max_left _ _)
  rw [selectLodLevel]
  by_cases still : count = 0 ∨ viewportWidth ≤ PyFloat.literal 0 ∨ availableLevels ≤ 1
  · rw [if_pos still]
    obtain rfl | narrow | flat := still
    · exact .inl (Nat.zero_le _)
    · exact absurd narrow wide
    · exact .inr (by omega)
  · rw [if_neg still]
    dsimp only
    generalize sized : max 1 ((count + targetBucketCount viewportWidth - 1) / targetBucketCount viewportWidth) = required
    by_cases low : (required - 1).size ≤ availableLevels - 1
    · have enough : required ≤ 2 ^ (required - 1).size := by
        have := Nat.lt_size_self (required - 1)
        omega
      have ceiled : (count + targetBucketCount viewportWidth - 1) / targetBucketCount viewportWidth ≤ required :=
        sized ▸ le_max_right _ _
      have covered : count ≤ targetBucketCount viewportWidth * required := by
        rw [Nat.div_le_iff_le_mul positive] at ceiled
        rw [mul_comm]
        omega
      rw [min_eq_left low]
      exact .inl (covered.trans (Nat.mul_le_mul_left _ enough))
    · exact .inr (min_eq_right (Nat.not_le.mp low).le)

theorem select_lod_level_le (count : ℕ) (viewportWidth : α) (availableLevels : ℕ) :
    selectLodLevel count viewportWidth availableLevels ≤ availableLevels - 1 := by
  rw [selectLodLevel]
  split_ifs
  · exact Nat.zero_le _
  · exact min_le_right _ _

theorem level_listed {τ : Type} (aggregate : List τ → τ) (data : List τ) (level : ℕ)
    (within : level ≤ (climb aggregate data).length - 1) :
    (climb aggregate data).getD level [] = (halve aggregate)^[level] data := by
  have positive := List.length_pos_iff.mpr (climb_ne_nil aggregate data)
  have inside : level < (climb aggregate data).length := by omega
  rw [List.getD_eq_getElem?_getD, List.getElem?_eq_getElem inside, Option.getD_some]
  exact climb_level aggregate data level _ (List.getElem?_eq_getElem inside)

theorem slice_short {τ : Type} (lo hi : ℕ) (values : List τ) : (slice lo hi values).length ≤ values.length := by
  rw [slice, List.length_drop, List.length_take]
  omega

theorem drawn_few {τ : Type} (aggregate : List τ → τ) (data : List τ) (lo hi : ℕ) (viewportWidth : α)
    (wide : ¬ viewportWidth ≤ PyFloat.literal 0) :
    let level := selectLodLevel (hi - lo) viewportWidth (climb aggregate data).length
    (slice (lodSliceIndices lo hi level).1 (lodSliceIndices lo hi level).2 ((climb aggregate data).getD level [])).length ≤
      targetBucketCount viewportWidth + 1 := by
  intro level
  have fits := level_fits (hi - lo) viewportWidth (climb aggregate data).length wide
  obtain enough | top := fits
  · exact shown_few _ level lo hi _ enough
  · have short : ((climb aggregate data).getD level []).length ≤ 1 := by
      rw [List.getD_eq_getElem?_getD]
      cases listed : (climb aggregate data)[level]? with
      | none => exact Nat.zero_le _
      | some found => exact climb_last aggregate data found (top ▸ listed)
    exact (slice_short _ _ _).trans (short.trans (Nat.le_add_left 1 _))

section Rationals

theorem ascending_stops {τ : Type} (key : τ → ℚ) (values : List τ) (ascending : (values.map key).Pairwise (· ≤ ·))
    (before : τ → Bool) (down : ∀ first second, key first ≤ key second → before second = true → before first = true) :
    StopsOnce before values :=
  (List.pairwise_map.mp ascending).imp fun ordered => down _ _ ordered

theorem visible_slice_filter {τ : Type} (key : τ → ℚ) (values : List τ) (minX maxX padding : ℚ)
    (ascending : (values.map key).Pairwise (· ≤ ·)) :
    slice (visibleSliceIndices key values minX maxX padding).1 (visibleSliceIndices key values minX maxX padding).2 values =
      values.filter fun value => Decidable.decide (minX - padding ≤ key value ∧ key value ≤ maxX + padding) := by
  rw [visibleSliceIndices, slice_filter _ _ values (ascending_stops key values ascending _ ?_)
    (ascending_stops key values ascending _ ?_)]
  · refine List.filter_congr fun value _ => ?_
    rw [Bool.eq_iff_iff]
    simp only [Bool.and_eq_true, Bool.not_eq_true', decide_eq_true_eq, decide_eq_false_iff_not, not_lt]
  · intro first second ordered later
    have := of_decide_eq_true later
    exact decide_eq_true (lt_of_le_of_lt ordered this)
  · intro first second ordered later
    simp only [Bool.not_eq_true', decide_eq_false_iff_not, not_lt] at later ⊢
    exact ordered.trans later

structure WithinTimes {τ : Type} (time : τ → ℚ) (rows : List τ) (moment : ℚ) : Prop where
  after : ∀ first ∈ rows.head?, time first ≤ moment
  upTo : ∀ last ∈ rows.getLast?, moment ≤ time last

theorem single_within {τ : Type} (time : τ → ℚ) (row : τ) : WithinTimes time [row] (time row) where
  after := by
    rintro _ ⟨⟩
    exact le_refl _
  upTo := by
    rintro _ ⟨⟩
    exact le_refl _

theorem midpoint_within {τ : Type} (time : τ → ℚ) (data earlier later : List τ) (first second : ℚ)
    (ascending : (data.map time).Pairwise (· ≤ ·)) (earlierSome : earlier ≠ []) (laterSome : later ≠ [])
    (part : (earlier ++ later).Sublist data) (firstWithin : WithinTimes time earlier first)
    (secondWithin : WithinTimes time later second) :
    WithinTimes time (earlier ++ later) (first + (second - first) / 2) := by
  have ordered := (List.pairwise_append.mp ((List.pairwise_map.mp ascending).sublist part)).2.2
  have ending := List.getLast?_eq_getLast_of_ne_nil earlierSome
  have start := List.head?_eq_some_head laterSome
  have apart : first ≤ second := (firstWithin.upTo _ ending).trans
    ((ordered _ (List.getLast_mem earlierSome) _ (List.head_mem laterSome)).trans (secondWithin.after _ start))
  constructor
  · intro head isHead
    rw [List.head?_append_of_ne_nil _ earlierSome] at isHead
    have := firstWithin.after head isHead
    linarith
  · intro last isLast
    rw [List.getLast?_append_of_ne_nil _ laterSome] at isLast
    have := secondWithin.upTo last isLast
    linarith

-- A bar that stands for others has their volume and the direction of the last,
-- and lies among them.
structure StandsFor (rows : List (VolumeBar ℚ)) (bar : VolumeBar ℚ) : Prop where
  volume : bar.2.1 = (rows.map (·.2.1)).sum
  direction : rows.getLast?.map (·.2.2) = some bar.2.2
  times : WithinTimes (·.1) rows bar.1

theorem volume_represents (data : List (VolumeBar ℚ)) (ascending : (data.map (·.1)).Pairwise (· ≤ ·)) :
    Represents aggregateVolumeBucket StandsFor data where
  lone entry := by
    obtain ⟨time, volume, bullish⟩ := entry
    simp [aggregateVolumeBucket]
  single entry := ⟨by simp, rfl, single_within _ entry⟩
  pair earlier later first second earlierSome laterSome part earlierStands laterStands := by
    refine ⟨?_, ?_, ?_⟩
    · simp [aggregateVolumeBucket, earlierStands.volume, laterStands.volume]
    · rw [List.getLast?_append_of_ne_nil _ laterSome, laterStands.direction]
      rfl
    · exact midpoint_within (·.1) data earlier later first.1 second.1 ascending earlierSome laterSome part
        earlierStands.times laterStands.times

-- A candle that stands for others opens as the first and closes as the last
-- does, reaches as high and as low as any of them, and lies among them.
structure StandsForCandles (rows : List (OhlcRow ℚ)) (candle : OhlcRow ℚ) : Prop where
  opens : rows.head?.map (·.openPrice) = some candle.openPrice
  closes : rows.getLast?.map (·.closePrice) = some candle.closePrice
  high : IsGreatest {high | high ∈ rows.map (·.highPrice)} candle.highPrice
  low : IsLeast {low | low ∈ rows.map (·.lowPrice)} candle.lowPrice
  times : WithinTimes (·.timestamp) rows candle.timestamp

theorem values_append {τ : Type} (value : τ → ℚ) (earlier later : List τ) :
    {x | x ∈ (earlier ++ later).map value} = {x | x ∈ earlier.map value} ∪ {x | x ∈ later.map value} := by
  rw [List.map_append]
  exact Set.ext fun x => List.mem_append

theorem ohlc_represents (data : List (OhlcRow ℚ)) (ascending : (data.map (·.timestamp)).Pairwise (· ≤ ·)) :
    Represents aggregateOhlcBucket StandsForCandles data where
  lone entry := by
    obtain ⟨timestamp, openPrice, highPrice, lowPrice, closePrice⟩ := entry
    simp [aggregateOhlcBucket, PyFloat.largest, PyFloat.smallest]
  single entry := ⟨rfl, rfl, by simp, by simp, single_within _ entry⟩
  pair earlier later first second earlierSome laterSome part earlierStands laterStands := by
    refine ⟨?_, ?_, ?_, ?_, ?_⟩
    · rw [List.head?_append_of_ne_nil _ earlierSome, earlierStands.opens]
      rfl
    · rw [List.getLast?_append_of_ne_nil _ laterSome, laterStands.closes]
      rfl
    · have union := earlierStands.high.union laterStands.high
      rw [← rat_larger, ← values_append] at union
      exact union
    · have union := earlierStands.low.union laterStands.low
      rw [← rat_smaller, ← values_append] at union
      exact union
    · exact midpoint_within (·.timestamp) data earlier later first.timestamp second.timestamp ascending earlierSome laterSome
        part earlierStands.times laterStands.times

end Rationals

end Sagittarius
