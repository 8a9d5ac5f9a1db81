import Mathlib.Algebra.Order.Field.Basic
import Mathlib.Data.List.MinMax
import Mathlib.Tactic.FieldSimp
import Mathlib.Tactic.Linarith
import Mathlib.Tactic.Ring

set_option autoImplicit false

-- Moving averages of a sequence, oldest value first.
namespace Smoothing

variable {K : Type} [Field K]

def mean (values : List K) : K := values.sum / (values.length : K)

def blend (alpha previous value : K) : K := alpha * value + (1 - alpha) * previous

def smooth (alpha seed : K) (values : List K) : K := values.foldl (blend alpha) seed

def exponential (alpha : K) (period : ℕ) (values : List K) : Option K :=
  if values.length < period then none
  else some (smooth alpha (mean (values.take period)) (values.drop period))

def wilder (period : ℕ) (values : List K) : Option K :=
  if values.length < period then none
  else some ((values.drop period).foldl (fun previous value => (previous * ((period : K) - 1) + value) / (period : K))
    (mean (values.take period)))

def linear (values : List K) : K :=
  ((values.zipIdx 1).map fun weighed => weighed.1 * (weighed.2 : K)).sum / (((List.range' 1 values.length).sum : ℕ) : K)

theorem exponential_none (alpha : K) (period : ℕ) (values : List K) :
    exponential alpha period values = none ↔ values.length < period := by
  rw [exponential]
  split_ifs with short
  · simp [short]
  · simp [short]

variable [LinearOrder K] [IsStrictOrderedRing K]

theorem blend_between (alpha low high previous value : K) (positive : 0 ≤ alpha) (atMost : alpha ≤ 1)
    (held : low ≤ previous ∧ previous ≤ high) (next : low ≤ value ∧ value ≤ high) :
    low ≤ blend alpha previous value ∧ blend alpha previous value ≤ high := by
  have rest : 0 ≤ 1 - alpha := sub_nonneg.mpr atMost
  have lower := add_le_add (mul_le_mul_of_nonneg_left next.1 positive) (mul_le_mul_of_nonneg_left held.1 rest)
  have upper := add_le_add (mul_le_mul_of_nonneg_left next.2 positive) (mul_le_mul_of_nonneg_left held.2 rest)
  have whole (x : K) : alpha * x + (1 - alpha) * x = x := by ring
  rw [whole] at lower upper
  exact ⟨lower, upper⟩

theorem smooth_between (alpha low high seed : K) (values : List K) (positive : 0 ≤ alpha) (atMost : alpha ≤ 1)
    (held : low ≤ seed ∧ seed ≤ high) (bounded : ∀ value ∈ values, low ≤ value ∧ value ≤ high) :
    low ≤ smooth alpha seed values ∧ smooth alpha seed values ≤ high := by
  induction values generalizing seed with
  | nil => exact held
  | cons head tail ih =>
      apply ih
      · exact blend_between alpha low high seed head positive atMost held (bounded head List.mem_cons_self)
      · intro value inside
        exact bounded value (List.mem_cons_of_mem head inside)

theorem sum_between (low high : K) (values : List K) (bounded : ∀ value ∈ values, low ≤ value ∧ value ≤ high) :
    low * (values.length : K) ≤ values.sum ∧ values.sum ≤ high * (values.length : K) := by
  induction values with
  | nil => simp
  | cons head tail ih =>
      obtain ⟨lower, upper⟩ := ih fun value inside => bounded value (List.mem_cons_of_mem head inside)
      obtain ⟨headLow, headHigh⟩ := bounded head List.mem_cons_self
      rw [List.sum_cons, List.length_cons]
      push_cast
      constructor
      · linarith
      · linarith

theorem mean_between (low high : K) (values : List K) (filled : values ≠ [])
    (bounded : ∀ value ∈ values, low ≤ value ∧ value ≤ high) : low ≤ mean values ∧ mean values ≤ high := by
  have positive : (0 : K) < (values.length : K) := by
    exact_mod_cast List.length_pos_iff.mpr filled
  obtain ⟨lower, upper⟩ := sum_between low high values bounded
  exact ⟨(le_div_iff₀ positive).mpr lower, (div_le_iff₀ positive).mpr upper⟩

theorem exponential_between (alpha low high average : K) (period : ℕ) (values : List K) (positive : 0 < period)
    (weighed : 0 ≤ alpha ∧ alpha ≤ 1) (bounded : ∀ value ∈ values, low ≤ value ∧ value ≤ high)
    (ready : exponential alpha period values = some average) : low ≤ average ∧ average ≤ high := by
  rw [exponential] at ready
  split_ifs at ready with short
  obtain rfl := Option.some.inj ready
  have filled : values.take period ≠ [] := by
    apply List.ne_nil_of_length_pos
    rw [List.length_take]
    omega
  apply smooth_between alpha low high _ _ weighed.1 weighed.2
  · exact mean_between low high _ filled fun value inside => bounded value (List.mem_of_mem_take inside)
  · intro value inside
    exact bounded value (List.mem_of_mem_drop inside)

theorem exponential_within (alpha average : K) (period : ℕ) (values : List K) (positive : 0 < period)
    (weighed : 0 ≤ alpha ∧ alpha ≤ 1) (ready : exponential alpha period values = some average) :
    ∃ low ∈ values, ∃ high ∈ values, low ≤ average ∧ average ≤ high := by
  have filled : 0 < values.length := by
    by_contra empty
    have short : values.length < period := by omega
    rw [(exponential_none alpha period values).mpr short] at ready
    cases ready
  refine ⟨_, List.minimum_of_length_pos_mem filled, _, List.maximum_of_length_pos_mem filled, ?_⟩
  apply exponential_between alpha _ _ average period values positive weighed _ ready
  intro value inside
  exact ⟨List.minimum_of_length_pos_le_of_mem inside filled, List.le_maximum_of_length_pos_of_mem inside filled⟩

theorem exponential_nonneg (alpha average : K) (period : ℕ) (values : List K) (positive : 0 < period)
    (weighed : 0 ≤ alpha ∧ alpha ≤ 1) (gains : ∀ value ∈ values, 0 ≤ value)
    (ready : exponential alpha period values = some average) : 0 ≤ average := by
  obtain ⟨low, inside, _, _, above, _⟩ := exponential_within alpha average period values positive weighed ready
  exact (gains low inside).trans above

theorem wilder_exponential (period : ℕ) (positive : 0 < period) (values : List K) :
    wilder period values = exponential (1 / (period : K)) period values := by
  have nonzero : (period : K) ≠ 0 := by
    exact_mod_cast positive.ne'
  have same : (fun previous value : K => (previous * ((period : K) - 1) + value) / (period : K))
      = blend (1 / (period : K)) := by
    funext previous value
    rw [blend]
    field_simp
    ring
  rw [wilder, exponential, smooth]
  rw [same]

end Smoothing
