import Sagittarius.Library.Grid
import Sagittarius.Market.RangeCoverage

set_option autoImplicit false

namespace Sagittarius

variable (value : ℤ) (intervalSeconds : ℕ)

def openTimeGrid : Set ℤ := {time | (intervalSeconds : ℤ) * 1000000 ∣ time}

structure RoundsExactly : Prop where
  ceil : IsLeast {time | time ∈ openTimeGrid intervalSeconds ∧ value ≤ time} (ceilOpenTime value intervalSeconds)
  floor : IsGreatest {time | time ∈ openTimeGrid intervalSeconds ∧ time ≤ value} (floorOpenTime value intervalSeconds)

theorem floor_open_grid : floorOpenTime value intervalSeconds = Grid.floor intervalSeconds (timestamp value) * 1000000 := by
  rw [floorOpenTime, fromtimestamp, Grid.floor_eq_mul, mul_comm (intervalSeconds : ℤ)]

theorem ceil_open_grid : ceilOpenTime value intervalSeconds = Grid.ceil intervalSeconds (timestamp value) * 1000000 := by
  rw [ceilOpenTime, fromtimestamp, Grid.ceil, Grid.floor_eq_mul, mul_comm (intervalSeconds : ℤ)]

theorem seconds_whole_iff : timestamp value * 1000000 = value ↔ 1000000 ∣ value :=
  ⟨fun same => ⟨timestamp value, by rw [mul_comm, same]⟩, whole_second value⟩

section

variable (positive : 0 < intervalSeconds)

include positive

theorem rounds_exactly_iff :
    RoundsExactly value intervalSeconds ↔ 1000000 ∣ value ∨ ¬(intervalSeconds : ℤ) ∣ timestamp value := by
  have spaced : (0 : ℤ) < intervalSeconds := Int.natCast_pos.mpr positive
  have near := (timestamp_near value).symm
  have floors := Grid.units_floor_iff intervalSeconds spaced 1000000 (by decide) value (timestamp value) near
  have ceils := Grid.units_ceil_iff intervalSeconds spaced 1000000 (by decide) value (timestamp value) near
  rw [← floor_open_grid] at floors
  rw [← ceil_open_grid] at ceils
  have sides : RoundsExactly value intervalSeconds ↔
      ¬((intervalSeconds : ℤ) ∣ timestamp value ∧ timestamp value * 1000000 < value) ∧
        ¬((intervalSeconds : ℤ) ∣ timestamp value ∧ value < timestamp value * 1000000) :=
    ⟨fun exact => ⟨ceils.mp exact.ceil, floors.mp exact.floor⟩, fun both => ⟨ceils.mpr both.1, floors.mpr both.2⟩⟩
  rw [sides, ← seconds_whole_iff]
  by_cases onGrid : (intervalSeconds : ℤ) ∣ timestamp value
  · simp only [onGrid, true_and, not_true_eq_false, or_false]
    omega
  · simp [onGrid]

theorem rounds_exactly_apart (exactly : RoundsExactly value intervalSeconds) :
    (ceilOpenTime value intervalSeconds = floorOpenTime value intervalSeconds ↔ value ∈ openTimeGrid intervalSeconds) ∧
      (value ∉ openTimeGrid intervalSeconds →
        ceilOpenTime value intervalSeconds = floorOpenTime value intervalSeconds + intervalSeconds * 1000000) := by
  have spaced : (0 : ℤ) < intervalSeconds * 1000000 := by omega
  have above := exactly.ceil.unique (Grid.ceil_least _ spaced value)
  have below := exactly.floor.unique (Grid.floor_greatest _ spaced value)
  rw [above, below]
  refine ⟨⟨fun same => ?_, fun onGrid => ?_⟩, Grid.ceil_of_between _ spaced value⟩
  · by_contra offGrid
    have apart := Grid.ceil_of_between _ spaced value offGrid
    omega
  · rw [Grid.ceil_of_multiple _ spaced value onGrid, Grid.floor_of_multiple _ value onGrid]

end

def InYears (time : ℤ) : Prop := -62135596800000000 ≤ time ∧ time ≤ 253402300799999999

instance inYearsDecidable (time : ℤ) : Decidable (InYears time) := inferInstanceAs (Decidable (_ ∧ _))

structure Datetime where
  micros : ℤ
  inYears : InYears micros
deriving DecidableEq

-- `datetime.fromtimestamp` raises for other years.
def datetimeOf (time : ℤ) : Option Datetime := if inYears : InYears time then some ⟨time, inYears⟩ else none

def floorOpenDatetime (value : Datetime) : Option Datetime := datetimeOf (floorOpenTime value.micros intervalSeconds)

def ceilOpenDatetime (value : Datetime) : Option Datetime := datetimeOf (ceilOpenTime value.micros intervalSeconds)

theorem datetime_of_iff (time : ℤ) (datetime : Datetime) : datetimeOf time = some datetime ↔ datetime.micros = time := by
  rw [datetimeOf]
  constructor
  · intro made
    split_ifs at made
    cases made
    rfl
  · rintro rfl
    exact dif_pos datetime.inYears

theorem datetime_of_some (time : ℤ) : (∃ datetime, datetimeOf time = some datetime) ↔ InYears time := by
  constructor
  · rintro ⟨datetime, made⟩
    exact (datetime_of_iff time datetime).mp made ▸ datetime.inYears
  · exact fun inYears => ⟨⟨time, inYears⟩, (datetime_of_iff time _).mpr rfl⟩

section

variable (value : Datetime)

theorem ceil_in_years (exactly : RoundsExactly value.micros intervalSeconds) :
    (∃ ceiled, ceilOpenDatetime intervalSeconds value = some ceiled) ↔
      ∃ after ∈ openTimeGrid intervalSeconds, value.micros ≤ after ∧ InYears after := by
  rw [ceilOpenDatetime, datetime_of_some]
  constructor
  · exact fun inYears => ⟨_, exactly.ceil.1.1, exactly.ceil.1.2, inYears⟩
  · rintro ⟨after, onGrid, above, inYears⟩
    exact ⟨value.inYears.1.trans exactly.ceil.1.2, (exactly.ceil.2 ⟨onGrid, above⟩).trans inYears.2⟩

theorem floor_in_years (exactly : RoundsExactly value.micros intervalSeconds) :
    (∃ floored, floorOpenDatetime intervalSeconds value = some floored) ↔
      ∃ before ∈ openTimeGrid intervalSeconds, before ≤ value.micros ∧ InYears before := by
  rw [floorOpenDatetime, datetime_of_some]
  constructor
  · exact fun inYears => ⟨_, exactly.floor.1.1, exactly.floor.1.2, inYears⟩
  · rintro ⟨before, onGrid, below, inYears⟩
    exact ⟨inYears.1.trans (exactly.floor.2 ⟨onGrid, below⟩), exactly.floor.1.2.trans value.inYears.2⟩

-- The roundings take the seconds of a time with their fraction dropped, and
-- know no instant outside the years of a datetime.
theorem grid_rounding_exact_iff (positive : 0 < intervalSeconds) :
    (∃ ceiled floored, ceilOpenDatetime intervalSeconds value = some ceiled ∧
        floorOpenDatetime intervalSeconds value = some floored ∧
        IsLeast {time | time ∈ openTimeGrid intervalSeconds ∧ value.micros ≤ time} ceiled.micros ∧
        IsGreatest {time | time ∈ openTimeGrid intervalSeconds ∧ time ≤ value.micros} floored.micros ∧
        (ceiled = floored ↔ value.micros ∈ openTimeGrid intervalSeconds) ∧
        (value.micros ∉ openTimeGrid intervalSeconds → ceiled.micros = floored.micros + intervalSeconds * 1000000)) ↔
      (1000000 ∣ value.micros ∨ ¬(intervalSeconds : ℤ) ∣ timestamp value.micros) ∧
        (∃ after ∈ openTimeGrid intervalSeconds, value.micros ≤ after ∧ InYears after) ∧
        ∃ before ∈ openTimeGrid intervalSeconds, before ≤ value.micros ∧ InYears before := by
  rw [← rounds_exactly_iff value.micros intervalSeconds positive]
  constructor
  · rintro ⟨ceiled, floored, ceils, floors, least, greatest, _⟩
    have exactly : RoundsExactly value.micros intervalSeconds :=
      ⟨(datetime_of_iff _ ceiled).mp ceils ▸ least, (datetime_of_iff _ floored).mp floors ▸ greatest⟩
    exact ⟨exactly, (ceil_in_years intervalSeconds value exactly).mp ⟨ceiled, ceils⟩,
      (floor_in_years intervalSeconds value exactly).mp ⟨floored, floors⟩⟩
  · rintro ⟨exactly, after, before⟩
    obtain ⟨ceiled, ceils⟩ := (ceil_in_years intervalSeconds value exactly).mpr after
    obtain ⟨floored, floors⟩ := (floor_in_years intervalSeconds value exactly).mpr before
    have ceilTime : ceiled.micros = ceilOpenTime value.micros intervalSeconds := (datetime_of_iff _ ceiled).mp ceils
    have floorTime : floored.micros = floorOpenTime value.micros intervalSeconds := (datetime_of_iff _ floored).mp floors
    have apart := rounds_exactly_apart value.micros intervalSeconds positive exactly
    have same : ceiled = floored ↔ ceiled.micros = floored.micros := by
      cases ceiled
      cases floored
      exact Datetime.mk.injEq .. ▸ Iff.rfl
    rw [← ceilTime, ← floorTime] at apart
    exact ⟨ceiled, floored, ceils, floors, ceilTime ▸ exactly.ceil, floorTime ▸ exactly.floor, same.trans apart.1, apart.2⟩

end

def midMinute : Datetime := ⟨90500000, by decide⟩

theorem minutes_round_exactly :
    ∃ ceiled floored, ceilOpenDatetime 60 midMinute = some ceiled ∧ floorOpenDatetime 60 midMinute = some floored ∧
      IsLeast {time | time ∈ openTimeGrid 60 ∧ 90500000 ≤ time} ceiled.micros ∧
      IsGreatest {time | time ∈ openTimeGrid 60 ∧ time ≤ 90500000} floored.micros ∧
      ceiled.micros = floored.micros + (60 : ℕ) * 1000000 := by
  have aside : ¬((60 : ℕ) : ℤ) ∣ timestamp midMinute.micros := by decide +kernel
  obtain ⟨ceiled, floored, ceils, floors, least, greatest, _, apart⟩ :=
    (grid_rounding_exact_iff 60 midMinute (by decide)).mpr
      ⟨.inr aside, ⟨120000000, ⟨2, by decide⟩, by decide, by decide⟩, ⟨60000000, ⟨1, by decide⟩, by decide, by decide⟩⟩
  refine ⟨ceiled, floored, ceils, floors, least, greatest, apart fun onGrid => ?_⟩
  have divides : ((60 : ℕ) : ℤ) * 1000000 ∣ 90500000 := onGrid
  exact absurd divides (by decide)

-- Half a second past a minute is rounded up to that minute; the last
-- microsecond of a minute of the year 2600 is rounded down to the next.
theorem ceil_before_value :
    ceilOpenTime 60500000 60 = 60000000 ∧ ¬RoundsExactly 60500000 60 ∧
      floorOpenTime 19880899259999999 60 = 19880899260000000 ∧ ¬RoundsExactly 19880899259999999 60 := by
  have ceils : ceilOpenTime 60500000 60 = 60000000 := by decide +kernel
  have floors : floorOpenTime 19880899259999999 60 = 19880899260000000 := by decide +kernel
  refine ⟨ceils, fun exactly => ?_, floors, fun exactly => ?_⟩
  · have atLeast : (60500000 : ℤ) ≤ ceilOpenTime 60500000 60 := exactly.ceil.1.2
    rw [ceils] at atLeast
    exact absurd atLeast (by decide)
  · have atMost : floorOpenTime 19880899259999999 60 ≤ (19880899259999999 : ℤ) := exactly.floor.1.2
    rw [floors] at atMost
    exact absurd atMost (by decide)

end Sagittarius
