import Mathlib.Algebra.Order.Ring.Int
import Mathlib.Order.Monotone.Basic
import Mathlib.Tactic.IntervalCases

set_option autoImplicit false

-- The first days of the months, counted in days from 1 January 1970.
namespace Calendar

def isLeap (year : ℤ) : Bool := year % 4 = 0 && year % 100 ≠ 0 || year % 400 = 0

def leapDays (year : ℤ) : ℤ := (year - 1) / 4 - (year - 1) / 100 + (year - 1) / 400

def yearStart (year : ℤ) : ℤ := 365 * (year - 1970) + leapDays year - leapDays 1970

def daysBefore (leap : Bool) (month : ℤ) : ℤ :=
  let days : ℤ :=
    match month with
    | 0 => 0
    | 1 => 31
    | 2 => 59
    | 3 => 90
    | 4 => 120
    | 5 => 151
    | 6 => 181
    | 7 => 212
    | 8 => 243
    | 9 => 273
    | 10 => 304
    | _ => 334
  if leap && decide (2 ≤ month) then days + 1 else days

def monthStart (month : ℤ) : ℤ :=
  let year := 1970 + month / 12
  yearStart year + daysBefore (isLeap year) (month % 12)

example : monthStart 0 = 0 ∧ monthStart 649 = 19754 ∧ monthStart 650 = 19783 := by decide

theorem year_length (year : ℤ) : yearStart (year + 1) - yearStart year = if isLeap year then 366 else 365 := by
  have leaps : leapDays (year + 1) - leapDays year = if isLeap year then 1 else 0 := by
    simp only [leapDays, isLeap, Bool.or_eq_true, Bool.and_eq_true, decide_eq_true_eq, ne_eq]
    split_ifs <;> omega
  have days : yearStart (year + 1) - yearStart year = 365 + (leapDays (year + 1) - leapDays year) := by
    rw [yearStart, yearStart]
    omega
  rw [days, leaps]
  split_ifs <;> rfl

def monthLength (month : ℤ) : ℤ := monthStart (month + 1) - monthStart month

def daysIn (leap : Bool) (month : ℤ) : ℤ :=
  match month with
  | 1 => if leap then 29 else 28
  | 3 => 30
  | 5 => 30
  | 8 => 30
  | 10 => 30
  | _ => 31

theorem month_start (year month : ℤ) (low : 0 ≤ month) (high : month < 12) :
    monthStart (12 * year + month) = yearStart (1970 + year) + daysBefore (isLeap (1970 + year)) month := by
  have years : (12 * year + month) / 12 = year := by omega
  have months : (12 * year + month) % 12 = month := by omega
  rw [monthStart, years, months]

theorem month_length (year month : ℤ) (low : 0 ≤ month) (high : month < 12) :
    monthLength (12 * year + month) = daysIn (isLeap (1970 + year)) month := by
  by_cases last : month = 11
  · subst last
    have next : 12 * year + 11 + 1 = 12 * (year + 1) + 0 := by omega
    have whole := year_length (1970 + year)
    rw [monthLength, next, month_start _ _ (by decide) (by decide), month_start _ _ (by decide) (by decide), ← add_assoc]
    cases leap : isLeap (1970 + year) with
    | true =>
        rw [leap, if_pos rfl] at whole
        simp only [daysBefore, daysIn]
        norm_num
        omega
    | false =>
        rw [leap, if_neg nofun] at whole
        simp only [daysBefore, daysIn]
        norm_num
        omega
  · rw [monthLength, add_assoc, month_start _ _ (by omega) (by omega), month_start _ _ low high]
    cases isLeap (1970 + year) with
    | true => interval_cases month <;> simp_all [daysBefore, daysIn]
    | false => interval_cases month <;> simp_all [daysBefore, daysIn]

theorem month_split (month : ℤ) : ∃ year part, month = 12 * year + part ∧ 0 ≤ part ∧ part < 12 :=
  ⟨month / 12, month % 12, by omega, by omega, by omega⟩

theorem days_in_bounds (leap : Bool) (month : ℤ) : 28 ≤ daysIn leap month ∧ daysIn leap month ≤ 31 := by
  unfold daysIn
  split
  · cases leap with
    | true => decide
    | false => decide
  all_goals decide

theorem month_length_bounds (month : ℤ) : 28 ≤ monthLength month ∧ monthLength month ≤ 31 := by
  obtain ⟨year, part, rfl, low, high⟩ := month_split month
  rw [month_length year part low high]
  exact days_in_bounds _ part

theorem long_after_short (month : ℤ) (short : monthLength month ≤ 30) : monthLength (month + 1) = 31 := by
  obtain ⟨year, part, rfl, low, high⟩ := month_split month
  rw [month_length year part low high] at short
  have notLast : part ≠ 11 := by
    intro last
    subst last
    simp [daysIn] at short
  rw [add_assoc, month_length year (part + 1) (by omega) (by omega)]
  cases isLeap (1970 + year) with
  | true => interval_cases part <;> simp_all [daysIn]
  | false => interval_cases part <;> simp_all [daysIn]

end Calendar
