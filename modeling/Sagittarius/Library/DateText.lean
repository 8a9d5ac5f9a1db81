import Sagittarius.Library.Calendar
import Sagittarius.Library.Python

set_option autoImplicit false

-- `datetime.strptime(text, "%Y-%m-%d %H:%M")` in UTC, as microseconds from
-- 1 January 1970.
namespace DateText

-- The value of a Unicode decimal digit, which is what `\d` matches.
variable (decimal : Char → Option ℕ)

def digitIn (low high : ℕ) (c : Char) : Option ℕ :=
  if '0'.toNat + low ≤ c.toNat ∧ c.toNat ≤ '0'.toNat + high then some (c.toNat - '0'.toNat) else none

def upTo (separator : Char) : List Char → Option (List Char × List Char)
  | [] => none
  | c :: rest =>
      if c = separator then some ([], rest) else (upTo separator rest).map fun (before, after) => (c :: before, after)

def year : List Char → Option ℕ
  | [a, b, c, d] => do return 1000 * (← decimal a) + 100 * (← decimal b) + 10 * (← decimal c) + (← decimal d)
  | _ => none

def month : List Char → Option ℕ
  | ['1', unit] => (digitIn 0 2 unit).map (10 + ·)
  | ['0', unit] => digitIn 1 9 unit
  | [unit] => digitIn 1 9 unit
  | _ => none

def day : List Char → Option ℕ
  | ['3', unit] => (digitIn 0 1 unit).map (30 + ·)
  | ['0', unit] => digitIn 1 9 unit
  | [' ', unit] => digitIn 1 9 unit
  | [ten, unit] => do return 10 * (← digitIn 1 2 ten) + (← decimal unit)
  | [unit] => digitIn 1 9 unit
  | _ => none

def hour : List Char → Option ℕ
  | ['2', unit] => (digitIn 0 3 unit).map (20 + ·)
  | [ten, unit] => do return 10 * (← digitIn 0 1 ten) + (← decimal unit)
  | [unit] => decimal unit
  | _ => none

def minute : List Char → Option ℕ
  | [ten, unit] => do return 10 * (← digitIn 0 5 ten) + (← decimal unit)
  | [unit] => decimal unit
  | _ => none

def upToSpaces (text : List Char) : Option (List Char × List Char) :=
  match text.dropWhile (!pyIsSpace ·) with
  | [] => none
  | rest => some (text.takeWhile (!pyIsSpace ·), rest.dropWhile pyIsSpace)

def dayField : List Char → Option (List Char × List Char)
  | ' ' :: text => (upToSpaces text).map fun (field, rest) => (' ' :: field, rest)
  | text => upToSpaces text

-- `datetime` checks the year and the day of the month.
def instant (year month day hour minute : ℕ) : Option ℤ :=
  let months : ℤ := 12 * ((year : ℤ) - 1970) + ((month : ℤ) - 1)
  if 1 ≤ year ∧ (day : ℤ) ≤ Calendar.monthLength months then
    some (((Calendar.monthStart months + ((day : ℤ) - 1)) * 1440 + 60 * hour + minute) * 60000000)
  else none

def strptime (text : List Char) : Option ℤ := do
  let (yearText, rest) ← upTo '-' text
  let (monthText, rest) ← upTo '-' rest
  let (dayText, rest) ← dayField rest
  let (hourText, minuteText) ← upTo ':' rest
  instant (← year decimal yearText) (← month monthText) (← day decimal dayText) (← hour decimal hourText)
    (← minute decimal minuteText)

def ascii (c : Char) : Option ℕ := digitIn 0 9 c

example : strptime ascii "2026-01-02 00:30".toList = some 1767313800000000 := by decide +kernel

theorem up_to_absent (separator : Char) (text : List Char) (absent : separator ∉ text) : upTo separator text = none := by
  induction text with
  | nil => rfl
  | cons c rest ih =>
      rw [List.mem_cons, not_or] at absent
      rw [upTo, if_neg (Ne.symm absent.1), ih absent.2]
      rfl

theorem up_to_rest (separator : Char) (text before after : List Char) (split : upTo separator text = some (before, after)) :
    after ⊆ text := by
  induction text generalizing before with
  | nil => cases split
  | cons c rest ih =>
      rw [upTo] at split
      by_cases same : c = separator
      · rw [if_pos same] at split
        cases split
        exact List.subset_cons_self ..
      · rw [if_neg same] at split
        cases later : upTo separator rest with
        | none => simp [later] at split
        | some parts =>
            obtain ⟨front, back⟩ := parts
            rw [later] at split
            cases split
            exact List.subset_cons_of_subset c (ih front later)

theorem up_to_spaces_rest (text before after : List Char) (split : upToSpaces text = some (before, after)) :
    after ⊆ text := by
  rw [upToSpaces] at split
  cases spaced : text.dropWhile (!pyIsSpace ·) with
  | nil => simp [spaced] at split
  | cons c later =>
      rw [spaced] at split
      cases split
      have dropped := (List.dropWhile_sublist pyIsSpace (l := c :: later)).subset
      have inside := (List.dropWhile_sublist (!pyIsSpace ·) (l := text)).subset
      rw [spaced] at inside
      exact List.Subset.trans dropped inside

theorem day_field_rest (text before after : List Char) (split : dayField text = some (before, after)) : after ⊆ text := by
  unfold dayField at split
  split at split
  next rest =>
    cases found : upToSpaces rest with
    | none => simp [found] at split
    | some parts =>
        obtain ⟨field, later⟩ := parts
        rw [found] at split
        cases split
        exact List.subset_cons_of_subset ' ' (up_to_spaces_rest rest field after found)
  next => exact up_to_spaces_rest text before after split

theorem strptime_date_only (text : List Char) (noTime : ':' ∉ text) : strptime decimal text = none := by
  rw [strptime]
  cases first : upTo '-' text with
  | none => rfl
  | some parts =>
      obtain ⟨yearText, rest⟩ := parts
      have inside := up_to_rest '-' text yearText rest first
      simp only [bind, Option.bind_some]
      cases second : upTo '-' rest with
      | none => rfl
      | some parts =>
          obtain ⟨monthText, later⟩ := parts
          have laterInside := List.Subset.trans (up_to_rest '-' rest monthText later second) inside
          simp only [Option.bind_some]
          cases third : dayField later with
          | none => rfl
          | some parts =>
              obtain ⟨dayText, time⟩ := parts
              have timeInside := List.Subset.trans (day_field_rest later dayText time third) laterInside
              simp only [Option.bind_some, up_to_absent ':' time fun listed => noTime (timeInside listed)]
              rfl

theorem strptime_nil : strptime decimal [] = none := rfl

end DateText
