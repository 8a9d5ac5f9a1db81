import Mathlib.Data.Nat.Notation

set_option autoImplicit false

namespace Sagittarius

inductive TimeFrame
  | oneSecond
  | oneMinute
  | threeMinutes
  | fiveMinutes
  | fifteenMinutes
  | thirtyMinutes
  | oneHour
  | twoHours
  | fourHours
  | sixHours
  | eightHours
  | twelveHours
  | oneDay
  | threeDays
  | oneWeek
  | oneMonth
deriving DecidableEq

namespace TimeFrame

def parts : TimeFrame → ℕ × Char
  | oneSecond => (1, 's')
  | oneMinute => (1, 'm')
  | threeMinutes => (3, 'm')
  | fiveMinutes => (5, 'm')
  | fifteenMinutes => (15, 'm')
  | thirtyMinutes => (30, 'm')
  | oneHour => (1, 'h')
  | twoHours => (2, 'h')
  | fourHours => (4, 'h')
  | sixHours => (6, 'h')
  | eightHours => (8, 'h')
  | twelveHours => (12, 'h')
  | oneDay => (1, 'd')
  | threeDays => (3, 'd')
  | oneWeek => (1, 'w')
  | oneMonth => (1, 'M')

def value (frame : TimeFrame) : String := toString frame.parts.1 ++ frame.parts.2.toString

def members : List TimeFrame :=
  [oneSecond, oneMinute, threeMinutes, fiveMinutes, fifteenMinutes, thirtyMinutes, oneHour, twoHours, fourHours,
    sixHours, eightHours, twelveHours, oneDay, threeDays, oneWeek, oneMonth]

def ofValue (value : String) : Option TimeFrame := members.find? fun frame => frame.value = value

theorem of_value_value (value : String) (frame : TimeFrame) (found : ofValue value = some frame) :
    frame.value = value := by
  simpa using List.find?_some found

theorem value_read_back (frame : TimeFrame) : ofValue frame.value = some frame := by
  cases frame <;> decide +kernel

-- A month is taken to be 30 days.
def toSeconds (frame : TimeFrame) : ℕ :=
  let multiplier :=
    match frame.parts.2 with
    | 's' => 1
    | 'm' => 60
    | 'h' => 3600
    | 'd' => 86400
    | 'w' => 604800
    | 'M' => 2592000
    | _ => 1
  frame.parts.1 * multiplier

theorem to_seconds_positive (frame : TimeFrame) : 0 < frame.toSeconds := by
  cases frame <;> decide

end TimeFrame

end Sagittarius
