import Mathlib.Data.List.Sort
import Sagittarius.Library.JsonValues

set_option autoImplicit false

namespace Sagittarius

open JsonValues (Double Number Value toDouble)

inductive InputKind
  | int
  | float
  | bool
  | string
deriving DecidableEq

structure ScriptInput where
  name : String
  label : String
  kind : InputKind
  default : Value
  minval : Option Number := none
  maxval : Option Number := none
  options : Option (List String) := none
  group : Option String := none
  suffix : Option String := none
  step : Option Number := none

inductive InputError
  | valueError (message : String)
  | overflowError (message : String)

section Coercion

variable (repr : Value → String) (str : Number → String)

def wholeNumber (spec : ScriptInput) : Number → Except InputError Number
  | .int value => .ok (.int value)
  | .float (.finite value) =>
      if value.den = 1 then .ok (.int value.num)
      else .error (.valueError
        s!"Input {pyRepr spec.name} expects a whole number, got {repr (.number (.float (.finite value)))}")
  | .float value =>
      .error (.valueError s!"Input {pyRepr spec.name} expects a whole number, got {repr (.number (.float value))}")

def floatNumber : Number → Except InputError Number
  | .float value => .ok (.float value)
  | .int value =>
      match toDouble value with
      | some nearest => .ok (.float (.finite nearest))
      | none => .error (.overflowError "int too large to convert to float")

def numeric (spec : ScriptInput) (raw : Number) : Except InputError Number :=
  if spec.kind = .int then wholeNumber repr spec raw else floatNumber raw

def checkMaxval (spec : ScriptInput) (value : Number) : Except InputError Number :=
  match spec.maxval with
  | none => .ok value
  | some maxval =>
      if maxval.lt value then .error (.valueError s!"Input {pyRepr spec.name} must be <= {str maxval}, got {str value}")
      else .ok value

def checkBounds (spec : ScriptInput) (value : Number) : Except InputError Number :=
  match spec.minval with
  | none => checkMaxval str spec value
  | some minval =>
      if value.lt minval then .error (.valueError s!"Input {pyRepr spec.name} must be >= {str minval}, got {str value}")
      else checkMaxval str spec value

def coerceNumber (spec : ScriptInput) (raw : Number) : Except InputError Number := do
  checkBounds str spec (← numeric repr spec raw)

def coerceBool (spec : ScriptInput) : Value → Except InputError Value
  | .bool value => .ok (.bool value)
  | raw => .error (.valueError s!"Input {pyRepr spec.name} expects a bool, got {repr raw}")

def coerceString (spec : ScriptInput) : Value → Except InputError Value
  | .string value =>
      match spec.options with
      | none => .ok (.string value)
      | some options =>
          if value ∈ options then .ok (.string value)
          else .error (.valueError (s!"Input {pyRepr spec.name} must be one of {repr (.array (options.map .string))}, " ++
            s!"got {repr (.string value)}"))
  | raw => .error (.valueError s!"Input {pyRepr spec.name} expects a string, got {repr raw}")

def coerceNumeric (spec : ScriptInput) : Value → Except InputError Value
  | .number value => (coerceNumber repr str spec value).map .number
  | raw => .error (.valueError s!"Input {pyRepr spec.name} expects a number, got {repr raw}")

def coerce (spec : ScriptInput) (raw : Value) : Except InputError Value :=
  match spec.kind with
  | .bool => coerceBool repr spec raw
  | .string => coerceString repr spec raw
  | _ => coerceNumeric repr str spec raw

structure InputDeclarations where
  params : List (String × Value)
  declared : List ScriptInput := []

namespace InputDeclarations

def declare (inputs : InputDeclarations) (spec : ScriptInput) : Except InputError (Value × InputDeclarations) :=
  if spec.name ∈ inputs.declared.map ScriptInput.name then .error (.valueError s!"Input {pyRepr spec.name} is declared twice")
  else
    let inputs := { inputs with declared := inputs.declared ++ [spec] }
    match inputs.params.lookup spec.name with
    | none => .ok (spec.default, inputs)
    | some raw => (coerce repr str spec raw).map fun value => (value, inputs)

def unusedParamNames (inputs : InputDeclarations) : List String :=
  ((inputs.params.map Prod.fst).dedup.filter (· ∉ inputs.declared.map ScriptInput.name)).insertionSort (· ≤ ·)

def setup : List ScriptInput → InputDeclarations → Except InputError (List Value × InputDeclarations)
  | [], inputs => .ok ([], inputs)
  | spec :: rest, inputs => do
      let (value, inputs) ← inputs.declare repr str spec
      let (values, inputs) ← setup rest inputs
      return (value :: values, inputs)

end InputDeclarations

def constructStrategy (className : String) (specs : List ScriptInput) (params : List (String × Value)) :
    Except InputError (List Value) := do
  let (values, inputs) ← InputDeclarations.setup repr str specs { params }
  if inputs.unusedParamNames.isEmpty then return values
  else
    throw (.valueError (s!"{className} got param(s) it never declares: " ++
      repr (.array (inputs.unusedParamNames.map .string))))

end Coercion

-- What a raw value is in a declared kind. A whole float is an int, and an int is
-- the float nearest to it.
inductive Reading : InputKind → Value → Value → Prop
  | bool (value : Bool) : Reading .bool (.bool value) (.bool value)
  | string (value : String) : Reading .string (.string value) (.string value)
  | int (value : ℤ) : Reading .int (.number (.int value)) (.number (.int value))
  | whole (value : ℤ) : Reading .int (.number (.float (.finite value))) (.number (.int value))
  | nearest (value : ℤ) (float : ℚ) (inRange : toDouble value = some float) :
      Reading .float (.number (.int value)) (.number (.float (.finite float)))
  | float (value : Double) : Reading .float (.number (.float value)) (.number (.float value))

namespace ScriptInput

def Within (spec : ScriptInput) (value : Number) : Prop :=
  (∀ minval, spec.minval = some minval → minval.le value = true) ∧
    ∀ maxval, spec.maxval = some maxval → value.le maxval = true

-- A value of the declared kind, between the bounds and among the options.
def Admits (spec : ScriptInput) : Value → Prop
  | .bool _ => spec.kind = .bool
  | .string value => spec.kind = .string ∧ ∀ options, spec.options = some options → value ∈ options
  | .number (.int value) => spec.kind = .int ∧ spec.Within (.int value)
  | .number (.float value) => spec.kind = .float ∧ spec.Within (.float value)
  | _ => False

def Usable (spec : ScriptInput) (raw : Value) : Prop := ∃ value, Reading spec.kind raw value ∧ spec.Admits value

def Refuses (spec : ScriptInput) (value : Number) : Prop :=
  (∃ minval, spec.minval = some minval ∧ value.lt minval = true) ∨ ∃ maxval, spec.maxval = some maxval ∧ maxval.lt value = true

def Comparable (spec : ScriptInput) (value : Number) : Prop :=
  (∀ minval, spec.minval = some minval → value.exact ≠ .nan ∧ minval.exact ≠ .nan) ∧
    ∀ maxval, spec.maxval = some maxval → maxval.exact ≠ .nan ∧ value.exact ≠ .nan

def Judges (spec : ScriptInput) (value : Number) : Prop := spec.Refuses value ∨ spec.Comparable value

-- No int for a float input is out of range, and its bounds judge what the raw
-- value is in the kind of the input.
def Judged (spec : ScriptInput) (raw : Value) : Prop :=
  (∀ value, spec.kind = .float → raw = .number (.int value) → (toDouble value).isSome = true) ∧
    ∀ value, Reading spec.kind raw (.number value) → spec.Judges value

end ScriptInput

theorem reading_unique (kind : InputKind) (raw first second : Value) (isFirst : Reading kind raw first)
    (isSecond : Reading kind raw second) : first = second := by
  cases isFirst with
  | bool => cases isSecond; rfl
  | string => cases isSecond; rfl
  | int => cases isSecond; rfl
  | whole value =>
      generalize same : (value : ℚ) = whole at isSecond
      cases isSecond with
      | whole other => rw [Int.cast_injective same]
  | nearest value float inRange =>
      cases isSecond with
      | nearest _ other otherInRange =>
          have same := inRange.symm.trans otherInRange
          cases same
          rfl
  | float => cases isSecond; rfl

theorem reading_admits (spec : ScriptInput) (raw : Value) (value : Number)
    (reading : Reading spec.kind raw (.number value)) : spec.Admits (.number value) ↔ spec.Within value := by
  generalize declared : spec.kind = kind at reading
  cases reading with
  | int => exact and_iff_right declared
  | whole => exact and_iff_right declared
  | nearest => exact and_iff_right declared
  | float => exact and_iff_right declared

section Soundness

variable (repr : Value → String) (str : Number → String) (spec : ScriptInput)

theorem whole_number_cases (raw : Number) :
    (∃ value, wholeNumber repr spec raw = .ok value ∧ Reading .int (.number raw) (.number value)) ∨
      (∀ value, ¬ Reading .int (.number raw) value) ∧ ∃ message, wholeNumber repr spec raw = .error (.valueError message) := by
  cases raw with
  | int value => exact .inl ⟨.int value, rfl, .int value⟩
  | float value =>
      cases value with
      | finite value =>
          by_cases whole : value.den = 1
          · have reading := Reading.whole value.num
            rw [Rat.coe_int_num_of_den_eq_one whole] at reading
            exact .inl ⟨.int value.num, if_pos whole, reading⟩
          · refine .inr ⟨fun other reading => ?_, _, if_neg whole⟩
            generalize same : value = fraction at reading
            cases reading with
            | whole other => exact whole (by rw [same]; rfl)
      | infinity negative => exact .inr ⟨fun _ reading => (by cases reading), _, rfl⟩
      | nan => exact .inr ⟨fun _ reading => (by cases reading), _, rfl⟩

theorem float_number_cases (raw : Number) :
    (∃ value, floatNumber raw = .ok value ∧ Reading .float (.number raw) (.number value)) ∨
      ∃ value, raw = .int value ∧ toDouble value = none ∧ ∃ message, floatNumber raw = .error (.overflowError message) := by
  cases raw with
  | float value => exact .inl ⟨.float value, rfl, .float value⟩
  | int value =>
      rw [floatNumber]
      cases inRange : toDouble value with
      | some nearest => exact .inl ⟨.float (.finite nearest), rfl, .nearest value nearest inRange⟩
      | none => exact .inr ⟨value, rfl, inRange, _, rfl⟩

theorem within_not_refused (value : Number) (within : spec.Within value) : ¬ spec.Refuses value := by
  rintro (⟨minval, declared, less⟩ | ⟨maxval, declared, less⟩)
  · have above := within.1 minval declared
    rw [Number.le, Double.lt_not_le _ _ less] at above
    cases above
  · have below := within.2 maxval declared
    rw [Number.le, Double.lt_not_le _ _ less] at below
    cases below

theorem within_iff_comparable (value : Number) (accepted : ¬ spec.Refuses value) :
    spec.Within value ↔ spec.Comparable value := by
  have lower : ∀ minval, spec.minval = some minval → value.lt minval = false := fun minval declared => by
    by_contra less
    exact accepted (.inl ⟨minval, declared, by simpa using less⟩)
  have upper : ∀ maxval, spec.maxval = some maxval → maxval.lt value = false := fun maxval declared => by
    by_contra less
    exact accepted (.inr ⟨maxval, declared, by simpa using less⟩)
  exact and_congr (forall₂_congr fun minval declared => Double.not_lt_le_iff _ _ (lower minval declared))
    (forall₂_congr fun maxval declared => Double.not_lt_le_iff _ _ (upper maxval declared))

theorem check_maxval_cases (value : Number) :
    (∃ maxval, spec.maxval = some maxval ∧ maxval.lt value = true) ∧
        (∃ message, checkMaxval str spec value = .error (.valueError message)) ∨
      (¬ ∃ maxval, spec.maxval = some maxval ∧ maxval.lt value = true) ∧ checkMaxval str spec value = .ok value := by
  rw [checkMaxval]
  cases spec.maxval with
  | none => exact .inr ⟨by simp, rfl⟩
  | some maxval =>
      by_cases above : maxval.lt value = true
      · exact .inl ⟨⟨maxval, rfl, above⟩, _, if_pos above⟩
      · exact .inr ⟨by simpa using above, if_neg above⟩

theorem check_bounds_cases (value : Number) :
    spec.Refuses value ∧ (∃ message, checkBounds str spec value = .error (.valueError message)) ∨
      ¬ spec.Refuses value ∧ checkBounds str spec value = .ok value := by
  rw [checkBounds, ScriptInput.Refuses]
  cases spec.minval with
  | none =>
      rcases check_maxval_cases str spec value with ⟨above, message, raised⟩ | ⟨notAbove, accepted⟩
      · exact .inl ⟨.inr above, message, raised⟩
      · exact .inr ⟨by simpa using notAbove, accepted⟩
  | some minval =>
      by_cases below : value.lt minval = true
      · exact .inl ⟨.inl ⟨minval, rfl, below⟩, _, if_pos below⟩
      · simp only [if_neg below]
        rcases check_maxval_cases str spec value with ⟨above, message, raised⟩ | ⟨notAbove, accepted⟩
        · exact .inl ⟨.inr above, message, raised⟩
        · refine .inr ⟨?_, accepted⟩
          rintro (⟨_, ⟨⟩, less⟩ | above)
          · exact below less
          · exact notAbove above

def ScriptInput.Resolved (raw : Value) : Prop :=
  (∃ message, coerce repr str spec raw = .error (.valueError message)) ∨
    ∃ value, coerce repr str spec raw = .ok value ∧ spec.Admits value

-- A raw value that is judged is returned in its kind when it is usable, and
-- refused when it is not; one that is not judged ends some other way.
def SettledInput (raw : Value) : Prop :=
  spec.Judged raw ∧
      ((spec.Usable raw ∧ ∃ value, coerce repr str spec raw = .ok value ∧ spec.Admits value) ∨
        ¬ spec.Usable raw ∧ ∃ message, coerce repr str spec raw = .error (.valueError message)) ∨
    ¬ spec.Judged raw ∧ ¬ spec.Usable raw ∧ ¬ spec.Resolved repr str raw

theorem usable_iff (raw value : Value) (reading : Reading spec.kind raw value) : spec.Usable raw ↔ spec.Admits value := by
  constructor
  · rintro ⟨other, otherReading, admits⟩
    rwa [reading_unique spec.kind raw value other reading otherReading]
  · intro admits
    exact ⟨value, reading, admits⟩

theorem judged_iff (raw : Value) (value : Number) (reading : Reading spec.kind raw (.number value)) :
    spec.Judged raw ↔ spec.Judges value := by
  constructor
  · intro judged
    exact judged.2 value reading
  · intro judges
    refine ⟨fun int declared isInt => ?_, fun other otherReading => ?_⟩
    · rw [declared, isInt] at reading
      cases reading with
      | nearest _ _ inRange => rw [inRange]; rfl
    · cases reading_unique spec.kind raw _ _ reading otherReading
      exact judges

theorem settled_number (raw value : Number) (numericKind : coerce repr str spec (.number raw) =
      (coerceNumber repr str spec raw).map .number)
    (converted : numeric repr spec raw = .ok value) (reading : Reading spec.kind (.number raw) (.number value)) :
    SettledInput repr str spec (.number raw) := by
  have coerced : coerce repr str spec (.number raw) = (checkBounds str spec value).map .number := by
    rw [numericKind, coerceNumber, converted]
    rfl
  have usable : spec.Usable (.number raw) ↔ spec.Within value :=
    (usable_iff spec _ _ reading).trans (reading_admits spec _ value reading)
  have admits := reading_admits spec _ value reading
  rcases check_bounds_cases str spec value with ⟨refused, message, raised⟩ | ⟨accepted, passed⟩
  · have outside : ¬ spec.Within value := fun within => within_not_refused spec value within refused
    exact .inl ⟨(judged_iff spec _ value reading).mpr (.inl refused),
      .inr ⟨mt usable.mp outside, message, by rw [coerced, raised]; rfl⟩⟩
  · have returned : coerce repr str spec (.number raw) = .ok (.number value) := by
      rw [coerced, passed]
      rfl
    have inside := within_iff_comparable spec value accepted
    by_cases comparable : spec.Comparable value
    · exact .inl ⟨(judged_iff spec _ value reading).mpr (.inr comparable),
        .inl ⟨usable.mpr (inside.mpr comparable), _, returned, admits.mpr (inside.mpr comparable)⟩⟩
    · have outside := mt inside.mp comparable
      refine .inr ⟨fun judged => ?_, mt usable.mp outside, ?_⟩
      · rcases (judged_iff spec _ value reading).mp judged with refused | isComparable
        · exact accepted refused
        · exact comparable isComparable
      · rintro (⟨message, raised⟩ | ⟨other, same, admitted⟩)
        · rw [returned] at raised
          cases raised
        · rw [returned] at same
          cases same
          exact outside (admits.mp admitted)

-- A raw value of another kind is refused.
theorem settled_refused (raw : Value) (notOverflow : spec.kind = .float → ∀ value, raw ≠ .number (.int value))
    (none : ∀ value, ¬ Reading spec.kind raw value)
    (raised : ∃ message, coerce repr str spec raw = .error (.valueError message)) : SettledInput repr str spec raw :=
  .inl ⟨⟨fun value declared isInt => absurd isInt (notOverflow declared value), fun _ reading => absurd reading (none _)⟩,
    .inr ⟨fun usable => usable.elim fun value holds => none value holds.1, raised⟩⟩

theorem settled_plain (raw : Value) (reading : Reading spec.kind raw raw) (plain : ∀ value, raw ≠ .number value)
    (returned : spec.Admits raw ∧ coerce repr str spec raw = .ok raw ∨
      ¬ spec.Admits raw ∧ ∃ message, coerce repr str spec raw = .error (.valueError message)) :
    SettledInput repr str spec raw := by
  have usable := usable_iff spec raw raw reading
  refine .inl ⟨⟨fun value _ isInt => absurd isInt (plain _), fun value other => ?_⟩, ?_⟩
  · exact absurd (reading_unique spec.kind raw _ _ reading other) (plain value)
  · rcases returned with ⟨admits, same⟩ | ⟨refused, raised⟩
    · exact .inl ⟨usable.mpr admits, raw, same, admits⟩
    · exact .inr ⟨mt usable.mp refused, raised⟩

theorem settled_string (value : String) (declared : spec.kind = .string) : SettledInput repr str spec (.string value) := by
  refine settled_plain repr str spec _ (declared ▸ .string value) (fun _ same => by cases same) ?_
  have coerced : coerce repr str spec (.string value) = coerceString repr spec (.string value) := by rw [coerce, declared]
  rw [coerced, coerceString]
  cases offered : spec.options with
  | none => exact .inl ⟨⟨declared, fun options some => by rw [offered] at some; cases some⟩, rfl⟩
  | some options =>
      by_cases listed : value ∈ options
      · refine .inl ⟨⟨declared, fun others some => ?_⟩, if_pos listed⟩
        rw [offered] at some
        cases some
        exact listed
      · exact .inr ⟨fun admits => listed (admits.2 options offered), _, if_neg listed⟩

theorem settled_float (raw : Number) (declared : spec.kind = .float) : SettledInput repr str spec (.number raw) := by
  have numericKind : coerce repr str spec (.number raw) = (coerceNumber repr str spec raw).map .number := by
    rw [coerce, declared, coerceNumeric]
  have converts : numeric repr spec raw = floatNumber raw := by rw [numeric, declared, if_neg (by decide)]
  rcases float_number_cases raw with ⟨value, converted, reading⟩ | ⟨value, rfl, outOfRange, message, raised⟩
  · exact settled_number repr str spec raw value numericKind (converts.trans converted) (by rwa [declared])
  · have overflows : coerce repr str spec (.number (.int value)) = .error (.overflowError message) := by
      rw [numericKind, coerceNumber, converts, raised]
      rfl
    refine .inr ⟨fun judged => ?_, ?_, ?_⟩
    · have inRange := judged.1 value declared rfl
      rw [outOfRange] at inRange
      cases inRange
    · rintro ⟨other, reading, _⟩
      rw [declared] at reading
      cases reading with
      | nearest _ _ inRange =>
          rw [outOfRange] at inRange
          cases inRange
    · rintro (⟨_, refused⟩ | ⟨_, returned, _⟩)
      · rw [overflows] at refused
        cases refused
      · rw [overflows] at returned
        cases returned

theorem settled_int (raw : Number) (declared : spec.kind = .int) : SettledInput repr str spec (.number raw) := by
  have numericKind : coerce repr str spec (.number raw) = (coerceNumber repr str spec raw).map .number := by
    rw [coerce, declared, coerceNumeric]
  have converts : numeric repr spec raw = wholeNumber repr spec raw := by rw [numeric, if_pos declared]
  rcases whole_number_cases repr spec raw with ⟨value, converted, reading⟩ | ⟨none, message, raised⟩
  · exact settled_number repr str spec raw value numericKind (converts.trans converted) (by rwa [declared])
  · refine settled_refused repr str spec _ (fun other => ?_) (by rwa [declared]) ⟨message, ?_⟩
    · rw [declared] at other
      cases other
    · rw [numericKind, coerceNumber, converts, raised]
      rfl

theorem settled (raw : Value) : SettledInput repr str spec raw := by
  have foreign (notOverflow : spec.kind = .float → ∀ value, raw ≠ .number (.int value))
      (none : ∀ value, ¬ Reading spec.kind raw value)
      (raised : ∃ message, coerce repr str spec raw = .error (.valueError message)) : SettledInput repr str spec raw :=
    settled_refused repr str spec raw notOverflow none raised
  cases declared : spec.kind with
  | bool =>
      cases raw with
      | bool value =>
          exact settled_plain repr str spec _ (declared ▸ .bool value) (fun _ same => by cases same)
            (.inl ⟨declared, by rw [coerce, declared, coerceBool]⟩)
      | _ =>
          refine foreign (fun other => ?_) (fun _ reading => ?_) ?_
          · rw [declared] at other
            cases other
          · rw [declared] at reading
            cases reading
          · rw [coerce, declared]
            exact ⟨_, rfl⟩
  | string =>
      cases raw with
      | string value => exact settled_string repr str spec value declared
      | _ =>
          refine foreign (fun other => ?_) (fun _ reading => ?_) ?_
          · rw [declared] at other
            cases other
          · rw [declared] at reading
            cases reading
          · rw [coerce, declared]
            exact ⟨_, rfl⟩
  | int =>
      cases raw with
      | number value => exact settled_int repr str spec value declared
      | _ =>
          refine foreign (fun _ _ same => (by cases same)) (fun _ reading => ?_) ?_
          · rw [declared] at reading
            cases reading
          · rw [coerce, declared]
            exact ⟨_, rfl⟩
  | float =>
      cases raw with
      | number value => exact settled_float repr str spec value declared
      | _ =>
          refine foreign (fun _ _ same => (by cases same)) (fun _ reading => ?_) ?_
          · rw [declared] at reading
            cases reading
          · rw [coerce, declared]
            exact ⟨_, rfl⟩

end Soundness

section Construction

variable (repr : Value → String) (str : Number → String) (className : String) (specs : List ScriptInput)
  (params : List (String × Value))

def SomeUnusable : Prop := ∃ spec ∈ specs, ∃ raw, params.lookup spec.name = some raw ∧ ¬ spec.Usable raw

def SomeUndeclared : Prop := ∃ name ∈ params.map Prod.fst, name ∉ specs.map ScriptInput.name

def EachJudged : Prop := ∀ spec ∈ specs, ∀ raw, params.lookup spec.name = some raw → spec.Judged raw

theorem declare_cases (inputs : InputDeclarations) (spec : ScriptInput)
    (fresh : spec.name ∉ inputs.declared.map ScriptInput.name)
    (judged : ∀ raw, inputs.params.lookup spec.name = some raw → spec.Judged raw) :
    (∃ raw, inputs.params.lookup spec.name = some raw ∧ ¬ spec.Usable raw) ∧
        (∃ message, inputs.declare repr str spec = .error (.valueError message)) ∨
      (∀ raw, inputs.params.lookup spec.name = some raw → spec.Usable raw) ∧
        ∃ value, inputs.declare repr str spec = .ok (value, { inputs with declared := inputs.declared ++ [spec] }) := by
  rw [InputDeclarations.declare, if_neg fresh]
  cases supplied : inputs.params.lookup spec.name with
  | none => exact .inr ⟨fun raw isSupplied => (by cases isSupplied), spec.default, by simp only [supplied]⟩
  | some raw =>
      rcases settled repr str spec raw with ⟨_, ⟨usable, value, returned, _⟩ | ⟨unusable, message, raised⟩⟩ | ⟨unjudged, _⟩
      · refine .inr ⟨fun other isSupplied => ?_, value, by simp only [supplied, returned, Except.map]⟩
        cases isSupplied
        exact usable
      · exact .inl ⟨⟨raw, rfl, unusable⟩, message, by simp only [supplied, raised, Except.map]⟩
      · exact absurd (judged raw supplied) unjudged

theorem setup_cases (inputs : InputDeclarations) (distinct : ((inputs.declared ++ specs).map ScriptInput.name).Nodup)
    (judged : EachJudged specs inputs.params) :
    SomeUnusable specs inputs.params ∧ (∃ message, InputDeclarations.setup repr str specs inputs = .error (.valueError message)) ∨
      ¬ SomeUnusable specs inputs.params ∧
        ∃ values, InputDeclarations.setup repr str specs inputs =
          .ok (values, { inputs with declared := inputs.declared ++ specs }) := by
  induction specs generalizing inputs with
  | nil =>
      refine .inr ⟨fun unusable => ?_, [], by simp [InputDeclarations.setup]⟩
      obtain ⟨_, none, _⟩ := unusable
      cases none
  | cons spec rest ih =>
      have fresh : spec.name ∉ inputs.declared.map ScriptInput.name := by
        intro declared
        rw [List.map_append, List.map_cons] at distinct
        exact (List.nodup_append.mp distinct).2.2 spec.name declared spec.name (by simp) rfl
      rw [InputDeclarations.setup]
      rcases declare_cases repr str inputs spec fresh (judged spec (by simp)) with
        ⟨⟨raw, supplied, unusable⟩, message, raised⟩ | ⟨usable, value, declared⟩
      · refine .inl ⟨⟨spec, by simp, raw, supplied, unusable⟩, message, ?_⟩
        rw [raised]
        rfl
      · have carried := ih { inputs with declared := inputs.declared ++ [spec] } (by simpa using distinct)
          fun other inside => judged other (by simp [inside])
        have same : SomeUnusable (spec :: rest) inputs.params ↔ SomeUnusable rest inputs.params := by
          constructor
          · rintro ⟨other, inside, raw, supplied, unusable⟩
            rcases List.mem_cons.mp inside with rfl | later
            · exact absurd (usable raw supplied) unusable
            · exact ⟨other, later, raw, supplied, unusable⟩
          · rintro ⟨other, later, rest⟩
            exact ⟨other, by simp [later], rest⟩
        rw [declared, same]
        rcases carried with ⟨unusable, message, raised⟩ | ⟨none, values, returned⟩
        · refine .inl ⟨unusable, message, ?_⟩
          simp only [bind, Except.bind, raised]
        · refine .inr ⟨none, value :: values, ?_⟩
          simp only [bind, Except.bind, returned, pure, Except.pure, List.append_assoc, List.singleton_append]

theorem unused_names_iff (inputs : InputDeclarations) :
    ¬ inputs.unusedParamNames.isEmpty = true ↔ SomeUndeclared inputs.declared inputs.params := by
  rw [Bool.not_eq_true, List.isEmpty_eq_false_iff_exists_mem, SomeUndeclared]
  refine exists_congr fun name => ?_
  rw [InputDeclarations.unusedParamNames, List.mem_insertionSort, List.mem_filter, List.mem_dedup, decide_eq_true_eq]

theorem construct_cases (distinct : (specs.map ScriptInput.name).Nodup) (judged : EachJudged specs params) :
    (SomeUnusable specs params ∨ SomeUndeclared specs params) ∧
        (∃ message, constructStrategy repr str className specs params = .error (.valueError message)) ∨
      ¬ (SomeUnusable specs params ∨ SomeUndeclared specs params) ∧
        ∃ values, constructStrategy repr str className specs params = .ok values := by
  rw [constructStrategy]
  rcases setup_cases repr str specs { params } (by simpa using distinct) judged with
    ⟨unusable, message, raised⟩ | ⟨none, values, returned⟩
  · refine .inl ⟨.inl unusable, message, ?_⟩
    rw [raised]
    rfl
  · have undeclared := unused_names_iff { params, declared := specs }
    rw [returned]
    simp only [bind, Except.bind, List.nil_append]
    by_cases empty : ({ params, declared := specs } : InputDeclarations).unusedParamNames.isEmpty = true
    · refine .inr ⟨?_, values, if_pos empty⟩
      rintro (unusable | some)
      · exact none unusable
      · exact undeclared.mpr some empty
    · exact .inl ⟨.inr (undeclared.mp empty), _, if_neg empty⟩

def DeclarationsSound : Prop :=
  (∀ spec ∈ specs, ∀ raw, params.lookup spec.name = some raw → spec.Resolved repr str raw) ∧
    ((∃ message, constructStrategy repr str className specs params = .error (.valueError message)) ↔
      SomeUnusable specs params ∨ SomeUndeclared specs params)

theorem declarations_sound_iff (distinct : (specs.map ScriptInput.name).Nodup) :
    DeclarationsSound repr str className specs params ↔ EachJudged specs params := by
  constructor
  · rintro ⟨resolved, _⟩ spec inside raw supplied
    rcases settled repr str spec raw with ⟨judged, _⟩ | ⟨_, _, unresolved⟩
    · exact judged
    · exact absurd (resolved spec inside raw supplied) unresolved
  · intro judged
    constructor
    · intro spec inside raw supplied
      rcases settled repr str spec raw with ⟨_, ⟨_, returned⟩ | ⟨_, raised⟩⟩ | ⟨unjudged, _⟩
      · exact .inr returned
      · exact .inl raised
      · exact absurd (judged spec inside raw supplied) unjudged
    · rcases construct_cases repr str className specs params distinct judged with ⟨faulty, raised⟩ | ⟨sound, values, returned⟩
      · exact iff_of_true raised faulty
      · refine iff_of_false ?_ sound
        rintro ⟨message, raised⟩
        rw [returned] at raised
        cases raised

end Construction

def plainRepr : Value → String
  | .number (.int value) => toString value
  | .string value => pyRepr value
  | _ => ""

def plainStr : Number → String
  | .int value => toString value
  | .float _ => "nan"

def percentInput : ScriptInput where
  name := "risk"
  label := "Risk"
  kind := .float
  default := .number (.float (.finite 2))
  minval := some (.int 0)
  maxval := some (.int 10)

theorem percent_declaration_sound :
    DeclarationsSound plainRepr plainStr "Percent" [percentInput] [("risk", .number (.float (.finite 5)))] ↔
      EachJudged [percentInput] [("risk", .number (.float (.finite 5)))] :=
  declarations_sound_iff plainRepr plainStr "Percent" [percentInput] [("risk", .number (.float (.finite 5)))] (by decide)

-- A NaN passes both bounds of a FLOAT input.
theorem nan_reaches_strategy :
    ¬ ∀ (repr : Value → String) (str : Number → String) (className : String) (specs : List ScriptInput)
      (params : List (String × Value)), (specs.map ScriptInput.name).Nodup → DeclarationsSound repr str className specs params := by
  intro claimed
  obtain ⟨resolved, _⟩ := claimed plainRepr plainStr "Percent" [percentInput] [("risk", .number (.float .nan))] (by decide)
  have returned : coerce plainRepr plainStr percentInput (.number (.float .nan)) = .ok (.number (.float .nan)) := rfl
  rcases resolved percentInput (by simp) (.number (.float .nan)) rfl with ⟨message, raised⟩ | ⟨value, same, admits⟩
  · rw [returned] at raised
    cases raised
  · rw [returned] at same
    cases same
    have inside := admits.2.1 (.int 0) rfl
    cases inside

end Sagittarius
