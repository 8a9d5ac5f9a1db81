import Sagittarius.Domain.TimeFrame
import Sagittarius.Library.DateText
import Sagittarius.Library.Dicts
import Sagittarius.Library.JsonValues

set_option autoImplicit false

namespace Sagittarius

open Dicts (Dict)
open JsonValues (Double Value)

inductive TimeRangePreset
  | last7Days
  | last30Days
  | last90Days
  | last365Days
  | allHistory
  | custom
deriving DecidableEq

def TimeRangePreset.value : TimeRangePreset → String
  | .last7Days => "7d"
  | .last30Days => "30d"
  | .last90Days => "90d"
  | .last365Days => "365d"
  | .allHistory => "all"
  | .custom => "custom"

def TimeRangePreset.ofValue (value : String) : Option TimeRangePreset :=
  [last7Days, last30Days, last90Days, last365Days, allHistory, custom].find? fun preset => preset.value = value

inductive BacktestExecutionMode
  | barClose
  | historicalTick
deriving DecidableEq

inductive Currency
  | usd
  | vnd
  | usdt

def Currency.value : Currency → String
  | .usd => "USD"
  | .vnd => "VND"
  | .usdt => "USDT"

def Currency.ofValue (value : String) : Option Currency := [usd, vnd, usdt].find? fun currency => currency.value = value

inductive BuildError
  | valueError (message : String)
  | overflowError (message : String)

-- Times are microseconds from 1970, and so are their differences.
def dayLength : ℤ := 86400000000

def before (time delta : ℤ) : Except BuildError ℤ :=
  if Calendar.yearStart 1 * dayLength ≤ time - delta then .ok (time - delta)
  else .error (.overflowError "date value out of range")

def lastDays (days now : ℤ) : Except BuildError (Option ℤ × Option ℤ) :=
  (before now (days * dayLength)).map fun start => (some start, some now)

def resolveTimeRange (preset : TimeRangePreset) (now : ℤ) (customStart customEnd : Option ℤ) :
    Except BuildError (Option ℤ × Option ℤ) :=
  match preset with
  | .allHistory => .ok (none, none)
  | .custom => .ok (customStart, customEnd)
  | .last7Days => lastDays 7 now
  | .last30Days => lastDays 30 now
  | .last90Days => lastDays 90 now
  | .last365Days => lastDays 365 now

def liveBacktestEndDelayIntervals : ℤ := 1

def publishedCandleCutoff (now : ℤ) (timeframe : TimeFrame) : Except BuildError ℤ :=
  before now (timeframe.toSeconds * liveBacktestEndDelayIntervals * 1000000)

inductive BacktestInputField
  | initialCapital
  | customStart
  | customEnd
  | timeRangePreset

def BacktestInputField.value : BacktestInputField → String
  | .initialCapital => "initialCapital"
  | .customStart => "customStart"
  | .customEnd => "customEnd"
  | .timeRangePreset => "timeRangePreset"

structure PreBacktestInput where
  capitalText : String
  isCustomRange : Bool
  customStartText : String
  customEndText : String
  isUnboundedRange : Bool := false
  isTickMode : Bool := false
  startTime : Option ℤ := none
  endTime : Option ℤ := none

structure BacktestInputIssue where
  field : BacktestInputField
  message : String

structure ToolbarText where
  decimal : Char → Option ℕ
  parseFloat : String → Option Double

def maxTickModeRangeDays : ℤ := 7

def datetimeFormat : String := "%Y-%m-%d %H:%M"

section Assertions

variable (python : ToolbarText)

def parseCustomDatetime (raw : String) : Option ℤ := DateText.strptime python.decimal (pyStrip raw.toList)

def initialCapitalRule (input : PreBacktestInput) : Option BacktestInputIssue :=
  match python.parseFloat input.capitalText with
  | some (.finite capital) =>
      if capital ≤ 0 then some ⟨.initialCapital, "Initial capital must be greater than 0."⟩ else none
  | _ => some ⟨.initialCapital, "Invalid initial capital: " ++ pyRepr input.capitalText⟩

def customEndIssue (input : PreBacktestInput) (start : ℤ) : Option BacktestInputIssue :=
  if pyStrip input.customEndText.toList = [] then none
  else
    match parseCustomDatetime python input.customEndText with
    | none => some ⟨.customEnd, s!"Invalid end date — format {datetimeFormat}."⟩
    | some ending => if ending ≤ start then some ⟨.customEnd, "Start date must be before end date."⟩ else none

def customDateRangeRule (input : PreBacktestInput) : Option BacktestInputIssue :=
  if input.isCustomRange then
    match parseCustomDatetime python input.customStartText with
    | none => some ⟨.customStart, s!"Invalid start date — format {datetimeFormat}."⟩
    | some start => customEndIssue python input start
  else none

-- The days of a timedelta are rounded down.
def tickModeRangeTooWide (isTickMode : Bool) : Option ℤ → Option ℤ → Bool
  | some start, some ending => isTickMode && decide (maxTickModeRangeDays < (ending - start) / dayLength)
  | _, _ => false

def tickModeRequiresBoundedRangeRule (input : PreBacktestInput) : Option BacktestInputIssue :=
  if !input.isTickMode then none
  else if input.isUnboundedRange then
    some ⟨.timeRangePreset, "Realtime mode (tick-based) does not support \"All History\" — please choose a bounded time " ++
      "range. Checking data coverage at tick (second) resolution with no start point makes verification slower with " ++
      "every retry and it never catches up."⟩
  else if tickModeRangeTooWide input.isTickMode input.startTime input.endTime then
    some ⟨.timeRangePreset, s!"Realtime mode (tick-based) supports at most {maxTickModeRangeDays} days per run — the " ++
      "selected range is too wide. Checking data at tick (second) resolution over a wide range will freeze the UI for " ++
      "minutes with no progress bar."⟩
  else none

def preBacktestAssertions (input : PreBacktestInput) : List BacktestInputIssue :=
  [initialCapitalRule python, customDateRangeRule python, tickModeRequiresBoundedRangeRule].filterMap fun rule => rule input

end Assertions

-- The fields of the toolbar that the builder reads. What its broker section is
-- turned into is a parameter of the builder.
structure RunConfigInputs where
  selectedTimeframe : String
  selectedCurrency : String
  initialCapitalText : String
  selectedStrategyKey : String
  preset : String
  customStartText : String
  customEndText : String

inductive TraceValue
  | text (value : String)
  | time (value : Option ℤ)
  | flag (value : Bool)

structure DevTrace where
  event : String
  fields : List (String × TraceValue)

structure BacktestRunConfig (ω : Type) where
  strategyKey : String
  timeframe : TimeFrame
  initialBalance : Double
  startTime : Option ℤ
  endTime : Option ℤ
  strategyParams : Dict String Value
  currency : Currency
  symbol : String
  executionMode : BacktestExecutionMode
  broker : ω

structure RunConfigOutcome (ω : Type) where
  config : Option (BacktestRunConfig ω)
  errorMessage : String := ""
  traces : List DevTrace

namespace RunConfigInputs

variable (python : ToolbarText) (view : RunConfigInputs)

def enumMember {β : Type} (name value : String) (found : Option β) : Except BuildError β :=
  match found with
  | some member => .ok member
  | none => .error (.valueError s!"{pyRepr value} is not a valid {name}")

def timeRangePreset : Except BuildError TimeRangePreset :=
  enumMember "TimeRangePreset" view.preset (TimeRangePreset.ofValue view.preset)

def timeframe : Except BuildError TimeFrame :=
  enumMember "TimeFrame" view.selectedTimeframe (TimeFrame.ofValue view.selectedTimeframe)

def rangeNow (preset : TimeRangePreset) (now : ℤ) : Except BuildError ℤ :=
  if preset = .custom then .ok now
  else do publishedCandleCutoff now (← view.timeframe)

def customBound (preset : TimeRangePreset) (text : String) : Option ℤ :=
  if preset = .custom then parseCustomDatetime python text else none

def inputOf (preset : TimeRangePreset) (mode : BacktestExecutionMode) (startTime endTime : Option ℤ) : PreBacktestInput where
  capitalText := view.initialCapitalText
  isCustomRange := decide (preset = .custom)
  customStartText := view.customStartText
  customEndText := view.customEndText
  isUnboundedRange := decide (preset = .allHistory)
  isTickMode := decide (mode = .historicalTick)
  startTime := startTime
  endTime := endTime

def preBacktestInput (mode : BacktestExecutionMode) (now : ℤ) : Except BuildError PreBacktestInput := do
  let preset ← view.timeRangePreset
  let rangeNow ← view.rangeNow preset now
  let (startTime, endTime) ← resolveTimeRange preset rangeNow (customBound python preset view.customStartText)
    (customBound python preset view.customEndText)
  return view.inputOf preset mode startTime endTime

def initialBalance : Except BuildError Double :=
  match python.parseFloat view.initialCapitalText with
  | some balance => .ok balance
  | none => .error (.valueError s!"could not convert string to float: {pyRepr view.initialCapitalText}")

def acceptedConfig {ω : Type} (symbol : String) (strategyParams : Dict String Value) (mode : BacktestExecutionMode)
    (broker : Except BuildError ω) (input : PreBacktestInput) : Except BuildError (RunConfigOutcome ω) := do
  let initialBalance ← view.initialBalance python
  if view.selectedStrategyKey = "" then
    return {
      config := none
      errorMessage := "No strategy has been registered yet."
      traces := [⟨"run_config_invalid", [("reason", .text "missing_strategy")]⟩] }
  else
    let timeframe ← view.timeframe
    let currency ← enumMember "Currency" view.selectedCurrency (Currency.ofValue view.selectedCurrency)
    let config : BacktestRunConfig ω :=
      { strategyKey := view.selectedStrategyKey, timeframe, initialBalance, startTime := input.startTime,
        endTime := input.endTime, strategyParams, currency, symbol, executionMode := mode, broker := ← broker }
    return {
      config := some config
      traces := [⟨"run_config_built", [("symbol", .text symbol), ("strategy", .text view.selectedStrategyKey),
        ("timeframe", .text view.selectedTimeframe), ("start", .time input.startTime), ("end", .time input.endTime),
        ("has_params", .flag !strategyParams.members.isEmpty)]⟩] }

def buildRunConfig {ω : Type} (symbol : String) (strategyParams : Dict String Value) (mode : BacktestExecutionMode)
    (broker : Except BuildError ω) (now : ℤ) : Except BuildError (RunConfigOutcome ω) := do
  let input ← view.preBacktestInput python mode now
  match preBacktestAssertions python input with
  | issue :: _ =>
      return {
        config := none
        errorMessage := issue.message
        traces := [⟨"run_config_invalid", [("reason", .text issue.field.value), ("capital", .text view.initialCapitalText)]⟩] }
  | [] => view.acceptedConfig python symbol strategyParams mode broker input

end RunConfigInputs

def BacktestRunConfig.started {ω : Type} (config : BacktestRunConfig ω) (now : ℤ) : Except BuildError (BacktestRunConfig ω) :=
  match config.endTime with
  | some _ => .ok config
  | none => (publishedCandleCutoff now config.timeframe).map fun cutoff => { config with endTime := some cutoff }

section TickMode

variable (python : ToolbarText) (view : RunConfigInputs)

theorem assertions_accept_iff (input : PreBacktestInput) :
    preBacktestAssertions python input = [] ↔ initialCapitalRule python input = none ∧
      customDateRangeRule python input = none ∧ tickModeRequiresBoundedRangeRule input = none := by
  simp [preBacktestAssertions, List.filterMap_eq_nil_iff]

def CapitalAccepted (text : String) : Prop := ∃ capital, python.parseFloat text = some (.finite capital) ∧ 0 < capital

theorem capital_rule_iff (input : PreBacktestInput) :
    initialCapitalRule python input = none ↔ CapitalAccepted python input.capitalText := by
  rw [initialCapitalRule, CapitalAccepted]
  cases parsed : python.parseFloat input.capitalText with
  | none => simp
  | some capital =>
      cases capital with
      | finite capital =>
          by_cases positive : capital ≤ 0
          · simp [positive]
          · simp [positive, not_le.mp positive]
      | infinity negative => simp
      | nan => simp

theorem custom_rule_iff (input : PreBacktestInput) (custom : input.isCustomRange = true) :
    customDateRangeRule python input = none ↔ ∃ start, parseCustomDatetime python input.customStartText = some start ∧
      (pyStrip input.customEndText.toList = [] ∨
        ∃ ending, parseCustomDatetime python input.customEndText = some ending ∧ start < ending) := by
  rw [customDateRangeRule, if_pos custom]
  cases parseCustomDatetime python input.customStartText with
  | none => simp
  | some start =>
      simp only [Option.some.injEq, exists_eq_left', customEndIssue]
      by_cases blank : pyStrip input.customEndText.toList = []
      · simp [blank]
      · rw [if_neg blank]
        cases parseCustomDatetime python input.customEndText with
        | none => simp [blank]
        | some ending => simp [blank]

theorem tick_rule_iff (input : PreBacktestInput) (tick : input.isTickMode = true) :
    tickModeRequiresBoundedRangeRule input = none ↔ input.isUnboundedRange = false ∧
      ∀ start ending, input.startTime = some start → input.endTime = some ending → ending - start < 8 * dayLength := by
  have rounded (span : ℤ) : span < 8 * dayLength ↔ ¬ maxTickModeRangeDays < span / dayLength := by
    rw [maxTickModeRangeDays, dayLength]
    omega
  rw [tickModeRequiresBoundedRangeRule, tick]
  cases input.isUnboundedRange with
  | true => simp
  | false =>
      cases input.startTime with
      | none => simp [tickModeRangeTooWide]
      | some start =>
          cases input.endTime with
          | none => simp [tickModeRangeTooWide]
          | some ending => simp [tickModeRangeTooWide, rounded]

theorem parse_blank (text : String) (blank : pyStrip text.toList = []) : parseCustomDatetime python text = none := by
  rw [parseCustomDatetime, blank]
  exact DateText.strptime_nil python.decimal

theorem date_only_refused (input : PreBacktestInput) (custom : input.isCustomRange = true)
    (dateOnly : ':' ∉ pyStrip input.customStartText.toList) : preBacktestAssertions python input ≠ [] := by
  intro accepted
  obtain ⟨start, parsed, _⟩ := (custom_rule_iff python input custom).mp ((assertions_accept_iff python input).mp accepted).2.1
  rw [parseCustomDatetime, DateText.strptime_date_only python.decimal _ dateOnly] at parsed
  cases parsed

theorem last_days_range (days now : ℤ) (range : Option ℤ × Option ℤ) (resolved : lastDays days now = .ok range) :
    range = (some (now - days * dayLength), some now) := by
  rw [lastDays, before] at resolved
  by_cases inRange : Calendar.yearStart 1 * dayLength ≤ now - days * dayLength
  · rw [if_pos inRange] at resolved
    cases resolved
    rfl
  · rw [if_neg inRange] at resolved
    cases resolved

theorem enum_member_found {β : Type} (name value : String) (found : Option β) (member : β)
    (valid : RunConfigInputs.enumMember name value found = .ok member) : found = some member := by
  cases found with
  | none => cases valid
  | some other =>
      cases valid
      rfl

theorem pre_backtest_input_cases (mode : BacktestExecutionMode) (now : ℤ) (input : PreBacktestInput)
    (built : view.preBacktestInput python mode now = .ok input) :
    (TimeRangePreset.ofValue view.preset = some .custom ∧
        input = view.inputOf .custom mode (parseCustomDatetime python view.customStartText)
          (parseCustomDatetime python view.customEndText)) ∨
      input = view.inputOf .allHistory mode none none ∨
      ∃ preset days cutoff, (days = 7 ∨ 8 ≤ days) ∧ input = view.inputOf preset mode (some (cutoff - days * dayLength)) (some cutoff) := by
  obtain ⟨preset, named, built⟩ := bind_ok _ _ _ built
  obtain ⟨rangeNow, cut, built⟩ := bind_ok _ _ _ built
  obtain ⟨⟨startTime, endTime⟩, resolved, built⟩ := bind_ok _ _ _ built
  cases built
  have days (count : ℤ) (enough : count = 7 ∨ 8 ≤ count) (counted : lastDays count rangeNow = .ok (startTime, endTime)) :
      ∃ preset' days cutoff, (days = 7 ∨ 8 ≤ days) ∧
        view.inputOf preset mode startTime endTime = view.inputOf preset' mode (some (cutoff - days * dayLength)) (some cutoff) := by
    obtain ⟨rfl, rfl⟩ := Prod.mk.inj (last_days_range count rangeNow _ counted)
    exact ⟨preset, count, rangeNow, enough, rfl⟩
  cases preset with
  | custom =>
      cases resolved
      exact .inl ⟨enum_member_found _ _ _ _ named, rfl⟩
  | allHistory =>
      cases resolved
      exact .inr (.inl rfl)
  | last7Days => exact .inr (.inr (days 7 (.inl rfl) resolved))
  | last30Days => exact .inr (.inr (days 30 (.inr (by decide)) resolved))
  | last90Days => exact .inr (.inr (days 90 (.inr (by decide)) resolved))
  | last365Days => exact .inr (.inr (days 365 (.inr (by decide)) resolved))

-- A tick run that the assertions accept has a start, and is at most seven days
-- long when a missing end is now.
def TickRunBounded (mode : BacktestExecutionMode) (now : ℤ) : Prop :=
  ∀ input, view.preBacktestInput python mode now = .ok input → preBacktestAssertions python input = [] →
    input.isTickMode = true → ∃ start, input.startTime = some start ∧
      input.endTime.getD now - start ≤ maxTickModeRangeDays * dayLength

-- A valid tick run over a custom range that is too long, with no end or by less
-- than a day.
def SlightlyTooWide (mode : BacktestExecutionMode) (now : ℤ) : Prop :=
  mode = .historicalTick ∧ TimeRangePreset.ofValue view.preset = some .custom ∧
    CapitalAccepted python view.initialCapitalText ∧
    ∃ start, parseCustomDatetime python view.customStartText = some start ∧
      (pyStrip view.customEndText.toList = [] ∧ maxTickModeRangeDays * dayLength < now - start ∨
        ∃ ending, parseCustomDatetime python view.customEndText = some ending ∧
          maxTickModeRangeDays * dayLength < ending - start ∧ ending - start < (maxTickModeRangeDays + 1) * dayLength)

theorem custom_input (mode : BacktestExecutionMode) (now : ℤ) (custom : TimeRangePreset.ofValue view.preset = some .custom) :
    view.preBacktestInput python mode now = .ok (view.inputOf .custom mode
      (parseCustomDatetime python view.customStartText) (parseCustomDatetime python view.customEndText)) := by
  rw [RunConfigInputs.preBacktestInput, RunConfigInputs.timeRangePreset, custom]
  rfl

theorem custom_accepted_iff (start : ℤ) (starts : parseCustomDatetime python view.customStartText = some start)
    (ending : Option ℤ) :
    preBacktestAssertions python (view.inputOf .custom .historicalTick (some start) ending) = [] ↔
      CapitalAccepted python view.initialCapitalText ∧
        (pyStrip view.customEndText.toList = [] ∨
          ∃ ending, parseCustomDatetime python view.customEndText = some ending ∧ start < ending) ∧
        ∀ last, ending = some last → last - start < 8 * dayLength := by
  rw [assertions_accept_iff, capital_rule_iff, custom_rule_iff python _ rfl, tick_rule_iff _ rfl]
  refine and_congr Iff.rfl (and_congr ?_ ?_)
  · simp [RunConfigInputs.inputOf, starts]
  · constructor
    · rintro ⟨_, short⟩ last same
      exact short start last rfl same
    · intro short
      refine ⟨rfl, fun first last isFirst same => ?_⟩
      cases isFirst
      exact short last same

theorem tick_run_bounded_iff (mode : BacktestExecutionMode) (now : ℤ) :
    TickRunBounded python view mode now ↔ ¬ SlightlyTooWide python view mode now := by
  constructor
  · rintro bounded ⟨rfl, custom, capital, start, starts, tooWide⟩
    have built := custom_input python view .historicalTick now custom
    rw [starts] at built
    have accepted := (custom_accepted_iff python view start starts (parseCustomDatetime python view.customEndText)).mpr
    rcases tooWide with ⟨blank, wide⟩ | ⟨ending, ends, wide, close⟩
    · have noEnd := parse_blank python view.customEndText blank
      rw [noEnd] at built accepted
      obtain ⟨first, same, short⟩ := bounded _ built (accepted ⟨capital, .inl blank, fun _ none => by cases none⟩) rfl
      cases same
      exact absurd short (not_le.mpr wide)
    · have later : start < ending := by
        rw [maxTickModeRangeDays, dayLength] at wide
        omega
      rw [ends] at built accepted
      obtain ⟨first, same, short⟩ := bounded _ built (accepted ⟨capital, .inr ⟨ending, rfl, later⟩, fun last same => by
        cases same
        exact close⟩) rfl
      cases same
      exact absurd short (not_le.mpr wide)
  · intro narrow input built accepted tick
    rcases pre_backtest_input_cases python view mode now input built with
      ⟨custom, rfl⟩ | rfl | ⟨preset, days, cutoff, enough, rfl⟩
    · have isTick : mode = .historicalTick := of_decide_eq_true tick
      subst isTick
      obtain ⟨start, starts, _⟩ := (custom_rule_iff python _ rfl).mp ((assertions_accept_iff python _).mp accepted).2.1
      have parsed : parseCustomDatetime python view.customStartText = some start := starts
      rw [parsed] at accepted
      obtain ⟨capital, ended, close⟩ := (custom_accepted_iff python view start parsed _).mp accepted
      refine ⟨start, parsed, ?_⟩
      change (parseCustomDatetime python view.customEndText).getD now - start ≤ maxTickModeRangeDays * dayLength
      by_contra wide
      refine narrow ⟨rfl, custom, capital, start, parsed, ?_⟩
      rcases ended with blank | ⟨ending, ends, _⟩
      · have noEnd := parse_blank python view.customEndText blank
        rw [noEnd] at wide
        exact .inl ⟨blank, not_le.mp wide⟩
      · rw [ends] at wide
        exact .inr ⟨ending, ends, not_le.mp wide, close ending ends⟩
    · have unbounded := ((tick_rule_iff _ tick).mp ((assertions_accept_iff python _).mp accepted).2.2).1
      cases unbounded
    · have short := ((tick_rule_iff _ tick).mp ((assertions_accept_iff python _).mp accepted).2.2).2 _ _ rfl rfl
      refine ⟨_, rfl, ?_⟩
      have sevenDays : days = 7 := by
        rw [dayLength] at short
        omega
      simp [RunConfigInputs.inputOf, sevenDays, maxTickModeRangeDays]

theorem built_config_accepted {ω : Type} (symbol : String) (strategyParams : Dict String Value)
    (mode : BacktestExecutionMode) (broker : Except BuildError ω) (now : ℤ) (outcome : RunConfigOutcome ω)
    (config : BacktestRunConfig ω) (returned : view.buildRunConfig python symbol strategyParams mode broker now = .ok outcome)
    (isBuilt : outcome.config = some config) :
    ∃ input, view.preBacktestInput python mode now = .ok input ∧ preBacktestAssertions python input = [] ∧
      config.executionMode = mode ∧ config.startTime = input.startTime ∧ config.endTime = input.endTime := by
  obtain ⟨input, built, returned⟩ := bind_ok _ _ _ returned
  cases issues : preBacktestAssertions python input with
  | cons issue rest =>
      rw [issues] at returned
      cases returned
      cases isBuilt
  | nil =>
      refine ⟨input, built, issues, ?_⟩
      rw [issues] at returned
      change view.acceptedConfig python symbol strategyParams mode broker input = .ok outcome at returned
      obtain ⟨balance, _, returned⟩ := bind_ok _ _ _ returned
      by_cases none : view.selectedStrategyKey = ""
      · rw [if_pos none] at returned
        cases returned
        cases isBuilt
      · rw [if_neg none] at returned
        obtain ⟨timeframe, _, returned⟩ := bind_ok _ _ _ returned
        obtain ⟨currency, _, returned⟩ := bind_ok _ _ _ returned
        obtain ⟨settings, _, returned⟩ := bind_ok _ _ _ returned
        cases returned
        cases isBuilt
        exact ⟨rfl, rfl, rfl⟩

theorem started_range {ω : Type} (config started : BacktestRunConfig ω) (now later start : ℤ) (since : now ≤ later)
    (short : config.endTime.getD now - start ≤ maxTickModeRangeDays * dayLength) (runs : config.started later = .ok started) :
    started.startTime = config.startTime ∧ ∃ ending, started.endTime = some ending ∧
      ending - start ≤ maxTickModeRangeDays * dayLength + (later - now) := by
  rw [BacktestRunConfig.started] at runs
  cases ended : config.endTime with
  | some ending =>
      simp only [ended] at runs
      cases runs
      rw [ended, Option.getD_some] at short
      exact ⟨rfl, ending, ended, by omega⟩
  | none =>
      rw [ended, Option.getD_none] at short
      simp only [ended, publishedCandleCutoff, before] at runs
      have delay := TimeFrame.to_seconds_positive config.timeframe
      by_cases inRange : Calendar.yearStart 1 * dayLength ≤
          later - config.timeframe.toSeconds * liveBacktestEndDelayIntervals * 1000000
      · rw [if_pos inRange] at runs
        cases runs
        refine ⟨rfl, _, rfl, ?_⟩
        rw [liveBacktestEndDelayIntervals]
        omega
      · rw [if_neg inRange] at runs
        cases runs

def halfDayOver : RunConfigInputs where
  selectedTimeframe := "1h"
  selectedCurrency := "USD"
  initialCapitalText := "10000"
  selectedStrategyKey := "ema_crossover"
  preset := "custom"
  customStartText := "2026-01-01 00:00"
  customEndText := "2026-01-08 12:00"

def asciiToolbar : ToolbarText where
  decimal := DateText.ascii
  parseFloat text := if text = "10000" then some (.finite 10000) else none

theorem tick_range_exceeds_week :
    ¬ ∀ (python : ToolbarText) (view : RunConfigInputs) (mode : BacktestExecutionMode) (now : ℤ),
      TickRunBounded python view mode now := by
  intro claimed
  have starts : parseCustomDatetime asciiToolbar "2026-01-01 00:00" = some 1767225600000000 := by decide +kernel
  have ends : parseCustomDatetime asciiToolbar "2026-01-08 12:00" = some 1767873600000000 := by decide +kernel
  have built := custom_input asciiToolbar halfDayOver .historicalTick 1767960000000000 (by decide)
  have accepted : preBacktestAssertions asciiToolbar (halfDayOver.inputOf .custom .historicalTick
      (parseCustomDatetime asciiToolbar halfDayOver.customStartText)
      (parseCustomDatetime asciiToolbar halfDayOver.customEndText)) = [] := by
    rw [show parseCustomDatetime asciiToolbar halfDayOver.customStartText = some 1767225600000000 from starts]
    refine (custom_accepted_iff asciiToolbar halfDayOver _ starts _).mpr ⟨⟨10000, rfl, by norm_num⟩, ?_, ?_⟩
    · exact .inr ⟨1767873600000000, ends, by decide⟩
    · intro last same
      cases ends.symm.trans same
      decide
  obtain ⟨start, same, short⟩ := claimed asciiToolbar halfDayOver .historicalTick 1767960000000000 _ built accepted rfl
  cases starts.symm.trans same
  change (parseCustomDatetime asciiToolbar "2026-01-08 12:00").getD _ - _ ≤ _ at short
  rw [ends] at short
  exact absurd short (by decide)

end TickMode

end Sagittarius
