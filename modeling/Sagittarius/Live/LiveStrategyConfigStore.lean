import Sagittarius.Library.Dicts
import Sagittarius.Library.JsonValues
import Sagittarius.Live.LiveStrategySession

set_option autoImplicit false

namespace Sagittarius

open Dicts (Dict)
open JsonValues (Double Number Value toDouble)

def defaultSizingPercent : Double := .finite 20

def defaultLeverage : Double := .finite 1

-- the double nearest to 0.1
def minSizingPercent : Double := .finite (3602879701896397 / 36028797018963968)

def maxSizingPercent : Double := .finite 100

def minLeverage : Double := .finite 1

def maxLeverage : Double := .finite 125

-- `LiveStrategyConfig` with its params as they are typed in and saved, before a
-- strategy has accepted them.
structure SavedStrategyConfig where
  strategyKey : String
  symbol : String
  interval : String
  strategyParams : Dict String Value
  sizingPercent : Number
  leverage : Number
  sizingInRange : minSizingPercent.le sizingPercent.exact = true ∧ sizingPercent.exact.le maxSizingPercent = true
  leverageInRange : minLeverage.le leverage.exact = true ∧ leverage.exact.le maxLeverage = true
  intervalSupported : interval = "" ∨ interval ∈ supportedLiveIntervals

-- `==` of two configs: params in any order, an int equal to the same float.
structure SavedStrategyConfig.Same (first second : SavedStrategyConfig) : Prop where
  strategyKey : first.strategyKey = second.strategyKey
  symbol : first.symbol = second.symbol
  interval : first.interval = second.interval
  strategyParams : first.strategyParams.Same second.strategyParams
  sizingPercent : first.sizingPercent.exact = second.sizingPercent.exact
  leverage : first.leverage.exact = second.leverage.exact

inductive ConfigKeys
  | liveStrategyKey
  | liveSymbol
  | liveInterval
  | liveStrategyParams
  | liveSizingPercent
  | liveLeverage
deriving DecidableEq

def ConfigKeys.value : ConfigKeys → String
  | .liveStrategyKey => "trading.live_strategy_key"
  | .liveSymbol => "trading.live_symbol"
  | .liveInterval => "trading.live_interval"
  | .liveStrategyParams => "trading.live_strategy_params"
  | .liveSizingPercent => "trading.live_sizing_percent"
  | .liveLeverage => "trading.live_leverage"

theorem config_keys_distinct (first second : ConfigKeys) (same : first.value = second.value) : first = second := by
  cases first <;> cases second <;> first | rfl | exact absurd same (by decide)

-- An `IConfig`: `get` finds the value last set.
abbrev ConfigValues := String → Option Value

def ConfigValues.set (config : ConfigValues) (key : ConfigKeys) (value : Value) : ConfigValues :=
  Function.update config key.value (some value)

theorem get_set_same (config : ConfigValues) (key : ConfigKeys) (value : Value) :
    config.set key value key.value = some value := Function.update_self ..

theorem get_set_other (config : ConfigValues) (key asked : ConfigKeys) (value : Value) (different : asked ≠ key) :
    config.set key value asked.value = config asked.value :=
  Function.update_of_ne (fun same => different (config_keys_distinct asked key same)) ..

inductive LoadError
  | valueError (message : String)
  | overflowError (message : String)

structure PythonText where
  -- `json.dumps(value, sort_keys=True)` of an object whose keys are in order
  dumps : Value → String
  -- `json.loads`, which raises JSONDecodeError on no JSON text
  loads : String → Option Value
  -- `str` of what is no string
  str : Value → String
  -- `float` of a string that is a numeral
  parseFloat : String → Option Double
  -- format code `g`
  general : Double → String

namespace LiveStrategyConfigStore

variable (python : PythonText)

def sortKeys (params : Dict String Value) : Value :=
  .object (params.members.insertionSort fun first second => first.1 ≤ second.1)

def save (config : ConfigValues) (saved : SavedStrategyConfig) : ConfigValues :=
  (((((config.set .liveStrategyKey (.string saved.strategyKey)).set .liveSymbol (.string saved.symbol)).set .liveInterval
    (.string saved.interval)).set .liveStrategyParams (.string (python.dumps (sortKeys saved.strategyParams)))).set
      .liveSizingPercent (.number saved.sizingPercent)).set .liveLeverage (.number saved.leverage)

def text (config : ConfigValues) (key : ConfigKeys) : String :=
  match (config key.value).getD (.string "") with
  | .string text => text
  | other => python.str other

-- A TypeError or ValueError of `float` falls back, an OverflowError does not.
def number (config : ConfigValues) (key : ConfigKeys) (fallback : Double) : Except LoadError Double :=
  match (config key.value).getD (.number (.float fallback)) with
  | .number (.float value) => .ok value
  | .number (.int value) =>
      match toDouble value with
      | some nearest => .ok (.finite nearest)
      | none => .error (.overflowError "int too large to convert to float")
  | .bool value => .ok (.finite (if value then 1 else 0))
  | .string text => .ok ((python.parseFloat text).getD fallback)
  | _ => .ok fallback

def params (config : ConfigValues) : Dict String Value :=
  let raw := text python config .liveStrategyParams
  if raw = "" then .empty
  else
    match python.loads raw with
    | some (.object members) => .ofMembers members
    | _ => .empty

def outOfRange (fieldName : String) (value minimum maximum : Double) : LoadError :=
  .valueError (s!"{fieldName} must be in the range [{python.general minimum}, {python.general maximum}]; " ++
    s!"got {python.general value}.")

def load (config : ConfigValues) : Except LoadError SavedStrategyConfig := do
  let strategyKey := text python config .liveStrategyKey
  let symbol := text python config .liveSymbol
  let interval := text python config .liveInterval
  let strategyParams := params python config
  let sizingPercent ← number python config .liveSizingPercent defaultSizingPercent
  let leverage ← number python config .liveLeverage defaultLeverage
  if sizing : minSizingPercent.le sizingPercent = true ∧ sizingPercent.le maxSizingPercent = true then
    if leveraged : minLeverage.le leverage = true ∧ leverage.le maxLeverage = true then
      if supported : interval = "" ∨ interval ∈ supportedLiveIntervals then
        return ⟨strategyKey, symbol, interval, strategyParams, .float sizingPercent, .float leverage, sizing, leveraged, supported⟩
      else
        throw (.valueError (s!"Timeframe {pyRepr interval} cannot be used for live trading. " ++
          "Choose one of: " ++ String.intercalate ", " supportedLiveIntervals ++ "."))
    else throw (outOfRange python "leverage" leverage minLeverage maxLeverage)
  else throw (outOfRange python "sizing_percent" sizingPercent minSizingPercent maxSizingPercent)

section Saved

variable (config : ConfigValues) (saved : SavedStrategyConfig)

theorem save_values (key : ConfigKeys) : save python config saved key.value =
    match key with
    | .liveStrategyKey => some (.string saved.strategyKey)
    | .liveSymbol => some (.string saved.symbol)
    | .liveInterval => some (.string saved.interval)
    | .liveStrategyParams => some (.string (python.dumps (sortKeys saved.strategyParams)))
    | .liveSizingPercent => some (.number saved.sizingPercent)
    | .liveLeverage => some (.number saved.leverage) := by
  cases key <;> simp [save, get_set_same, get_set_other]

theorem small_loaded (stored : Number) (least most : ℚ) (bounds : -(2 ^ 53 : ℚ) < least ∧ most < 2 ^ 53)
    (inRange : (Double.finite least).le stored.exact = true ∧ stored.exact.le (.finite most) = true) (key : ConfigKeys)
    (fallback : Double) (found : config key.value = some (.number stored)) :
    number python config key fallback = .ok stored.exact := by
  rw [number, found]
  cases stored with
  | float value => rfl
  | int value =>
      obtain ⟨above, below⟩ := inRange
      simp only [Number.exact, Double.le, decide_eq_true_eq] at above below
      have lower : -(2 ^ 53 : ℤ) < value := by exact_mod_cast bounds.1.trans_le above
      have upper : value < 2 ^ 53 := by exact_mod_cast below.trans_lt bounds.2
      simp [JsonValues.to_double_small value (by omega), Number.exact]

theorem params_loaded (noText : python.loads "" = none)
    (decodes : python.loads (python.dumps (sortKeys saved.strategyParams)) = some (sortKeys saved.strategyParams)) :
    (params python (save python config saved)).Same saved.strategyParams := by
  have raw : text python (save python config saved) .liveStrategyParams = python.dumps (sortKeys saved.strategyParams) := by
    rw [text, save_values]
    rfl
  have written : python.dumps (sortKeys saved.strategyParams) ≠ "" := by
    intro empty
    rw [empty, noText] at decodes
    cases decodes
  rw [params, raw, if_neg written, decodes]
  refine Dicts.Dict.same_of_mem_iff _ _ fun member => ?_
  have permuted := List.perm_insertionSort (fun first second : String × Value => first.1 ≤ second.1) saved.strategyParams.members
  simp only [sortKeys]
  rw [Dict.of_members_nodup _ ((permuted.map Prod.fst).nodup_iff.mpr saved.strategyParams.keys)]
  exact permuted.mem_iff

theorem load_saved (noText : python.loads "" = none)
    (decodes : python.loads (python.dumps (sortKeys saved.strategyParams)) = some (sortKeys saved.strategyParams)) :
    ∃ loaded, load python (save python config saved) = .ok loaded ∧ loaded.Same saved := by
  have sizing := small_loaded python (save python config saved) saved.sizingPercent _ _ (by norm_num) saved.sizingInRange
    .liveSizingPercent defaultSizingPercent (save_values python config saved _)
  have leverage := small_loaded python (save python config saved) saved.leverage _ _ (by norm_num) saved.leverageInRange
    .liveLeverage defaultLeverage (save_values python config saved _)
  have strategyKey : text python (save python config saved) .liveStrategyKey = saved.strategyKey := by
    rw [text, save_values]
    rfl
  have symbol : text python (save python config saved) .liveSymbol = saved.symbol := by
    rw [text, save_values]
    rfl
  have interval : text python (save python config saved) .liveInterval = saved.interval := by
    rw [text, save_values]
    rfl
  refine ⟨⟨saved.strategyKey, saved.symbol, saved.interval, params python (save python config saved),
    .float saved.sizingPercent.exact, .float saved.leverage.exact, saved.sizingInRange, saved.leverageInRange,
    saved.intervalSupported⟩, ?_, ?_⟩
  · rw [load]
    simp only [sizing, leverage, strategyKey, symbol, interval, bind, Except.bind, pure, Except.pure]
    rw [dif_pos saved.sizingInRange, dif_pos saved.leverageInRange, dif_pos saved.intervalSupported]
  · exact {
      strategyKey := rfl
      symbol := rfl
      interval := rfl
      strategyParams := params_loaded python config saved noText decodes
      sizingPercent := rfl
      leverage := rfl }

end Saved

theorem load_last_saved (python : PythonText) (initial : ConfigValues) (saves : List SavedStrategyConfig)
    (last : SavedStrategyConfig) (noText : python.loads "" = none)
    (decodes : python.loads (python.dumps (sortKeys last.strategyParams)) = some (sortKeys last.strategyParams)) :
    ∃ loaded, load python ((saves ++ [last]).foldl (save python) initial) = .ok loaded ∧ loaded.Same last := by
  rw [List.foldl_append]
  exact load_saved python _ last noText decodes

def crossoverMembers : List (String × Value) := [("slow_period", .number (.int 26)), ("fast_period", .number (.int 12))]

theorem crossover_keys : (crossoverMembers.map Prod.fst).Nodup := by decide

def crossoverParams : Dict String Value := ⟨crossoverMembers, crossover_keys⟩

def crossoverText : String := "\x7b\"fast_period\": 12, \"slow_period\": 26\x7d"

def crossoverPython : PythonText where
  dumps _ := crossoverText
  loads text := if text = crossoverText then some (sortKeys crossoverParams) else none
  str _ := ""
  parseFloat _ := none
  general _ := ""

theorem crossover_sizing : minSizingPercent.le (Number.int 20).exact = true ∧
    (Number.int 20).exact.le maxSizingPercent = true := by decide +kernel

theorem crossover_leverage : minLeverage.le (Number.float (.finite 3)).exact = true ∧
    (Number.float (.finite 3)).exact.le maxLeverage = true := by decide +kernel

theorem crossover_interval : "1h" = "" ∨ "1h" ∈ supportedLiveIntervals := by decide

def savedCrossover (symbol : String) : SavedStrategyConfig where
  strategyKey := "ema_crossover"
  symbol := symbol
  interval := "1h"
  strategyParams := crossoverParams
  sizingPercent := .int 20
  leverage := .float (.finite 3)
  sizingInRange := crossover_sizing
  leverageInRange := crossover_leverage
  intervalSupported := crossover_interval

theorem crossover_decodes : crossoverPython.loads (crossoverPython.dumps (sortKeys crossoverParams)) =
    some (sortKeys crossoverParams) := by
  simp [crossoverPython]

theorem load_last_saved_crossover :
    ∃ loaded, load crossoverPython (([savedCrossover "ETHUSDT"] ++ [savedCrossover "BTCUSDT"]).foldl (save crossoverPython)
        fun _ => none) = .ok loaded ∧ loaded.Same (savedCrossover "BTCUSDT") :=
  load_last_saved crossoverPython (fun _ => none) [savedCrossover "ETHUSDT"] (savedCrossover "BTCUSDT") rfl
    crossover_decodes

end LiveStrategyConfigStore

end Sagittarius
