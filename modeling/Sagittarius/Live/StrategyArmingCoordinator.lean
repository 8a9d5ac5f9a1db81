import Sagittarius.Domain.ScriptInputs
import Sagittarius.Library.Groups
import Sagittarius.Library.Machine
import Sagittarius.Live.LiveStrategyConfigStore

set_option autoImplicit false

namespace Sagittarius

open Dicts (Dict)
open Interleaving
open JsonValues (Double Number Value)

structure FormText extends PythonText where
  -- `int` of a string that is an integer's numeral
  parseInt : String → Option ℤ
  repr : Value → String

def pyBool : Value → Bool
  | .null => false
  | .bool value => value
  | .number value => decide (value.exact ≠ .finite 0)
  | .string text => decide (text ≠ "")
  | .array items => !items.isEmpty
  | .object members => !members.isEmpty

section BotParams

variable (python : FormText)

def strOf : Value → String
  | .string text => text
  | other => python.str other

def strippedStr (raw : Value) : String := String.ofList (pyStrip (strOf python raw).toList)

def coerceField (spec : ScriptInput) (raw : Value) : Option Value :=
  match spec.kind with
  | .int => (python.parseInt (strippedStr python raw)).map fun value => .number (.int value)
  | .float =>
      match python.parseFloat (strippedStr python raw) with
      | some (.finite value) => some (.number (.float (.finite value)))
      | _ => none
  | .bool => some (.bool (pyBool raw))
  | .string => some (.string (strOf python raw))

def parseField (rawValues parsed : Dict String Value) (spec : ScriptInput) : Except String (Dict String Value) :=
  match rawValues.get? spec.name with
  | none => .ok parsed
  | some raw =>
      match coerceField python spec raw with
      | some value => .ok (parsed.set spec.name value)
      | none => .error s!"{spec.label}: invalid value ({python.repr raw})"

def parseBotParams (schema : List ScriptInput) (rawValues : Dict String Value) : Except String (Dict String Value) :=
  schema.foldlM (parseField python rawValues) .empty

abbrev BotParamsSchema := List (String × List (ScriptInput × Value))

def buildBotParamsSchema (inputs : List ScriptInput) (params : Dict String Value) : BotParamsSchema :=
  Grouping.groupBy (fun field => field.1.group.getD "") (inputs.map fun spec => (spec, (params.get? spec.name).getD spec.default))

inductive BotParamsRow
  | header (groupLabel : String)
  | field (spec : ScriptInput) (value : Value)

def buildBotParamsRows (schema : BotParamsSchema) : List BotParamsRow :=
  schema.flatMap fun group => .header group.1 :: group.2.map fun field => .field field.1 field.2

theorem parse_field_names (rawValues parsed next : Dict String Value) (spec : ScriptInput)
    (accepted : parseField python rawValues parsed spec = .ok next) (name : String) (held : (next.get? name).isSome = true) :
    (parsed.get? name).isSome = true ∨ name = spec.name := by
  rw [parseField] at accepted
  cases supplied : rawValues.get? spec.name with
  | none =>
      simp only [supplied, Except.ok.injEq] at accepted
      rw [accepted]
      exact .inl held
  | some raw =>
      cases coerced : coerceField python spec raw with
      | none => simp [supplied, coerced] at accepted
      | some value =>
          simp only [supplied, coerced, Except.ok.injEq] at accepted
          rw [← accepted, Dict.get_set] at held
          by_cases same : name = spec.name
          · exact .inr same
          · rw [if_neg same] at held
            exact .inl held

theorem parse_fields_names (schema : List ScriptInput) (rawValues parsed final : Dict String Value)
    (accepted : schema.foldlM (parseField python rawValues) parsed = .ok final) (name : String)
    (held : (final.get? name).isSome = true) : (parsed.get? name).isSome = true ∨ name ∈ schema.map ScriptInput.name := by
  induction schema generalizing parsed with
  | nil =>
      cases accepted
      exact .inl held
  | cons spec rest ih =>
      rw [List.foldlM_cons] at accepted
      cases first : parseField python rawValues parsed spec with
      | error raised =>
          rw [first] at accepted
          cases accepted
      | ok next =>
          rw [first] at accepted
          rcases ih next accepted with before | later
          · rcases parse_field_names python rawValues parsed next spec first name before with before | same
            · exact .inl before
            · exact .inr (by simp [same])
          · exact .inr (by simp [later])

theorem parse_bot_params_declared (schema : List ScriptInput) (rawValues parsed : Dict String Value)
    (accepted : parseBotParams python schema rawValues = .ok parsed) (name : String)
    (held : (parsed.get? name).isSome = true) : name ∈ schema.map ScriptInput.name := by
  rcases parse_fields_names python schema rawValues .empty parsed accepted name held with none | declared
  · cases none
  · exact declared

end BotParams

-- The registered strategies, each with the inputs its `setup` declares.
abbrev AvailableStrategies := Dict String (List ScriptInput)

structure StrategyCard where
  selectedStrategyKey : String := ""
  liveInterval : String := ""
  sizingPercent : Number := .float (.finite 0)
  leverage : Number := .float (.finite 1)
  botParamsSchema : BotParamsSchema := []
  botParamsRows : List BotParamsRow := []
  botParamsError : String := ""

structure StrategyArmingCoordinator where
  viewModel : StrategyCard := {}
  params : Dict String Value := .empty
  -- nothing until the form has been built for some key
  lastFormStrategyKey : Option String := none
  -- whether the presenter listens to `strategyConfigChanged` yet
  connected : Bool := false
  config : ConfigValues
  -- the configs of the `ArmStrategyCommand`s dispatched, newest first
  requests : List SavedStrategyConfig := []

theorem default_sizing_in_range : minSizingPercent.le (Number.float defaultSizingPercent).exact = true ∧
    (Number.float defaultSizingPercent).exact.le maxSizingPercent = true := by decide +kernel

theorem default_leverage_in_range : minLeverage.le (Number.float defaultLeverage).exact = true ∧
    (Number.float defaultLeverage).exact.le maxLeverage = true := by decide +kernel

theorem empty_interval_supported : "" = "" ∨ "" ∈ supportedLiveIntervals := .inl rfl

def SavedStrategyConfig.unset : SavedStrategyConfig where
  strategyKey := ""
  symbol := ""
  interval := ""
  strategyParams := .empty
  sizingPercent := .float defaultSizingPercent
  leverage := .float defaultLeverage
  sizingInRange := default_sizing_in_range
  leverageInRange := default_leverage_in_range
  intervalSupported := empty_interval_supported

namespace StrategyArmingCoordinator

variable (python : FormText) (available : AvailableStrategies)

def setBotParamsError (self : StrategyArmingCoordinator) (message : String) : StrategyArmingCoordinator :=
  { self with viewModel := { self.viewModel with botParamsError := message } }

def setBotParams (self : StrategyArmingCoordinator) (schema : BotParamsSchema) (rows : List BotParamsRow) :
    StrategyArmingCoordinator :=
  { self with viewModel := { self.viewModel with botParamsSchema := schema, botParamsRows := rows } }

def refreshParamsRows (self : StrategyArmingCoordinator) : StrategyArmingCoordinator :=
  match available.get? self.viewModel.selectedStrategyKey with
  | none => setBotParams self [] []
  | some inputs =>
      let schema := buildBotParamsSchema inputs self.params
      setBotParamsError (setBotParams self schema (buildBotParamsRows schema)) ""

def onStrategySelectionChanged (self : StrategyArmingCoordinator) : StrategyArmingCoordinator :=
  if some self.viewModel.selectedStrategyKey = self.lastFormStrategyKey then self
  else refreshParamsRows available { self with lastFormStrategyKey := some self.viewModel.selectedStrategyKey }

def strategyConfigChanged (self : StrategyArmingCoordinator) : StrategyArmingCoordinator :=
  if self.connected then self.onStrategySelectionChanged available else self

def requestStrategySelection (self : StrategyArmingCoordinator) (strategyKey : String) : StrategyArmingCoordinator :=
  if strategyKey ≠ "" ∧ strategyKey ≠ self.viewModel.selectedStrategyKey then
    strategyConfigChanged available { self with viewModel := { self.viewModel with selectedStrategyKey := strategyKey } }
  else self

def requestIntervalSelection (self : StrategyArmingCoordinator) (interval : String) : StrategyArmingCoordinator :=
  if interval ≠ "" ∧ interval ≠ self.viewModel.liveInterval then
    strategyConfigChanged available { self with viewModel := { self.viewModel with liveInterval := interval } }
  else self

def requestSizingPercent (self : StrategyArmingCoordinator) (percent : Number) : StrategyArmingCoordinator :=
  { self with viewModel := { self.viewModel with sizingPercent := percent } }

def requestLeverage (self : StrategyArmingCoordinator) (leverage : Number) : StrategyArmingCoordinator :=
  { self with viewModel := { self.viewModel with leverage := leverage } }

def setStrategySelection (self : StrategyArmingCoordinator) (strategyKey interval : String)
    (sizingPercent leverage : Number) : StrategyArmingCoordinator :=
  strategyConfigChanged available { self with viewModel := { self.viewModel with
    selectedStrategyKey := strategyKey, liveInterval := interval, sizingPercent := sizingPercent, leverage := leverage } }

def shownKey (savedKey : String) : String :=
  let keys := (available.members.map Prod.fst).insertionSort (· ≤ ·)
  if savedKey ∈ keys then savedKey else keys.head?.getD ""

def showSaved (self : StrategyArmingCoordinator) (saved : SavedStrategyConfig) : StrategyArmingCoordinator :=
  refreshParamsRows available
    (setStrategySelection available { self with params := saved.strategyParams } (shownKey available saved.strategyKey)
      saved.interval saved.sizingPercent saved.leverage)

-- Setting the strategy options emits first. An OverflowError of the load leaves it at that.
def restoreIntoViewModel (self : StrategyArmingCoordinator) : StrategyArmingCoordinator :=
  let self := self.strategyConfigChanged available
  match LiveStrategyConfigStore.load python.toPythonText self.config with
  | .ok saved => self.showSaved available saved
  | .error (.valueError message) => showSaved available (self.setBotParamsError message) .unset
  | .error (.overflowError _) => self

def applyParams (self : StrategyArmingCoordinator) (rawValues : Dict String Value) : StrategyArmingCoordinator :=
  match available.get? self.viewModel.selectedStrategyKey with
  | none => self
  | some inputs =>
      match parseBotParams python inputs rawValues with
      | .ok parsed => refreshParamsRows available (setBotParamsError { self with params := parsed } "")
      | .error message => self.setBotParamsError message

def buildConfig (self : StrategyArmingCoordinator) (symbol : String) : Except LoadError SavedStrategyConfig :=
  if sizing : minSizingPercent.le self.viewModel.sizingPercent.exact = true ∧
      self.viewModel.sizingPercent.exact.le maxSizingPercent = true then
    if leveraged : minLeverage.le self.viewModel.leverage.exact = true ∧
        self.viewModel.leverage.exact.le maxLeverage = true then
      if supported : self.viewModel.liveInterval = "" ∨ self.viewModel.liveInterval ∈ supportedLiveIntervals then
        .ok ⟨self.viewModel.selectedStrategyKey, symbol, self.viewModel.liveInterval, self.params,
          self.viewModel.sizingPercent, self.viewModel.leverage, sizing, leveraged, supported⟩
      else
        .error (.valueError (s!"Timeframe {pyRepr self.viewModel.liveInterval} cannot be used for live trading. " ++
          "Choose one of: " ++ String.intercalate ", " supportedLiveIntervals ++ "."))
    else
      .error (LiveStrategyConfigStore.outOfRange python.toPythonText "leverage" self.viewModel.leverage.exact minLeverage
        maxLeverage)
  else
    .error (LiveStrategyConfigStore.outOfRange python.toPythonText "sizing_percent" self.viewModel.sizingPercent.exact
      minSizingPercent maxSizingPercent)

-- `armed` is what the command's handler answers.
def arm (self : StrategyArmingCoordinator) (symbol : String) (armed : Bool) : StrategyArmingCoordinator :=
  match self.buildConfig python symbol with
  | .error _ => self
  | .ok config =>
      { self with
        requests := config :: self.requests
        config := if armed then LiveStrategyConfigStore.save python.toPythonText self.config config else self.config }

def onArmClicked (self : StrategyArmingCoordinator) (symbol : String) (armed : Bool) : StrategyArmingCoordinator :=
  strategyConfigChanged available ((self.strategyConfigChanged available).arm python symbol armed)

end StrategyArmingCoordinator

inductive ArmingAction
  | connectUiSignals
  | requestStrategySelection (strategyKey : String)
  | requestIntervalSelection (interval : String)
  | requestSizingPercent (percent : Number)
  | requestLeverage (leverage : Number)
  | restoreIntoViewModel
  -- whatever else writes the shared config
  | configure (config : ConfigValues)
  | applyParams (rawValues : Dict String Value)
  | onArmClicked (symbol : String) (armed : Bool)
  -- whether the command came back
  | onDisarmClicked (returned : Bool)

namespace StrategyArmingCoordinator

variable (python : FormText) (available : AvailableStrategies)

def handle (self : StrategyArmingCoordinator) : ArmingAction → StrategyArmingCoordinator
  | .connectUiSignals => { self with connected := true }
  | .requestStrategySelection strategyKey => self.requestStrategySelection available strategyKey
  | .requestIntervalSelection interval => self.requestIntervalSelection available interval
  | .requestSizingPercent percent => self.requestSizingPercent percent
  | .requestLeverage leverage => self.requestLeverage leverage
  | .restoreIntoViewModel => self.restoreIntoViewModel python available
  | .configure config => { self with config }
  | .applyParams rawValues => self.applyParams python available rawValues
  | .onArmClicked symbol armed => self.onArmClicked python available symbol armed
  | .onDisarmClicked returned => if returned then self.strategyConfigChanged available else self

def step (self : StrategyArmingCoordinator) (action : ArmingAction) : Option StrategyArmingCoordinator :=
  some (self.handle python available action)

def Declares (available : AvailableStrategies) (strategyKey : String) (params : Dict String Value) : Prop :=
  ∀ name, (params.get? name).isSome = true →
    ∃ inputs, available.get? strategyKey = some inputs ∧ name ∈ inputs.map ScriptInput.name

def restored (config : ConfigValues) : Option SavedStrategyConfig :=
  match LiveStrategyConfigStore.load python.toPythonText config with
  | .ok saved => some saved
  | .error (.valueError _) => some .unset
  | .error (.overflowError _) => none

-- The actions that replace the strategy shown or the parameters held.
def Replaces (self : StrategyArmingCoordinator) : ArmingAction → Prop
  | .requestStrategySelection strategyKey => strategyKey ≠ "" ∧ strategyKey ≠ self.viewModel.selectedStrategyKey
  | .restoreIntoViewModel => (restored python self.config).isSome = true
  | .applyParams rawValues =>
      ∃ inputs parsed, available.get? self.viewModel.selectedStrategyKey = some inputs ∧
        parseBotParams python inputs rawValues = .ok parsed
  | _ => False

-- Whether the strategy picked declares what is held, and the one shown for a
-- saved config what is saved.
def Matches (self : StrategyArmingCoordinator) : ArmingAction → Prop
  | .requestStrategySelection strategyKey => Declares available strategyKey self.params
  | .restoreIntoViewModel =>
      ∀ saved, restored python self.config = some saved →
        Declares available (shownKey available saved.strategyKey) saved.strategyParams
  | _ => True

def Own (self : StrategyArmingCoordinator) : Prop :=
  Declares available self.viewModel.selectedStrategyKey self.params

def FormOf (self next : StrategyArmingCoordinator) : Prop :=
  ∃ schema rows message built, next = { self with
    viewModel := { self.viewModel with botParamsSchema := schema, botParamsRows := rows, botParamsError := message }
    lastFormStrategyKey := built }

theorem refresh_form (self : StrategyArmingCoordinator) : FormOf self (self.refreshParamsRows available) := by
  rw [refreshParamsRows]
  cases available.get? self.viewModel.selectedStrategyKey with
  | none => exact ⟨[], [], self.viewModel.botParamsError, self.lastFormStrategyKey, rfl⟩
  | some inputs => exact ⟨_, _, "", self.lastFormStrategyKey, rfl⟩

theorem config_changed_form (self : StrategyArmingCoordinator) : FormOf self (self.strategyConfigChanged available) := by
  have unchanged : FormOf self self := ⟨self.viewModel.botParamsSchema, self.viewModel.botParamsRows, self.viewModel.botParamsError, self.lastFormStrategyKey, rfl⟩
  by_cases listening : self.connected = true
  · rw [strategyConfigChanged, if_pos listening, onStrategySelectionChanged]
    by_cases built : some self.viewModel.selectedStrategyKey = self.lastFormStrategyKey
    · rw [if_pos built]
      exact unchanged
    · rw [if_neg built]
      obtain ⟨schema, rows, message, key, same⟩ :=
        refresh_form available { self with lastFormStrategyKey := some self.viewModel.selectedStrategyKey }
      exact ⟨schema, rows, message, key, same⟩
  · rw [strategyConfigChanged, if_neg listening]
    exact unchanged

theorem form_own (self next : StrategyArmingCoordinator) (form : FormOf self next) :
    (Own available next ↔ Own available self) ∧ next.requests = self.requests := by
  obtain ⟨schema, rows, message, built, same⟩ := form
  rw [same]
  exact ⟨Iff.rfl, rfl⟩

theorem form_build_config (self next : StrategyArmingCoordinator) (form : FormOf self next) (symbol : String) :
    next.buildConfig python symbol = self.buildConfig python symbol := by
  obtain ⟨schema, rows, message, built, same⟩ := form
  rw [same]
  rfl

theorem show_saved_own (self : StrategyArmingCoordinator) (saved : SavedStrategyConfig) :
    (Own available (self.showSaved available saved) ↔
        Declares available (shownKey available saved.strategyKey) saved.strategyParams) ∧
      (self.showSaved available saved).requests = self.requests := by
  rw [showSaved]
  obtain ⟨refreshed, kept⟩ := form_own available _ _ (refresh_form available
    (setStrategySelection available { self with params := saved.strategyParams } (shownKey available saved.strategyKey)
      saved.interval saved.sizingPercent saved.leverage))
  rw [refreshed, kept, setStrategySelection]
  obtain ⟨changed, requests⟩ := form_own available _ _ (config_changed_form available
    { self with
      params := saved.strategyParams
      viewModel := { self.viewModel with
        selectedStrategyKey := shownKey available saved.strategyKey
        liveInterval := saved.interval
        sizingPercent := saved.sizingPercent
        leverage := saved.leverage } })
  rw [changed, requests]
  exact ⟨Iff.rfl, rfl⟩

theorem restore_own (self : StrategyArmingCoordinator) :
    (self.restoreIntoViewModel python available).requests = self.requests ∧
      ((restored python self.config = none → (Own available (self.restoreIntoViewModel python available) ↔ Own available self)) ∧
        ∀ saved, restored python self.config = some saved → (Own available (self.restoreIntoViewModel python available) ↔
          Declares available (shownKey available saved.strategyKey) saved.strategyParams)) := by
  obtain ⟨schema, rows, message, built, emitted⟩ := config_changed_form available self
  rw [restoreIntoViewModel, restored, emitted]
  cases LiveStrategyConfigStore.load python.toPythonText self.config with
  | ok saved =>
      obtain ⟨own, requests⟩ := show_saved_own available { self with
        viewModel := { self.viewModel with botParamsSchema := schema, botParamsRows := rows, botParamsError := message }
        lastFormStrategyKey := built } saved
      refine ⟨requests, fun none => (by cases none), fun other same => ?_⟩
      cases same
      exact own
  | error raised =>
      cases raised with
      | valueError reason =>
          obtain ⟨own, requests⟩ := show_saved_own available { self with
            viewModel := { self.viewModel with botParamsSchema := schema, botParamsRows := rows, botParamsError := reason }
            lastFormStrategyKey := built } .unset
          refine ⟨requests, fun none => (by cases none), fun other same => ?_⟩
          cases same
          exact own
      | overflowError reason => exact ⟨rfl, fun _ => Iff.rfl, fun other same => (by cases same)⟩

theorem apply_params_cases (self : StrategyArmingCoordinator) (rawValues : Dict String Value) :
    (self.applyParams python available rawValues).requests = self.requests ∧
      ((Replaces python available self (.applyParams rawValues) ∧ Own available (self.applyParams python available rawValues)) ∨
        ¬ Replaces python available self (.applyParams rawValues) ∧
          (Own available (self.applyParams python available rawValues) ↔ Own available self)) := by
  rw [applyParams]
  cases selected : available.get? self.viewModel.selectedStrategyKey with
  | none =>
      refine ⟨rfl, .inr ⟨?_, Iff.rfl⟩⟩
      rintro ⟨inputs, _, isSelected, _⟩
      rw [selected] at isSelected
      cases isSelected
  | some inputs =>
      cases accepted : parseBotParams python inputs rawValues with
      | error message =>
          simp only [accepted]
          refine ⟨rfl, .inr ⟨?_, Iff.rfl⟩⟩
          rintro ⟨other, parsed, isSelected, isAccepted⟩
          cases selected.symm.trans isSelected
          cases accepted.symm.trans isAccepted
      | ok parsed =>
          simp only [accepted]
          obtain ⟨own, requests⟩ := form_own available _ _ (refresh_form available
            (setBotParamsError { self with params := parsed } ""))
          refine ⟨requests, .inl ⟨⟨inputs, parsed, selected, accepted⟩, own.mpr fun name held => ?_⟩⟩
          exact ⟨inputs, selected, parse_bot_params_declared python inputs rawValues parsed accepted name held⟩

theorem arm_cases (self : StrategyArmingCoordinator) (symbol : String) (armed : Bool) :
    (Own available (self.onArmClicked python available symbol armed) ↔ Own available self) ∧
      ((∃ error, self.buildConfig python symbol = .error error) ∧
          (self.onArmClicked python available symbol armed).requests = self.requests ∨
        ∃ request, self.buildConfig python symbol = .ok request ∧
          (self.onArmClicked python available symbol armed).requests = request :: self.requests) := by
  have before := config_changed_form available self
  obtain ⟨sameBefore, keptBefore⟩ := form_own available _ _ before
  have builds := form_build_config python _ _ before symbol
  rw [onArmClicked]
  obtain ⟨sameAfter, keptAfter⟩ := form_own available _ _ (config_changed_form available
    ((self.strategyConfigChanged available).arm python symbol armed))
  rw [sameAfter, keptAfter, arm, builds]
  cases self.buildConfig python symbol with
  | error raised => exact ⟨sameBefore, .inl ⟨⟨raised, rfl⟩, keptBefore⟩⟩
  | ok request => exact ⟨sameBefore, .inr ⟨request, rfl, by rw [keptBefore]⟩⟩

theorem built_request (self : StrategyArmingCoordinator) (symbol : String) (request : SavedStrategyConfig)
    (built : self.buildConfig python symbol = .ok request) :
    request.strategyKey = self.viewModel.selectedStrategyKey ∧ request.strategyParams = self.params := by
  unfold buildConfig at built
  split at built
  · split at built
    · split at built
      · cases built
        exact ⟨rfl, rfl⟩
      · cases built
    · cases built
  · cases built

theorem handle_own (self : StrategyArmingCoordinator) (action : ArmingAction) :
    Own available (self.handle python available action) ↔
      (Replaces python available self action ∧ Matches python available self action) ∨
        Own available self ∧ ¬ Replaces python available self action := by
  have replaced (some : Replaces python available self action)
      (same : Own available (self.handle python available action) ↔ Matches python available self action) :
      Own available (self.handle python available action) ↔
        (Replaces python available self action ∧ Matches python available self action) ∨
          Own available self ∧ ¬ Replaces python available self action := by
    rw [same]
    simp [some]
  have untouched (none : ¬ Replaces python available self action)
      (same : Own available (self.handle python available action) ↔ Own available self) :
      Own available (self.handle python available action) ↔
        (Replaces python available self action ∧ Matches python available self action) ∨
          Own available self ∧ ¬ Replaces python available self action := by
    rw [same]
    simp [none]
  cases action with
  | connectUiSignals => exact untouched id Iff.rfl
  | requestSizingPercent percent => exact untouched id Iff.rfl
  | requestLeverage leverage => exact untouched id Iff.rfl
  | configure config => exact untouched id Iff.rfl
  | requestIntervalSelection interval =>
      refine untouched id ?_
      rw [handle, requestIntervalSelection]
      by_cases changed : interval ≠ "" ∧ interval ≠ self.viewModel.liveInterval
      · rw [if_pos changed]
        exact (form_own available _ _ (config_changed_form available _)).1
      · rw [if_neg changed]
  | onDisarmClicked returned =>
      refine untouched id ?_
      rw [handle]
      cases returned with
      | false => rfl
      | true => exact (form_own available _ _ (config_changed_form available self)).1
  | onArmClicked symbol armed => exact untouched id (arm_cases python available self symbol armed).1
  | requestStrategySelection strategyKey =>
      by_cases picked : strategyKey ≠ "" ∧ strategyKey ≠ self.viewModel.selectedStrategyKey
      · have own := (form_own available _ _ (config_changed_form available
          { self with viewModel := { self.viewModel with selectedStrategyKey := strategyKey } })).1
        refine replaced picked ?_
        rw [handle, requestStrategySelection, if_pos picked, own]
        rfl
      · refine untouched picked ?_
        rw [handle, requestStrategySelection, if_neg picked]
  | restoreIntoViewModel =>
      obtain ⟨_, failed, loaded⟩ := restore_own python available self
      cases shown : restored python self.config with
      | none => exact untouched (by simp [Replaces, shown]) (failed shown)
      | some saved =>
          refine replaced (by simp [Replaces, shown]) ?_
          rw [handle, loaded saved shown]
          simp [Matches, shown]
  | applyParams rawValues =>
      rcases (apply_params_cases python available self rawValues).2 with ⟨accepted, own⟩ | ⟨refused, same⟩
      · exact replaced accepted (iff_of_true own trivial)
      · exact untouched refused same

def Sends (self : StrategyArmingCoordinator) : ArmingAction → Prop
  | .onArmClicked symbol _ => (∃ request, self.buildConfig python symbol = .ok request) → Own available self
  | _ => True

def RequestsDeclared (self : StrategyArmingCoordinator) : Prop :=
  ∀ request ∈ self.requests, Declares available request.strategyKey request.strategyParams

theorem handle_requests (self : StrategyArmingCoordinator) (action : ArmingAction) :
    RequestsDeclared available (self.handle python available action) ↔
      RequestsDeclared available self ∧ Sends python available self action := by
  have silent (nothing : Sends python available self action)
      (kept : (self.handle python available action).requests = self.requests) :
      RequestsDeclared available (self.handle python available action) ↔
        RequestsDeclared available self ∧ Sends python available self action := by
    rw [RequestsDeclared, kept]
    exact (and_iff_left nothing).symm
  cases action with
  | connectUiSignals => exact silent trivial rfl
  | requestSizingPercent percent => exact silent trivial rfl
  | requestLeverage leverage => exact silent trivial rfl
  | configure config => exact silent trivial rfl
  | requestIntervalSelection interval =>
      refine silent trivial ?_
      rw [handle, requestIntervalSelection]
      by_cases changed : interval ≠ "" ∧ interval ≠ self.viewModel.liveInterval
      · rw [if_pos changed]
        exact (form_own available _ _ (config_changed_form available _)).2
      · rw [if_neg changed]
  | onDisarmClicked returned =>
      refine silent trivial ?_
      rw [handle]
      cases returned with
      | false => rfl
      | true => exact (form_own available _ _ (config_changed_form available self)).2
  | requestStrategySelection strategyKey =>
      refine silent trivial ?_
      rw [handle, requestStrategySelection]
      by_cases picked : strategyKey ≠ "" ∧ strategyKey ≠ self.viewModel.selectedStrategyKey
      · rw [if_pos picked]
        exact (form_own available _ _ (config_changed_form available _)).2
      · rw [if_neg picked]
  | restoreIntoViewModel => exact silent trivial (restore_own python available self).1
  | applyParams rawValues => exact silent trivial (apply_params_cases python available self rawValues).1
  | onArmClicked symbol armed =>
      rcases (arm_cases python available self symbol armed).2 with ⟨⟨raised, failed⟩, kept⟩ | ⟨request, built, sent⟩
      · refine silent ?_ kept
        rintro ⟨request, built⟩
        rw [failed] at built
        cases built
      · obtain ⟨key, params⟩ := built_request python self symbol request built
        have sends : Sends python available self (.onArmClicked symbol armed) ↔ Own available self :=
          ⟨fun own => own ⟨request, built⟩, fun own _ => own⟩
        rw [sends, Own, ← key, ← params, RequestsDeclared, handle, sent, List.forall_mem_cons]
        exact and_comm

-- Every request's parameters are the named strategy's own exactly when the last
-- action to replace strategy or parameters before it left the two matching.
theorem requests_declared_iff (config : ConfigValues) (actions : List ArmingAction) (final : StrategyArmingCoordinator)
    (completed : run (step python available) { config } actions = some final) :
    (∀ request ∈ final.requests, Declares available request.strategyKey request.strategyParams) ↔
      ∀ front symbol armed rest state, actions = front ++ .onArmClicked symbol armed :: rest →
        run (step python available) { config } front = some state →
        (∃ request, state.buildConfig python symbol = .ok request) →
        MetSince (step python available)
          (fun self action => Replaces python available self action ∧ Matches python available self action)
          (fun self action => ¬ Replaces python available self action) True { config } front := by
  have start : Own available { config } := fun name held => by cases held
  have sent := run_meets_iff (step python available) (Sends python available) (fun _ => True) (RequestsDeclared available)
    (fun _ _ _ _ _ => trivial) (fun self action next _ moved => by cases moved; exact handle_requests python available self action)
    actions { config } final trivial completed
  have none : RequestsDeclared available { config } := fun request listed => by cases listed
  refine (sent.trans (and_iff_right none)).trans ?_
  rw [steps_meet_iff_cut]
  have since (front : List ArmingAction) (state : StrategyArmingCoordinator)
      (reached : run (step python available) { config } front = some state) :=
    run_met_since_iff (step python available)
      (fun self action => Replaces python available self action ∧ Matches python available self action)
      (fun self action => ¬ Replaces python available self action) (fun _ => True) (Own available) (fun _ _ _ _ _ => trivial)
      (fun self action next _ moved => by cases moved; exact handle_own python available self action) front { config } state
      trivial reached
  constructor
  · intro sends front symbol armed rest state cut reached builds
    rw [← eq_true start]
    exact (since front state reached).mp (sends front _ rest state cut reached builds)
  · intro matching front action rest state cut reached
    cases action with
    | onArmClicked symbol armed =>
        intro builds
        refine (since front state reached).mpr ?_
        rw [eq_true start]
        exact matching front symbol armed rest state cut reached builds
    | _ => trivial

def periodInput (name : String) : ScriptInput where
  name := name
  label := name
  kind := .int
  default := .number (.int 14)

def crossoverAndRsi : List (String × List ScriptInput) :=
  [("ema_crossover", [periodInput "fast_period", periodInput "slow_period"]), ("rsi", [periodInput "period"])]

theorem crossover_and_rsi_keys : (crossoverAndRsi.map Prod.fst).Nodup := by decide

def twoStrategies : AvailableStrategies := ⟨crossoverAndRsi, crossover_and_rsi_keys⟩

def typedText : FormText where
  toPythonText := LiveStrategyConfigStore.crossoverPython
  parseInt text := if text = "12" then some 12 else none
  repr _ := ""

def fastPeriodTyped : Dict String Value := Dict.empty.set "fast_period" (.string "12")

def armCrossover : List ArmingAction :=
  [.requestStrategySelection "ema_crossover", .applyParams fastPeriodTyped, .requestSizingPercent (.int 20),
    .onArmClicked "BTCUSDT" true]

theorem crossover_requests_declared :
    (∀ request ∈ (armCrossover.foldl (handle typedText twoStrategies) { config := fun _ => none }).requests,
        Declares twoStrategies request.strategyKey request.strategyParams) ↔
      ∀ front symbol armed rest state, armCrossover = front ++ .onArmClicked symbol armed :: rest →
        run (step typedText twoStrategies) { config := fun _ => none } front = some state →
        (∃ request, state.buildConfig typedText symbol = .ok request) →
        MetSince (step typedText twoStrategies)
          (fun self action => Replaces typedText twoStrategies self action ∧ Matches typedText twoStrategies self action)
          (fun self action => ¬ Replaces typedText twoStrategies self action) True { config := fun _ => none } front :=
  requests_declared_iff typedText twoStrategies (fun _ => none) armCrossover
    (armCrossover.foldl (handle typedText twoStrategies) { config := fun _ => none }) rfl

def armAfterSwitch : List ArmingAction :=
  [.requestStrategySelection "ema_crossover", .applyParams fastPeriodTyped, .requestStrategySelection "rsi",
    .requestSizingPercent (.int 20), .onArmClicked "BTCUSDT" false]

def afterSwitch : StrategyArmingCoordinator :=
  armAfterSwitch.foldl (handle typedText twoStrategies) { config := fun _ => none }

theorem switch_keeps_period :
    (afterSwitch.requests.map fun request => (request.strategyKey, (request.strategyParams.get? "fast_period").isSome)) =
      [("rsi", true)] := by decide +kernel

-- The period typed in for one strategy is sent with the other.
theorem arms_other_strategys_params :
    ¬ ∀ (python : FormText) (available : AvailableStrategies) (config : ConfigValues) (actions : List ArmingAction)
      (final : StrategyArmingCoordinator), run (step python available) { config } actions = some final →
        ∀ request ∈ final.requests, Declares available request.strategyKey request.strategyParams := by
  intro claimed
  have declared := claimed typedText twoStrategies (fun _ => none) armAfterSwitch afterSwitch rfl
  have sent : ("rsi", true) ∈
      afterSwitch.requests.map fun request => (request.strategyKey, (request.strategyParams.get? "fast_period").isSome) := by
    rw [switch_keeps_period]
    exact List.mem_cons_self ..
  obtain ⟨request, dispatched, shown⟩ := List.mem_map.mp sent
  obtain ⟨key, held⟩ := Prod.mk.inj shown
  obtain ⟨inputs, registered, listed⟩ := declared request dispatched "fast_period" held
  rw [key] at registered
  have rsi : twoStrategies.get? "rsi" = some [periodInput "period"] := rfl
  cases rsi.symm.trans registered
  simp [periodInput] at listed

end StrategyArmingCoordinator

end Sagittarius
