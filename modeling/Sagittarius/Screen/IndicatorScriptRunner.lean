import Sagittarius.Library.Attempts
import Sagittarius.Library.Machine
import Sagittarius.Screen.ActiveScript

set_option autoImplicit false

namespace Sagittarius

open Dicts Outputs

structure IndicatorScriptRegistry (σ : Type) where
  scripts : Dict String (Except PyError σ)

def IndicatorScriptRegistry.create {σ : Type} (registry : IndicatorScriptRegistry σ) (key : String) : Except PyError σ :=
  match registry.scripts.get? key with
  | none => .error (.keyError ("No indicator script registered under key " ++ pyRepr key))
  | some built => built

variable {σ α : Type}

structure IndicatorScriptRunner (σ α : Type) where
  registry : IndicatorScriptRegistry σ
  barWidthSeconds : α
  active : Dict String (ActiveScript σ α) := .empty
  -- what the callbacks of each script were given last
  emitted : String → ScriptShown α := fun _ _ => none
  -- what `on_error` was given
  errors : List String := []

namespace IndicatorScriptRunner

variable (methods : BaseIndicatorScript σ α) (emitting : Bool)

def created [PyFloat α] (registry : IndicatorScriptRegistry σ) (barWidthSeconds : α := PyFloat.literal 60) :
    IndicatorScriptRunner σ α where
  registry := registry
  barWidthSeconds := barWidthSeconds

def unknownScript (key : String) : String := "Unknown indicator script: " ++ key

def fresh (runner : IndicatorScriptRunner σ α) (script : σ) : ActiveScript σ α where
  script := script
  overlay := methods.overlay script
  regionTracker := { barWidth := runner.barWidthSeconds }

def rebuildKey (runner : IndicatorScriptRunner σ α) (built : Dict String (ActiveScript σ α) × List String)
    (key : String) : (Dict String (ActiveScript σ α) × List String) × Option PyError :=
  match runner.registry.create key with
  | .error (.keyError _) => ((built.1, built.2 ++ [unknownScript key]), none)
  | .error raised => (built, some raised)
  | .ok script => ((built.1.set key (runner.fresh methods script), built.2), none)

def rebuild (runner : IndicatorScriptRunner σ α) (enabledKeys : List String) :
    IndicatorScriptRunner σ α × Option PyError :=
  match Attempts.forEach (runner.rebuildKey methods) (.empty, runner.errors) enabledKeys with
  | (built, none) => ({ runner with active := built.1, errors := built.2 }, none)
  | (built, some raised) => ({ runner with errors := built.2 }, some raised)

def flush (runner : IndicatorScriptRunner σ α) (key : String) (active : ActiveScript σ α) : IndicatorScriptRunner σ α :=
  { runner with
    emitted := Function.update runner.emitted key (emitAll (runner.emitted key) (active.flushed key)) }

def activate (runner : IndicatorScriptRunner σ α) (key : String) (active : ActiveScript σ α) : IndicatorScriptRunner σ α :=
  { runner with active := runner.active.set key active }

def flushMember (runner : IndicatorScriptRunner σ α) (member : String × ActiveScript σ α) : IndicatorScriptRunner σ α :=
  runner.flush member.1 member.2

def flushAll (runner : IndicatorScriptRunner σ α) : IndicatorScriptRunner σ α :=
  runner.active.members.foldl flushMember runner

def removeScript (runner : IndicatorScriptRunner σ α) (key : String) : IndicatorScriptRunner σ α :=
  { runner with active := runner.active.pop key }

def holds (key : String) (runner : IndicatorScriptRunner σ α) (output : ScriptOutput) : Option (ScriptPayload α) :=
  (runner.active.get? key).bind fun active => active.holds key output

theorem holds_active (runner : IndicatorScriptRunner σ α) (key : String) (active : ActiveScript σ α)
    (isActive : runner.active.get? key = some active) (output : ScriptOutput) :
    runner.holds key output = active.holds key output := by
  rw [holds, isActive]
  rfl

def scriptAt (runner : IndicatorScriptRunner σ α) (key : String) : Option (ActiveScript σ α) × ScriptShown α :=
  (runner.active.get? key, runner.emitted key)

-- What a script has accumulated over time was sent: its lines and markers.
def Synced (runner : IndicatorScriptRunner σ α) : Prop :=
  ∀ key output, ¬(output = .region ∨ output = .info) → Current (holds key) runner (runner.emitted key) output

theorem synced_changed (runner after : IndicatorScriptRunner σ α) (synced : runner.Synced) (key : String)
    (elsewhere : ∀ other, other ≠ key → after.scriptAt other = runner.scriptAt other)
    (here : ∀ output, ¬(output = .region ∨ output = .info) → Current (holds key) after (after.emitted key) output) :
    after.Synced := by
  intro other output accumulated
  by_cases same : other = key
  · subst same
    exact here output accumulated
  · obtain ⟨sameActive, sameShown⟩ := Prod.mk.inj (elsewhere other same)
    intro payload held
    rw [holds, sameActive] at held
    rw [sameShown]
    exact synced other output accumulated payload held

theorem remove_synced (runner : IndicatorScriptRunner σ α) (synced : runner.Synced) (key : String) :
    (runner.removeScript key).Synced := by
  refine synced_changed runner _ synced key (fun other different => ?_) fun output _ payload held => ?_
  · dsimp only [scriptAt, removeScript]
    rw [Dict.get_pop, if_neg different]
  · rw [holds, removeScript, Dict.get_pop, if_pos rfl] at held
    cases held

theorem fresh_holds (runner : IndicatorScriptRunner σ α) (script : σ) (key : String) (output : ScriptOutput)
    (accumulated : ¬(output = .region ∨ output = .info)) : (runner.fresh methods script).holds key output = none := by
  cases output with
  | line name => rfl
  | markers => rfl
  | region => exact absurd (.inl rfl) accumulated
  | info => exact absurd (.inr rfl) accumulated

theorem fresh_same (first second : IndicatorScriptRunner σ α) (script : σ)
    (sameWidth : first.barWidthSeconds = second.barWidthSeconds) :
    first.fresh methods script = second.fresh methods script := by
  rw [fresh, fresh, sameWidth]

theorem rebuild_keys_fresh (runner : IndicatorScriptRunner σ α) (enabledKeys : List String) (key : String)
    (active : ActiveScript σ α)
    (isActive : (Attempts.forEach (runner.rebuildKey methods) (.empty, runner.errors) enabledKeys).1.1.get? key = some active) :
    key ∈ enabledKeys ∧ ∃ script, runner.registry.create key = .ok script ∧ active = runner.fresh methods script := by
  refine Attempts.for_each_invariant (runner.rebuildKey methods) (fun built => ∀ active, built.1.get? key = some active →
    key ∈ enabledKeys ∧ ∃ script, runner.registry.create key = .ok script ∧ active = runner.fresh methods script)
    enabledKeys _ ?_ ?_ active isActive
  · intro active isActive
    cases isActive
  · intro built enabled listed fresh active isActive
    unfold rebuildKey at isActive
    split at isActive
    · exact fresh active isActive
    · exact fresh active isActive
    · rename_i script created
      rw [Dict.get_set] at isActive
      by_cases same : key = enabled
      · rw [if_pos same, Option.some.injEq] at isActive
        exact ⟨same ▸ listed, script, same ▸ created, isActive.symm⟩
      · rw [if_neg same] at isActive
        exact fresh active isActive

theorem rebuild_keys_enabled (runner : IndicatorScriptRunner σ α) (enabledKeys : List String)
    (returned : (Attempts.forEach (runner.rebuildKey methods) (.empty, runner.errors) enabledKeys).2 = none)
    (key : String) (enabled : key ∈ enabledKeys) :
    (∃ script, runner.registry.create key = .ok script ∧
        (Attempts.forEach (runner.rebuildKey methods) (.empty, runner.errors) enabledKeys).1.1.get? key =
          some (runner.fresh methods script)) ∨
      ∃ text, runner.registry.create key = .error (.keyError text) := by
  refine Attempts.for_each_established (runner.rebuildKey methods) (fun key built =>
    (∃ script, runner.registry.create key = .ok script ∧ built.1.get? key = some (runner.fresh methods script)) ∨
      ∃ text, runner.registry.create key = .error (.keyError text)) ?_ ?_ enabledKeys _ returned key enabled
  · intro built key returned
    unfold rebuildKey at returned ⊢
    split at returned
    · rename_i text unknown
      exact .inr ⟨text, unknown⟩
    · cases returned
    · rename_i script created
      refine .inl ⟨script, created, ?_⟩
      rw [Dict.get_set, if_pos rfl]
  · intro built other key done
    rcases done with ⟨script, created, isActive⟩ | unknown
    · refine .inl ⟨script, created, ?_⟩
      unfold rebuildKey
      split
      · exact isActive
      · exact isActive
      · rename_i later createdLater
        rw [Dict.get_set]
        by_cases same : key = other
        · subst same
          rw [created, Except.ok.injEq] at createdLater
          rw [if_pos rfl, createdLater]
        · rw [if_neg same]
          exact isActive
    · exact .inr unknown

theorem rebuild_returned (runner : IndicatorScriptRunner σ α) (enabledKeys : List String)
    (returned : (runner.rebuild methods enabledKeys).2 = none) :
    (Attempts.forEach (runner.rebuildKey methods) (.empty, runner.errors) enabledKeys).2 = none ∧
      (runner.rebuild methods enabledKeys).1 = { runner with
        active := (Attempts.forEach (runner.rebuildKey methods) (.empty, runner.errors) enabledKeys).1.1
        errors := (Attempts.forEach (runner.rebuildKey methods) (.empty, runner.errors) enabledKeys).1.2 } := by
  unfold rebuild at returned ⊢
  split at returned
  · rename_i built completed
    rw [completed]
    exact ⟨rfl, rfl⟩
  · cases returned

theorem rebuild_synced (runner : IndicatorScriptRunner σ α) (synced : runner.Synced) (enabledKeys : List String) :
    (runner.rebuild methods enabledKeys).1.Synced := by
  unfold rebuild
  split
  · rename_i built completed
    intro key output accumulated payload held
    obtain ⟨active, isActive, isHeld⟩ := Option.bind_eq_some_iff.mp held
    obtain ⟨_, script, _, rfl⟩ := rebuild_keys_fresh methods runner enabledKeys key active (by rw [completed]; exact isActive)
    rw [fresh_holds methods runner script key output accumulated] at isHeld
    cases isHeld
  · exact synced

theorem activated_at (runner : IndicatorScriptRunner σ α) (key : String) (active : ActiveScript σ α) :
    (runner.activate key active).active.get? key = some active := by
  rw [activate, Dict.get_set, if_pos rfl]

theorem activate_flush_synced (runner : IndicatorScriptRunner σ α) (synced : runner.Synced) (key : String)
    (active : ActiveScript σ α) : ((runner.activate key active).flush key active).Synced := by
  refine synced_changed runner _ synced key (fun other different => ?_) fun output _ payload held => ?_
  · dsimp only [scriptAt, activate, flush]
    rw [Dict.get_set, if_neg different, Function.update_of_ne different]
  · have isActive : ((runner.activate key active).flush key active).active.get? key = some active :=
      activated_at runner key active
    rw [holds_active _ key active isActive] at held
    dsimp only [flush]
    rw [Function.update_self]
    exact sent_current _ active _ _ (flushed_sent key active _) output payload held

theorem activate_fresh_synced (runner : IndicatorScriptRunner σ α) (synced : runner.Synced) (key : String) (script : σ) :
    (runner.activate key (runner.fresh methods script)).Synced := by
  refine synced_changed runner _ synced key (fun other different => ?_) fun output accumulated payload held => ?_
  · dsimp only [scriptAt, activate]
    rw [Dict.get_set, if_neg different]
  · rw [holds_active _ key _ (activated_at runner key _), fresh_holds methods runner script key output accumulated] at held
    cases held

theorem flush_members_frame (members : List (String × ActiveScript σ α)) (runner : IndicatorScriptRunner σ α) :
    members.foldl flushMember runner = { runner with emitted := (members.foldl flushMember runner).emitted } := by
  induction members generalizing runner with
  | nil => rfl
  | cons member rest ih => exact ih (flushMember runner member)

theorem flush_members_elsewhere (members : List (String × ActiveScript σ α)) (runner : IndicatorScriptRunner σ α)
    (key : String) (absent : key ∉ members.map Prod.fst) :
    (members.foldl flushMember runner).emitted key = runner.emitted key := by
  induction members generalizing runner with
  | nil => rfl
  | cons member rest ih =>
      obtain ⟨different, later⟩ := List.ne_and_not_mem_of_not_mem_cons absent
      exact (ih (flushMember runner member) later).trans (Function.update_of_ne different ..)

theorem flush_members_at (members : List (String × ActiveScript σ α)) (distinct : (members.map Prod.fst).Nodup)
    (runner : IndicatorScriptRunner σ α) (key : String) (active : ActiveScript σ α) (listed : (key, active) ∈ members) :
    (members.foldl flushMember runner).emitted key = emitAll (runner.emitted key) (active.flushed key) := by
  induction members generalizing runner with
  | nil => cases listed
  | cons member rest ih =>
      obtain ⟨fresh, later⟩ := List.nodup_cons.mp distinct
      rcases List.mem_cons.mp listed with rfl | inRest
      · exact (flush_members_elsewhere rest _ key fresh).trans (Function.update_self ..)
      · have different : key ≠ member.1 := fun same => fresh (same ▸ List.mem_map_of_mem (f := Prod.fst) inRest)
        have kept : (flushMember runner member).emitted key = runner.emitted key := Function.update_of_ne different ..
        rw [List.foldl_cons, ih later _ inRest, kept]

theorem flush_all_sent (runner : IndicatorScriptRunner σ α) (key : String) :
    Sent (holds key) runner (runner.emitted key) (runner.flushAll.emitted key) := by
  intro output
  cases isActive : runner.active.get? key with
  | none =>
      rw [flushAll, flush_members_elsewhere _ _ key ((Dict.get_eq_none_iff runner.active key).mp isActive), holds, isActive]
      rfl
  | some active =>
      have listed := (runner.active.get_eq_some_iff key active).mp isActive
      rw [flushAll, flush_members_at _ runner.active.keys runner key active listed, holds_active runner key active isActive]
      exact flushed_sent key active (runner.emitted key) output

def Matches (first second : IndicatorScriptRunner σ α) : Prop := first = { second with emitted := first.emitted }

theorem matches_holds (first second : IndicatorScriptRunner σ α) (matching : first.Matches second) (key : String) :
    first.holds key = second.holds key := by
  have active : first.active = second.active := by rw [matching]
  funext output
  rw [holds, active, holds]

theorem flush_all_matches (first second : IndicatorScriptRunner σ α) (matching : first.Matches second)
    (emitted : first.flushAll.emitted = second.emitted) : first.flushAll = second := by
  have frame := flush_members_frame first.active.members first
  rw [← flushAll, emitted] at frame
  rw [frame, matching]

variable [PyFloat α]

def replayScript (runner : IndicatorScriptRunner σ α) (key : String) (active : ActiveScript σ α)
    (candles : List (MarketData α)) : IndicatorScriptRunner σ α × Option PyError :=
  match Attempts.forEach (replayCandle methods) active candles with
  | (fed, none) => ((runner.activate key fed).flush key fed, none)
  | (fed, some raised) => (runner.activate key fed, some raised)

-- `None` for `candles` is as good as none of them.
def addScript (runner : IndicatorScriptRunner σ α) (key : String) (candles : List (MarketData α)) :
    IndicatorScriptRunner σ α × Option PyError :=
  match runner.active.get? key with
  | some _ => (runner, none)
  | none =>
      match runner.registry.create key with
      | .error (.keyError _) => ({ runner with errors := runner.errors ++ [unknownScript key] }, none)
      | .error raised => (runner, some raised)
      | .ok script =>
          if candles = [] then (runner.activate key (runner.fresh methods script), none)
          else runner.replayScript methods key (runner.fresh methods script) candles

def feedMember (candle : MarketData α) (runner : IndicatorScriptRunner σ α) (member : String × ActiveScript σ α) :
    IndicatorScriptRunner σ α × Option PyError :=
  let fed := feedScript methods emitting member.1 candle (member.2, runner.emitted member.1)
  ({ runner with
      active := runner.active.set member.1 fed.1.1
      emitted := Function.update runner.emitted member.1 fed.1.2 }, fed.2)

def feed (runner : IndicatorScriptRunner σ α) (candle : MarketData α) : IndicatorScriptRunner σ α × Option PyError :=
  Attempts.forEach (feedMember methods emitting candle) runner runner.active.members

def feedAll (runner : IndicatorScriptRunner σ α) (candles : List (MarketData α)) :
    IndicatorScriptRunner σ α × Option PyError :=
  match Attempts.forEach (feed methods false) runner candles with
  | (fed, none) => (if candles = [] then fed else fed.flushAll, none)
  | (fed, some raised) => (fed, some raised)

def feedEach (runner : IndicatorScriptRunner σ α) (candles : List (MarketData α)) :
    IndicatorScriptRunner σ α × Option PyError :=
  Attempts.forEach (feed methods true) runner candles

theorem feed_member_apart (candle : MarketData α) (runner : IndicatorScriptRunner σ α)
    (member : String × ActiveScript σ α) (other : String) (different : other ≠ member.1) :
    (feedMember methods emitting candle runner member).1.scriptAt other = runner.scriptAt other := by
  dsimp only [scriptAt, feedMember]
  rw [Dict.get_set, if_neg different, Function.update_of_ne different]

theorem feed_absent (runner : IndicatorScriptRunner σ α) (candle : MarketData α) (key : String)
    (absent : runner.active.get? key = none) :
    (runner.feed methods emitting candle).1.scriptAt key = runner.scriptAt key :=
  Attempts.for_each_elsewhere _ Prod.fst scriptAt (feed_member_apart methods emitting candle) _ _ key
    ((Dict.get_eq_none_iff runner.active key).mp absent)

theorem feed_member_raised (candle : MarketData α) (runner : IndicatorScriptRunner σ α)
    (member : String × ActiveScript σ α) :
    (feedMember methods emitting candle runner member).2 = (replayCandle methods member.2 candle).2 :=
  (feed_script_replayed methods emitting member.1 candle (member.2, runner.emitted member.1)).2

theorem feed_active (runner : IndicatorScriptRunner σ α) (candle : MarketData α) (key : String)
    (active : ActiveScript σ α) (isActive : runner.active.get? key = some active) :
    ((runner.feed methods emitting candle).1.scriptAt key = runner.scriptAt key ∧
        (runner.feed methods emitting candle).2 ≠ none ∧
        ∃ other held, other ≠ key ∧ runner.active.get? other = some held ∧ (replayCandle methods held candle).2 ≠ none) ∨
      (runner.feed methods emitting candle).1.scriptAt key =
          (some (feedScript methods emitting key candle (active, runner.emitted key)).1.1,
            (feedScript methods emitting key candle (active, runner.emitted key)).1.2) ∧
        ((runner.feed methods emitting candle).2 = none → (replayCandle methods active candle).2 = none) := by
  have listed := (runner.active.get_eq_some_iff key active).mp isActive
  rcases Attempts.for_each_at _ Prod.fst scriptAt (feed_member_apart methods emitting candle) _ runner.active.keys
    runner (key, active) listed with ⟨same, ended, other, isOther, different, before, raises⟩ | ⟨before, same, after, returned⟩
  · rw [feed_member_raised] at raises
    exact .inl ⟨same, ended, other.1, other.2, different, (runner.active.get_eq_some_iff _ _).mpr isOther, raises⟩
  · have emitted : before.emitted key = runner.emitted key := congrArg Prod.snd same
    refine .inr ⟨after.trans ?_, fun completed => ?_⟩
    · dsimp only [scriptAt, feedMember]
      rw [Dict.get_set, if_pos rfl, Function.update_self, emitted]
    · exact (feed_member_raised methods emitting candle before (key, active)).symm.trans (returned completed)

theorem feed_member_silent (candle : MarketData α) (runner : IndicatorScriptRunner σ α)
    (member : String × ActiveScript σ α) : (feedMember methods false candle runner member).1.emitted = runner.emitted := by
  dsimp only [feedMember]
  rw [feed_script_silent, Function.update_eq_self]

theorem feed_silent (runner : IndicatorScriptRunner σ α) (candles : List (MarketData α)) :
    (Attempts.forEach (feed methods false) runner candles).1.emitted = runner.emitted := by
  refine Attempts.for_each_invariant _ (fun after => after.emitted = runner.emitted) candles runner rfl ?_
  intro after candle _ silent
  refine Attempts.for_each_invariant _ (fun later => later.emitted = runner.emitted) _ after silent ?_
  intro later member _ silentLater
  exact (feed_member_silent methods candle later member).trans silentLater

theorem feed_members_match (candle : MarketData α) (first second : IndicatorScriptRunner σ α)
    (matching : first.Matches second) (member : String × ActiveScript σ α) :
    (feedMember methods false candle first member).1.Matches (feedMember methods true candle second member).1 ∧
      (feedMember methods false candle first member).2 = (feedMember methods true candle second member).2 := by
  obtain ⟨active, raised⟩ := feed_script_replayed methods false member.1 candle (member.2, first.emitted member.1)
  obtain ⟨activeLoud, raisedLoud⟩ := feed_script_replayed methods true member.1 candle (member.2, second.emitted member.1)
  rw [Matches] at matching
  constructor
  · dsimp only [Matches, feedMember]
    rw [matching, active, activeLoud]
  · exact raised.trans raisedLoud.symm

theorem feed_matches (candles : List (MarketData α)) (runner : IndicatorScriptRunner σ α) :
    (Attempts.forEach (feed methods false) runner candles).1.Matches (runner.feedEach methods candles).1 ∧
      (Attempts.forEach (feed methods false) runner candles).2 = (runner.feedEach methods candles).2 := by
  refine Attempts.for_each_related _ _ Matches (fun first second candle matching => ?_) candles runner runner rfl
  have members : first.active.members = second.active.members := by rw [matching]
  rw [feed, feed, members]
  exact Attempts.for_each_related _ _ Matches
    (fun first second member matching => feed_members_match methods candle first second matching member) _ first second matching

theorem feed_refreshed (runner : IndicatorScriptRunner σ α) (candle : MarketData α) (key : String) :
    Refreshed (holds key) (runner, runner.emitted key)
      ((runner.feed methods true candle).1, (runner.feed methods true candle).1.emitted key) := by
  have unchanged (after : IndicatorScriptRunner σ α) (same : after.scriptAt key = runner.scriptAt key) :
      Refreshed (holds key) (runner, runner.emitted key) (after, after.emitted key) := by
    obtain ⟨sameActive, sameShown⟩ := Prod.mk.inj same
    rw [sameShown]
    refine refreshed_unchanged (holds key) runner after _ fun output => ?_
    rw [holds, sameActive, holds]
  cases isActive : runner.active.get? key with
  | none => exact unchanged _ (feed_absent methods true runner candle key isActive)
  | some active =>
      rcases feed_active methods true runner candle key active isActive with ⟨same, _⟩ | ⟨fed, _⟩
      · exact unchanged _ same
      · obtain ⟨nowActive, nowShown⟩ := Prod.mk.inj fed
        intro output
        rw [nowShown, holds_active _ key _ nowActive, holds_active _ key _ isActive]
        exact feed_script_refreshed methods key candle (active, runner.emitted key) output

theorem feed_current (runner : IndicatorScriptRunner σ α) (candle : MarketData α)
    (returned : (runner.feed methods true candle).2 = none) (key : String) (output : ScriptOutput)
    (snapshot : output = .region ∨ output = .info) :
    Current (holds key) (runner.feed methods true candle).1 ((runner.feed methods true candle).1.emitted key) output := by
  intro payload held
  cases isActive : runner.active.get? key with
  | none =>
      rw [holds, (Prod.mk.inj (feed_absent methods true runner candle key isActive)).1, isActive] at held
      cases held
  | some active =>
      rcases feed_active methods true runner candle key active isActive with ⟨_, raised, _⟩ | ⟨fed, completed⟩
      · exact absurd returned raised
      · obtain ⟨nowActive, nowShown⟩ := Prod.mk.inj fed
        rw [holds_active _ key _ nowActive] at held
        rw [nowShown]
        have returnedScript := (feed_script_replayed methods true key candle (active, runner.emitted key)).2.trans
          (completed returned)
        exact feed_script_current methods key candle (active, runner.emitted key) output snapshot returnedScript payload held

theorem feed_each_refreshed (runner : IndicatorScriptRunner σ α) (candles : List (MarketData α)) (key : String) :
    Refreshed (holds key) (runner, runner.emitted key)
      ((runner.feedEach methods candles).1, (runner.feedEach methods candles).1.emitted key) := by
  refine Attempts.for_each_invariant _
    (fun after => Refreshed (holds key) (runner, runner.emitted key) (after, after.emitted key)) candles runner ?_ ?_
  · exact refreshed_unchanged (holds key) runner runner _ fun _ => rfl
  · intro after candle _ refreshed
    exact refreshed_trans (holds key) _ (after, after.emitted key) _ refreshed (feed_refreshed methods after candle key)

theorem feed_each_current (runner : IndicatorScriptRunner σ α) (candle : MarketData α) (rest : List (MarketData α))
    (synced : runner.Synced) (returned : (runner.feedEach methods (candle :: rest)).2 = none) (key : String)
    (output : ScriptOutput) :
    Current (holds key) (runner.feedEach methods (candle :: rest)).1
      ((runner.feedEach methods (candle :: rest)).1.emitted key) output := by
  have first := Attempts.for_each_cons_returned _ runner candle rest returned
  have ahead : runner.feedEach methods (candle :: rest) = (runner.feed methods true candle).1.feedEach methods rest :=
    Attempts.for_each_cons_ok _ runner candle rest first
  by_cases snapshot : output = .region ∨ output = .info
  · rw [ahead]
    exact refreshed_current (holds key) _ _ output (feed_each_refreshed methods _ rest key)
      (feed_current methods runner candle first key output snapshot)
  · exact refreshed_current (holds key) (runner, runner.emitted key) _ output
      (feed_each_refreshed methods runner (candle :: rest) key) (synced key output snapshot)

theorem feed_each_sent (runner : IndicatorScriptRunner σ α) (candle : MarketData α) (rest : List (MarketData α))
    (synced : runner.Synced) (returned : (runner.feedEach methods (candle :: rest)).2 = none) (key : String) :
    Sent (holds key) (runner.feedEach methods (candle :: rest)).1 (runner.emitted key)
      ((runner.feedEach methods (candle :: rest)).1.emitted key) :=
  refreshed_sent (holds key) (runner, runner.emitted key) _ (feed_each_refreshed methods runner (candle :: rest) key)
    (feed_each_current methods runner candle rest synced returned key)

theorem feed_all_returned (runner : IndicatorScriptRunner σ α) (candle : MarketData α) (rest : List (MarketData α))
    (returned : (Attempts.forEach (feed methods false) runner (candle :: rest)).2 = none) :
    runner.feedAll methods (candle :: rest) = ((Attempts.forEach (feed methods false) runner (candle :: rest)).1.flushAll, none) := by
  unfold feedAll
  split
  · rename_i fed completed
    rw [if_neg (List.cons_ne_nil _ _), completed]
  · rename_i fed raised completed
    rw [completed] at returned
    cases returned

theorem feed_all_raised (runner : IndicatorScriptRunner σ α) (candles : List (MarketData α)) (raised : PyError)
    (raises : (Attempts.forEach (feed methods false) runner candles).2 = some raised) :
    runner.feedAll methods candles = Attempts.forEach (feed methods false) runner candles := by
  unfold feedAll
  split
  · rename_i fed completed
    rw [completed] at raises
    cases raises
  · rename_i fed error completed
    exact completed.symm

theorem feed_all_sent (runner : IndicatorScriptRunner σ α) (candle : MarketData α) (rest : List (MarketData α))
    (returned : (Attempts.forEach (feed methods false) runner (candle :: rest)).2 = none) (key : String) :
    Sent (holds key) (Attempts.forEach (feed methods false) runner (candle :: rest)).1 (runner.emitted key)
      ((runner.feedAll methods (candle :: rest)).1.emitted key) := by
  rw [feed_all_returned methods runner candle rest returned, ← feed_silent methods runner (candle :: rest)]
  exact flush_all_sent _ key

theorem feed_all_each (runner : IndicatorScriptRunner σ α) (synced : runner.Synced) (candles : List (MarketData α))
    (returned : (Attempts.forEach (feed methods false) runner candles).2 = none) :
    runner.feedAll methods candles = runner.feedEach methods candles := by
  cases candles with
  | nil => rfl
  | cons candle rest =>
      obtain ⟨matching, same⟩ := feed_matches methods (candle :: rest) runner
      have returnedEach := same.symm.trans returned
      have emitted : (runner.feedAll methods (candle :: rest)).1.emitted =
          (runner.feedEach methods (candle :: rest)).1.emitted := by
        funext key output
        rw [feed_all_sent methods runner candle rest returned key output, matches_holds _ _ matching key,
          feed_each_sent methods runner candle rest synced returnedEach key output]
      rw [feed_all_returned methods runner candle rest returned] at emitted ⊢
      exact Prod.ext (flush_all_matches _ _ matching emitted) returnedEach.symm

theorem feed_all_synced (runner : IndicatorScriptRunner σ α) (synced : runner.Synced) (candles : List (MarketData α))
    (returned : (runner.feedAll methods candles).2 = none) : (runner.feedAll methods candles).1.Synced := by
  cases candles with
  | nil => exact synced
  | cons candle rest =>
      cases raises : (Attempts.forEach (feed methods false) runner (candle :: rest)).2 with
      | some raised =>
          rw [feed_all_raised methods runner (candle :: rest) raised raises, raises] at returned
          cases returned
      | none =>
          intro key output _
          have sent := feed_all_sent methods runner candle rest raises key
          rw [feed_all_returned methods runner candle rest raises] at sent ⊢
          dsimp only at sent ⊢
          have current := sent_current (holds key) _ _ _ sent output
          rw [flushAll, flush_members_frame, ← flushAll]
          exact current

theorem feed_synced (runner : IndicatorScriptRunner σ α) (synced : runner.Synced) (candle : MarketData α) :
    (runner.feed methods true candle).1.Synced := fun key output accumulated =>
  refreshed_current (holds key) (runner, runner.emitted key) _ output (feed_refreshed methods runner candle key)
    (synced key output accumulated)

theorem add_script_new (runner : IndicatorScriptRunner σ α) (key : String) (script : σ) (candles : List (MarketData α))
    (inactive : runner.active.get? key = none) (built : runner.registry.create key = .ok script) :
    runner.addScript methods key candles =
      if candles = [] then (runner.activate key (runner.fresh methods script), none)
      else runner.replayScript methods key (runner.fresh methods script) candles := by
  rw [addScript, inactive]
  dsimp only
  rw [built]

theorem replay_script_returned (runner : IndicatorScriptRunner σ α) (key : String) (active : ActiveScript σ α)
    (candles : List (MarketData α)) (returned : (Attempts.forEach (replayCandle methods) active candles).2 = none) :
    runner.replayScript methods key active candles =
      ((runner.activate key (Attempts.forEach (replayCandle methods) active candles).1).flush key
        (Attempts.forEach (replayCandle methods) active candles).1, none) := by
  unfold replayScript
  split
  · rename_i fed completed
    rw [completed]
  · rename_i fed raised completed
    rw [completed] at returned
    cases returned

theorem replay_script_raised (runner : IndicatorScriptRunner σ α) (key : String) (active : ActiveScript σ α)
    (candles : List (MarketData α)) (raised : PyError)
    (raises : (Attempts.forEach (replayCandle methods) active candles).2 = some raised) :
    runner.replayScript methods key active candles =
      (runner.activate key (Attempts.forEach (replayCandle methods) active candles).1, some raised) := by
  unfold replayScript
  split
  · rename_i fed completed
    rw [completed] at raises
    cases raises
  · rename_i fed error completed
    rw [completed] at raises ⊢
    exact congrArg _ raises

theorem add_script_synced (runner : IndicatorScriptRunner σ α) (synced : runner.Synced) (key : String)
    (candles : List (MarketData α)) (returned : (runner.addScript methods key candles).2 = none) :
    (runner.addScript methods key candles).1.Synced := by
  unfold addScript at returned ⊢
  split at returned
  · exact synced
  · split at returned
    · exact synced
    · cases returned
    · rename_i script _
      split_ifs at returned ⊢ with none
      · exact activate_fresh_synced methods runner synced key script
      · unfold replayScript at returned ⊢
        split at returned
        · exact activate_flush_synced runner synced key _
        · cases returned

inductive Call (α : Type)
  | rebuild (enabledKeys : List String)
  | addScript (key : String) (candles : List (MarketData α))
  | removeScript (key : String)
  | feed (candle : MarketData α)
  | feedAll (candles : List (MarketData α))

def returned {β : Type} : β × Option PyError → Option β
  | (after, none) => some after
  | (_, some _) => none

-- After a bulk replay that a script ended with an exception a runner holds
-- what it never sent.
def call (runner : IndicatorScriptRunner σ α) : Call α → Option (IndicatorScriptRunner σ α)
  | .rebuild enabledKeys => some (runner.rebuild methods enabledKeys).1
  | .addScript key candles => returned (runner.addScript methods key candles)
  | .removeScript key => some (runner.removeScript key)
  | .feed candle => some (runner.feed methods true candle).1
  | .feedAll candles => returned (runner.feedAll methods candles)

theorem returned_some {β : Type} (result : β × Option PyError) (after : β) (ended : returned result = some after) :
    result.2 = none ∧ result.1 = after := by
  obtain ⟨state, raised⟩ := result
  cases raised with
  | none => exact ⟨rfl, Option.some.inj ended⟩
  | some raised => cases ended

theorem call_synced (runner : IndicatorScriptRunner σ α) (made : Call α) (next : IndicatorScriptRunner σ α)
    (synced : runner.Synced) (called : runner.call methods made = some next) : next.Synced := by
  cases made with
  | rebuild enabledKeys =>
      cases called
      exact rebuild_synced methods runner synced enabledKeys
  | addScript key candles =>
      obtain ⟨ended, rfl⟩ := returned_some _ next called
      exact add_script_synced methods runner synced key candles ended
  | removeScript key =>
      cases called
      exact remove_synced runner synced key
  | feed candle =>
      cases called
      exact feed_synced methods runner synced candle
  | feedAll candles =>
      obtain ⟨ended, rfl⟩ := returned_some _ next called
      exact feed_all_synced methods runner synced candles ended

theorem created_synced (registry : IndicatorScriptRegistry σ) (barWidthSeconds : α) :
    (created registry barWidthSeconds).Synced := by
  intro key output _ payload held
  cases held

theorem reached_synced (registry : IndicatorScriptRegistry σ) (barWidthSeconds : α) (calls : List (Call α))
    (runner : IndicatorScriptRunner σ α)
    (reached : Interleaving.run (call methods) (created registry barWidthSeconds) calls = some runner) : runner.Synced :=
  Interleaving.run_invariant (call methods) Synced (call_synced methods) calls _ runner
    (created_synced registry barWidthSeconds) reached

theorem feed_alone (runner : IndicatorScriptRunner σ α) (candle : MarketData α) (key : String)
    (active : ActiveScript σ α) (isActive : runner.active.get? key = some active)
    (others : ∀ other held, other ≠ key → runner.active.get? other = some held →
      (replayCandle methods held candle).2 = none) :
    (runner.feed methods false candle).1.active.get? key = some (replayCandle methods active candle).1 ∧
      (runner.feed methods false candle).2 = (replayCandle methods active candle).2 := by
  rcases feed_active methods false runner candle key active isActive with
    ⟨_, _, other, held, different, isHeld, raises⟩ | ⟨fed, completed⟩
  · exact absurd (others other held different isHeld) raises
  · have replayed := (feed_script_replayed methods false key candle (active, runner.emitted key)).1
    refine ⟨(Prod.mk.inj fed).1.trans (congrArg some replayed), ?_⟩
    cases ended : (runner.feed methods false candle).2 with
    | none => exact (completed ended).symm
    | some raised =>
        obtain ⟨member, listed, before, raises⟩ := Attempts.for_each_raised _ _ runner raised ended
        rw [feed_member_raised] at raises
        have isMember := (runner.active.get_eq_some_iff member.1 member.2).mpr listed
        by_cases same : member.1 = key
        · rw [same, isActive, Option.some.injEq] at isMember
          rw [isMember, raises]
        · rw [others member.1 member.2 same isMember] at raises
          cases raises

theorem silent_alone (runner : IndicatorScriptRunner σ α) (candles : List (MarketData α)) (key : String)
    (active : ActiveScript σ α) (isActive : runner.active.get? key = some active)
    (others : ∀ other held, other ≠ key → runner.active.get? other = some held →
      (Attempts.forEach (replayCandle methods) held candles).2 = none) :
    (Attempts.forEach (feed methods false) runner candles).1.active.get? key =
        some (Attempts.forEach (replayCandle methods) active candles).1 ∧
      (Attempts.forEach (feed methods false) runner candles).2 =
        (Attempts.forEach (replayCandle methods) active candles).2 := by
  induction candles generalizing runner active with
  | nil => exact ⟨isActive, rfl⟩
  | cons candle rest ih =>
      have othersNow (other : String) (held : ActiveScript σ α) (different : other ≠ key)
          (isHeld : runner.active.get? other = some held) : (replayCandle methods held candle).2 = none :=
        Attempts.for_each_cons_returned _ held candle rest (others other held different isHeld)
      obtain ⟨nowActive, ended⟩ := feed_alone methods runner candle key active isActive othersNow
      cases raises : (replayCandle methods active candle).2 with
      | some raised =>
          obtain ⟨lastScript, stopsScript⟩ := Attempts.for_each_cons_stopped (replayCandle methods) active candle rest raised raises
          obtain ⟨last, stops⟩ := Attempts.for_each_cons_stopped (feed methods false) runner candle rest raised (ended.trans raises)
          rw [lastScript, stopsScript, last, stops]
          exact ⟨nowActive, rfl⟩
      | none =>
          rw [Attempts.for_each_cons_ok _ active candle rest raises,
            Attempts.for_each_cons_ok _ runner candle rest (ended.trans raises)]
          refine ih _ _ nowActive fun other later different isLater => ?_
          cases wasHeld : runner.active.get? other with
          | none =>
              rw [(Prod.mk.inj (feed_absent methods false runner candle other wasHeld)).1, wasHeld] at isLater
              cases isLater
          | some held =>
              have returned := others other held different wasHeld
              rw [Attempts.for_each_cons_ok _ held candle rest (othersNow other held different wasHeld)] at returned
              rcases feed_active methods false runner candle other held wasHeld with ⟨_, raised, _⟩ | ⟨fed, _⟩
              · exact absurd (ended.trans raises) raised
              · have replayed := (feed_script_replayed methods false other candle (held, runner.emitted other)).1
                rw [(Prod.mk.inj fed).1, Option.some.injEq, replayed] at isLater
                exact isLater ▸ returned

-- Two runners end with the same accumulated for a script, and each of its
-- outputs was sent the same last, or nothing in both.
def SameScript (key : String) (before after otherBefore otherAfter : IndicatorScriptRunner σ α) : Prop :=
  after.active.get? key = otherAfter.active.get? key ∧
    ∃ sent : ScriptShown α, ∀ output,
      after.emitted key output = (sent output).or (before.emitted key output) ∧
        otherAfter.emitted key output = (sent output).or (otherBefore.emitted key output)

theorem add_script_rebuilt (runner other : IndicatorScriptRunner σ α) (sameRegistry : other.registry = runner.registry)
    (sameWidth : other.barWidthSeconds = runner.barWidthSeconds) (key : String) (script : σ)
    (inactive : runner.active.get? key = none) (built : runner.registry.create key = .ok script)
    (enabledKeys : List String) (isEnabled : key ∈ enabledKeys) (rebuilt : (other.rebuild methods enabledKeys).2 = none)
    (candles : List (MarketData α))
    (othersReturn : ∀ enabled ∈ enabledKeys, enabled ≠ key → ∀ script, runner.registry.create enabled = .ok script →
      (Attempts.forEach (replayCandle methods) (runner.fresh methods script) candles).2 = none) :
    (runner.addScript methods key candles).2 = ((other.rebuild methods enabledKeys).1.feedAll methods candles).2 ∧
      SameScript key runner (runner.addScript methods key candles).1 other
        ((other.rebuild methods enabledKeys).1.feedAll methods candles).1 := by
  obtain ⟨completed, isRebuilt⟩ := rebuild_returned methods other enabledKeys rebuilt
  have emitted : (other.rebuild methods enabledKeys).1.emitted = other.emitted := by rw [isRebuilt]
  have isActive : (other.rebuild methods enabledKeys).1.active.get? key = some (runner.fresh methods script) := by
    rw [isRebuilt, ← fresh_same methods other runner script sameWidth]
    rcases rebuild_keys_enabled methods other enabledKeys completed key isEnabled with ⟨made, isMade, held⟩ | ⟨text, unknown⟩
    · rw [sameRegistry, built, Except.ok.injEq] at isMade
      exact isMade ▸ held
    · rw [sameRegistry, built] at unknown
      cases unknown
  have others (enabled : String) (held : ActiveScript σ α) (different : enabled ≠ key)
      (isHeld : (other.rebuild methods enabledKeys).1.active.get? enabled = some held) :
      (Attempts.forEach (replayCandle methods) held candles).2 = none := by
    rw [isRebuilt] at isHeld
    obtain ⟨listed, made, isMade, rfl⟩ := rebuild_keys_fresh methods other enabledKeys enabled held isHeld
    rw [fresh_same methods other runner made sameWidth]
    exact othersReturn enabled listed different made (sameRegistry ▸ isMade)
  rw [add_script_new methods runner key script candles inactive built]
  cases candles with
  | nil =>
      rw [if_pos rfl]
      refine ⟨rfl, (activated_at runner key _).trans isActive.symm, fun _ => none, fun output => ⟨rfl, ?_⟩⟩
      exact congrFun (congrFun emitted key) output
  | cons candle rest =>
      rw [if_neg (List.cons_ne_nil candle rest)]
      obtain ⟨accumulated, ended⟩ := silent_alone methods _ (candle :: rest) key _ isActive others
      cases raises : (Attempts.forEach (replayCandle methods) (runner.fresh methods script) (candle :: rest)).2 with
      | some raised =>
          rw [replay_script_raised methods runner key _ _ raised raises,
            feed_all_raised methods _ _ raised (ended.trans raises)]
          refine ⟨(ended.trans raises).symm, (activated_at runner key _).trans accumulated.symm, fun _ => none, fun output => ?_⟩
          rw [feed_silent, emitted]
          exact ⟨rfl, rfl⟩
      | none =>
          have sent := feed_all_sent methods _ candle rest (ended.trans raises) key
          rw [emitted] at sent
          rw [replay_script_returned methods runner key _ _ raises]
          refine ⟨?_, ?_, (Attempts.forEach (replayCandle methods) (runner.fresh methods script) (candle :: rest)).1.holds key,
            fun output => ⟨?_, ?_⟩⟩
          · rw [feed_all_returned methods _ candle rest (ended.trans raises)]
          · rw [feed_all_returned methods _ candle rest (ended.trans raises), flushAll, flush_members_frame]
            exact (activated_at runner key _).trans accumulated.symm
          · dsimp only [flush]
            rw [Function.update_self]
            exact flushed_sent key _ _ output
          · rw [← holds_active _ key _ accumulated]
            exact sent output

def countdownCompute : ℕ → MarketData ℚ → ℕ × Except PyError (ScriptBar ℚ)
  | 0, _ => (0, .error (.valueError "no bars left"))
  | left + 1, candle =>
      (left, .ok (if 0 < candle.closePrice then
        { lines := .ofMembers [("close", ⟨candle.closePrice, "#ffffff"⟩)]
          region := some ⟨"#00ff00", 3 / 20⟩
          info := [{ label := "Trend", value := "UP" }]
          markers := [{ value := candle.closePrice, text := "Buy", color := "#00ff00" }] }
      else { lines := .empty, region := none, info := [], markers := [] }))

def countdownScript : BaseIndicatorScript ℕ ℚ := ⟨fun _ => true, countdownCompute⟩

def countdownRegistry : IndicatorScriptRegistry ℕ := ⟨.ofMembers [("short", .ok 1), ("long", .ok 9), ("longer", .ok 12)]⟩

def countdownRunner : IndicatorScriptRunner ℕ ℚ := created countdownRegistry

def countdownBar (minute : ℤ) (closePrice : ℚ) : MarketData ℚ where
  symbol := "BTCUSDT"
  interval := "1m"
  openTime := (minute - 1) * 60000000
  openPrice := closePrice
  highPrice := closePrice
  lowPrice := closePrice
  closePrice := closePrice
  volume := 1
  closeTime := minute * 60000000
  quoteAssetVolume := 1
  numberOfTrades := 1
  takerBuyBaseAssetVolume := 1
  takerBuyQuoteAssetVolume := 1

def countdownBars : List (MarketData ℚ) := [countdownBar 1 5, countdownBar 2 0, countdownBar 3 7]

theorem bulk_feeding_agrees (registry : IndicatorScriptRegistry σ) (barWidthSeconds : α) (calls : List (Call α))
    (runner : IndicatorScriptRunner σ α)
    (reached : Interleaving.run (call methods) (created registry barWidthSeconds) calls = some runner)
    (candles : List (MarketData α)) :
    ((runner.feedAll methods candles).2 = (runner.feedEach methods candles).2 ∧
      (runner.feedAll methods candles).1.active = (runner.feedEach methods candles).1.active ∧
      (runner.feedAll methods candles).1.emitted =
        if (runner.feedAll methods candles).2 = none then (runner.feedEach methods candles).1.emitted else runner.emitted) ∧
    ∀ (other : IndicatorScriptRunner σ α) (key : String) (script : σ) (enabledKeys : List String),
      other.registry = runner.registry → other.barWidthSeconds = runner.barWidthSeconds →
      runner.active.get? key = none → runner.registry.create key = .ok script →
      key ∈ enabledKeys → (other.rebuild methods enabledKeys).2 = none →
      (∀ enabled ∈ enabledKeys, enabled ≠ key → ∀ script, runner.registry.create enabled = .ok script →
        (Attempts.forEach (replayCandle methods) (runner.fresh methods script) candles).2 = none) →
      (runner.addScript methods key candles).2 = ((other.rebuild methods enabledKeys).1.feedAll methods candles).2 ∧
        SameScript key runner (runner.addScript methods key candles).1 other
          ((other.rebuild methods enabledKeys).1.feedAll methods candles).1 := by
  constructor
  · cases ended : (Attempts.forEach (feed methods false) runner candles).2 with
    | none =>
        have synced := reached_synced methods registry barWidthSeconds calls runner reached
        have same := feed_all_each methods runner synced candles ended
        have returned := (feed_matches methods candles runner).2.symm.trans ended
        rw [same, if_pos returned]
        exact ⟨rfl, rfl, rfl⟩
    | some raised =>
        obtain ⟨matching, sameEnd⟩ := feed_matches methods candles runner
        rw [feed_all_raised methods runner candles raised ended, if_neg (by rw [ended]; exact Option.some_ne_none raised)]
        refine ⟨sameEnd, ?_, feed_silent methods runner candles⟩
        rw [matching]
  · intro other key script enabledKeys sameRegistry sameWidth inactive built isEnabled rebuilt othersReturn
    exact add_script_rebuilt methods runner other sameRegistry sameWidth key script inactive built enabledKeys isEnabled
      rebuilt candles othersReturn

def countdownFed : IndicatorScriptRunner ℕ ℚ :=
  ((countdownRunner.rebuild countdownScript ["long"]).1.feed countdownScript true (countdownBar 0 4)).1

theorem countdown_bulk_agrees :
    (countdownFed.feedAll countdownScript countdownBars).1.active =
        (countdownFed.feedEach countdownScript countdownBars).1.active ∧
      (countdownFed.feedAll countdownScript countdownBars).1.emitted =
        (countdownFed.feedEach countdownScript countdownBars).1.emitted ∧
      SameScript "longer" countdownFed (countdownFed.addScript countdownScript "longer" countdownBars).1 countdownRunner
        ((countdownRunner.rebuild countdownScript ["longer", "long"]).1.feedAll countdownScript countdownBars).1 := by
  obtain ⟨⟨_, active, emitted⟩, added⟩ := bulk_feeding_agrees countdownScript countdownRegistry (PyFloat.literal 60)
    [.rebuild ["long"], .feed (countdownBar 0 4)] countdownFed rfl countdownBars
  rw [if_pos (by decide +kernel)] at emitted
  refine ⟨active, emitted, ?_⟩
  refine (added countdownRunner "longer" 12 ["longer", "long"] rfl rfl ?_ rfl (by decide) (by decide +kernel) ?_).2
  · exact Option.isNone_iff_eq_none.mp (by decide +kernel)
  · intro enabled listed different script made
    have isLong : enabled = "long" := by simpa [different] using listed
    subst isLong
    cases made
    decide +kernel

-- A script that is active already is not fed, one whose bar another script's
-- exception cuts off misses it, and a bulk replay that raises sends nothing,
-- then or until the next one.
theorem feeding_disagrees :
    (¬SameScript "long" (countdownRunner.rebuild countdownScript ["long"]).1
      ((countdownRunner.rebuild countdownScript ["long"]).1.addScript countdownScript "long" countdownBars).1
      countdownRunner
      ((countdownRunner.rebuild countdownScript ["long"]).1.feedAll countdownScript countdownBars).1) ∧
    (¬SameScript "long" countdownRunner (countdownRunner.addScript countdownScript "long" countdownBars).1 countdownRunner
      ((countdownRunner.rebuild countdownScript ["short", "long"]).1.feedAll countdownScript countdownBars).1) ∧
    ((countdownRunner.rebuild countdownScript ["short"]).1.feedAll countdownScript countdownBars).1.emitted ≠
      ((countdownRunner.rebuild countdownScript ["short"]).1.feedEach countdownScript countdownBars).1.emitted ∧
    (((countdownRunner.rebuild countdownScript ["long", "short"]).1.feedAll countdownScript
        countdownBars).1.removeScript "short" |>.feedAll countdownScript [countdownBar 4 0]).1.emitted ≠
      (((countdownRunner.rebuild countdownScript ["long", "short"]).1.feedAll countdownScript
        countdownBars).1.removeScript "short" |>.feedEach countdownScript [countdownBar 4 0]).1.emitted := by
  have series (first second : IndicatorScriptRunner ℕ ℚ) (same : first.active.get? "long" = second.active.get? "long") :
      ((first.active.get? "long").bind fun active => active.series.get? "close") =
        (second.active.get? "long").bind fun active => active.series.get? "close" := by rw [same]
  refine ⟨fun same => ?_, fun same => ?_, fun same => ?_, fun same => ?_⟩
  · exact absurd (series _ _ same.1) (by decide +kernel)
  · exact absurd (series _ _ same.1) (by decide +kernel)
  · exact absurd (congrFun (congrFun same "short") (.line "close")) (by decide +kernel)
  · exact absurd (congrFun (congrFun same "long") (.line "close")) (by decide +kernel)

end IndicatorScriptRunner

end Sagittarius
