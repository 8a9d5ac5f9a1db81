import Sagittarius.Domain.MarketData
import Sagittarius.Library.Dicts
import Sagittarius.Library.Outputs

set_option autoImplicit false

namespace Sagittarius

open Dicts Outputs

structure PlottedLine (α : Type) where
  value : α
  color : String
deriving DecidableEq

structure PlottedMarker (α : Type) where
  value : α
  text : String
  color : String
  direction : String := "up"
deriving DecidableEq

structure PlottedRegion (α : Type) where
  color : String
  opacity : α
deriving DecidableEq

structure InfoField where
  label : String
  value : String
  color : Option String := none
deriving DecidableEq

structure ScriptBar (α : Type) where
  lines : Dict String (PlottedLine α)
  region : Option (PlottedRegion α)
  info : List InfoField
  markers : List (PlottedMarker α)

-- The methods of script instances of type `σ`. A `compute` that raises leaves
-- the instance changed as well.
structure BaseIndicatorScript (σ α : Type) where
  overlay : σ → Bool
  compute : σ → MarketData α → σ × Except PyError (ScriptBar α)

structure RegionSpan (α : Type) where
  start : α
  stop : α
  color : String
  opacity : α
deriving DecidableEq

structure ScriptRegionTracker (α : Type) where
  barWidth : α
  spans : List (RegionSpan α) := []
  openKey : Option (String × α) := none
deriving DecidableEq

structure MarkerPoint (α : Type) where
  x : α
  y : α
  text : String
  color : String
  direction : String
deriving DecidableEq

variable {σ α : Type}

namespace ScriptRegionTracker

variable [PyFloat α]

def Extends (tracker : ScriptRegionTracker α) (region : PlottedRegion α) : Prop :=
  ∃ held ∈ tracker.openKey, held.1 = region.color ∧ PyFloat.Equal held.2 region.opacity

instance (tracker : ScriptRegionTracker α) (region : PlottedRegion α) : Decidable (tracker.Extends region) :=
  inferInstanceAs (Decidable (∃ held ∈ tracker.openKey, _))

def record (tracker : ScriptRegionTracker α) (timestamp : α) : Option (PlottedRegion α) → ScriptRegionTracker α
  | none => { tracker with openKey := none }
  | some region =>
      let stop := timestamp + tracker.barWidth
      match if tracker.Extends region then tracker.spans.getLast? else none with
      | some last => { tracker with spans := tracker.spans.dropLast ++ [{ last with stop := stop }] }
      | none =>
          { tracker with
            spans := tracker.spans ++ [⟨timestamp, stop, region.color, region.opacity⟩]
            openKey := some (region.color, region.opacity) }

end ScriptRegionTracker

structure ActiveScript (σ α : Type) where
  script : σ
  overlay : Bool
  regionTracker : ScriptRegionTracker α
  series : Dict String (List α × List α) := .empty
  latestInfo : List InfoField := []
  markers : List (MarkerPoint α) := []

def qualifiedLineName (scriptKey lineName : String) : String := scriptKey ++ ":" ++ lineName

def splitLineName (qualified : String) : Option (String × String) :=
  match qualified.toList.dropWhile (· ≠ ':') with
  | [] => none
  | _ :: line => some (String.ofList (qualified.toList.takeWhile (· ≠ ':')), String.ofList line)

theorem split_qualified (scriptKey lineName : String) (plain : ':' ∉ scriptKey.toList) :
    splitLineName (qualifiedLineName scriptKey lineName) = some (scriptKey, lineName) := by
  have passes : ∀ c ∈ scriptKey.toList, decide (c ≠ ':') = true :=
    fun c inside => decide_eq_true fun isSeparator => plain (isSeparator ▸ inside)
  have text : (qualifiedLineName scriptKey lineName).toList = scriptKey.toList ++ ':' :: lineName.toList := by
    simp [qualifiedLineName]
  rw [splitLineName, text, List.takeWhile_append_of_pos passes, List.dropWhile_append_of_pos passes]
  simp

theorem qualified_line_inj (scriptKey otherKey lineName otherName : String) (plain : ':' ∉ scriptKey.toList)
    (otherPlain : ':' ∉ otherKey.toList) (same : qualifiedLineName scriptKey lineName = qualifiedLineName otherKey otherName) :
    scriptKey = otherKey ∧ lineName = otherName := by
  have split := split_qualified scriptKey lineName plain
  rw [same, split_qualified otherKey otherName otherPlain, Option.some.injEq, Prod.mk.injEq] at split
  exact ⟨split.1.symm, split.2.symm⟩

inductive ScriptOutput
  | line (name : String)
  | region
  | info
  | markers
deriving DecidableEq

inductive ScriptPayload (α : Type)
  | line (qualified : String) (xData yData : List α)
  | region (key : String) (spans : List (RegionSpan α))
  | info (key : String) (fields : List InfoField)
  | markers (key : String) (points : List (MarkerPoint α))
deriving DecidableEq

abbrev ScriptShown (α : Type) := Shown ScriptOutput (ScriptPayload α)

def markerPoint (timestamp : α) (marker : PlottedMarker α) : MarkerPoint α :=
  ⟨timestamp, marker.value, marker.text, marker.color, marker.direction⟩

abbrev FedScript (σ α : Type) := ActiveScript σ α × ScriptShown α

def report (emitting : Bool) (shown : ScriptShown α) (output : ScriptOutput) (payload : ScriptPayload α) : ScriptShown α :=
  if emitting then emit shown output payload else shown

namespace ActiveScript

def record (active : ActiveScript σ α) (lineName : String) (timestamp value : α) : ActiveScript σ α × List α × List α :=
  let data := (active.series.get? lineName).getD ([], [])
  let grown := (data.1 ++ [timestamp], data.2 ++ [value])
  ({ active with series := active.series.set lineName grown }, grown)

def recordMarkers (active : ActiveScript σ α) (timestamp : α) (new : List (PlottedMarker α)) : ActiveScript σ α :=
  { active with markers := active.markers ++ new.map (markerPoint timestamp) }

def holds (key : String) (active : ActiveScript σ α) : ScriptOutput → Option (ScriptPayload α)
  | .line name => (active.series.get? name).map fun data => .line (qualifiedLineName key name) data.1 data.2
  | .region => some (.region key active.regionTracker.spans)
  | .info => some (.info key active.latestInfo)
  | .markers => if active.markers = [] then none else some (.markers key active.markers)

def flushed (key : String) (active : ActiveScript σ α) : List (ScriptOutput × ScriptPayload α) :=
  active.series.members.map (fun line =>
    (.line line.1, .line (qualifiedLineName key line.1) line.2.1 line.2.2)) ++
  [(.region, .region key active.regionTracker.spans), (.info, .info key active.latestInfo)] ++
  if active.markers = [] then [] else [(.markers, .markers key active.markers)]

end ActiveScript

variable (methods : BaseIndicatorScript σ α) (emitting : Bool) (key : String)

def feedLine (timestamp : α) (fed : FedScript σ α) (line : String × PlottedLine α) : FedScript σ α :=
  let recorded := fed.1.record line.1 timestamp line.2.value
  (recorded.1, report emitting fed.2 (.line line.1) (.line (qualifiedLineName key line.1) recorded.2.1 recorded.2.2))

def feedInfo (info : List InfoField) (fed : FedScript σ α) : FedScript σ α :=
  ({ fed.1 with latestInfo := info }, report emitting fed.2 .info (.info key info))

def feedMarkers (timestamp : α) (new : List (PlottedMarker α)) (fed : FedScript σ α) : FedScript σ α :=
  if new = [] then fed
  else
    let active := fed.1.recordMarkers timestamp new
    (active, report emitting fed.2 .markers (.markers key active.markers))

theorem record_series (active : ActiveScript σ α) (lineName asked : String) (timestamp value : α) :
    (active.record lineName timestamp value).1.series.get? asked =
      if asked = lineName then some (active.record lineName timestamp value).2 else active.series.get? asked :=
  Dict.get_set ..

theorem feed_lines_recorded (timestamp : α) (lines : List (String × PlottedLine α)) (fed : FedScript σ α) :
    (lines.foldl (feedLine emitting key timestamp) fed).1 =
      lines.foldl (fun active line => (active.record line.1 timestamp line.2.value).1) fed.1 := by
  induction lines generalizing fed with
  | nil => rfl
  | cons line rest ih => exact ih (feedLine emitting key timestamp fed line)

theorem feed_lines_silent (timestamp : α) (lines : List (String × PlottedLine α)) (fed : FedScript σ α) :
    (lines.foldl (feedLine false key timestamp) fed).2 = fed.2 := by
  induction lines generalizing fed with
  | nil => rfl
  | cons line rest ih => exact ih (feedLine false key timestamp fed line)

section

open ActiveScript

theorem feed_line_refreshed (timestamp : α) (fed : FedScript σ α) (line : String × PlottedLine α) :
    Refreshed (holds key) fed (feedLine true key timestamp fed line) := by
  refine refreshed_emit (holds key) fed.1 _ fed.2 (.line line.1) _ ?_ fun other different => ?_
  · rw [holds, record_series, if_pos rfl]
    rfl
  · cases other with
    | line name =>
        have apart : name ≠ line.1 := fun same => different (congrArg _ same)
        rw [holds, record_series, if_neg apart]
        rfl
    | region => rfl
    | info => rfl
    | markers => rfl

theorem feed_lines_refreshed (timestamp : α) (lines : List (String × PlottedLine α)) (fed : FedScript σ α) :
    Refreshed (holds key) fed (lines.foldl (feedLine true key timestamp) fed) := by
  induction lines generalizing fed with
  | nil => exact refreshed_unchanged (holds key) fed.1 fed.1 fed.2 fun _ => rfl
  | cons line rest ih =>
      exact refreshed_trans (holds key) fed _ _ (feed_line_refreshed key timestamp fed line) (ih _)

theorem feed_info_refreshed (info : List InfoField) (fed : FedScript σ α) :
    Refreshed (holds key) fed (feedInfo true key info fed) := by
  refine refreshed_emit (holds key) fed.1 _ fed.2 .info _ rfl fun other different => ?_
  cases other with
  | info => exact absurd rfl different
  | line name => rfl
  | region => rfl
  | markers => rfl

theorem feed_markers_refreshed (timestamp : α) (new : List (PlottedMarker α)) (fed : FedScript σ α) :
    Refreshed (holds key) fed (feedMarkers true key timestamp new fed) := by
  by_cases none : new = []
  · rw [feedMarkers, if_pos none]
    exact refreshed_unchanged (holds key) fed.1 fed.1 fed.2 fun _ => rfl
  · rw [feedMarkers, if_neg none]
    refine refreshed_emit (holds key) fed.1 _ fed.2 .markers _ ?_ fun other different => ?_
    · exact if_neg fun empty => none (by simpa using (List.append_eq_nil_iff.mp empty).2)
    · cases other with
      | markers => exact absurd rfl different
      | line name => rfl
      | region => rfl
      | info => rfl

end

theorem flushed_held (active : ActiveScript σ α) :
    ∀ sent ∈ active.flushed key, active.holds key sent.1 = some sent.2 := by
  intro sent listed
  simp only [ActiveScript.flushed, List.mem_append, List.mem_map] at listed
  rcases listed with (⟨line, isLine, rfl⟩ | snapshot) | marked
  · rw [ActiveScript.holds, (active.series.get_eq_some_iff line.1 line.2).mpr isLine]
    rfl
  · simp only [List.mem_cons, List.not_mem_nil, or_false] at snapshot
    rcases snapshot with rfl | rfl
    · rfl
    · rfl
  · by_cases none : active.markers = []
    · rw [if_pos none] at marked
      cases marked
    · rw [if_neg none, List.mem_singleton] at marked
      subst marked
      exact if_neg none

theorem flushed_all (active : ActiveScript σ α) (output : ScriptOutput) (payload : ScriptPayload α)
    (held : active.holds key output = some payload) : output ∈ (active.flushed key).map Prod.fst := by
  rw [ActiveScript.flushed, List.map_append, List.map_append]
  cases output with
  | line name =>
      obtain ⟨data, isData, _⟩ := Option.map_eq_some_iff.mp held
      have listed := (active.series.get_eq_some_iff name data).mp isData
      refine List.mem_append_left _ (List.mem_append_left _ ?_)
      exact List.mem_map.mpr ⟨_, List.mem_map.mpr ⟨_, listed, rfl⟩, rfl⟩
  | region => simp
  | info => simp
  | markers =>
      by_cases none : active.markers = []
      · rw [ActiveScript.holds, if_pos none] at held
        cases held
      · rw [if_neg none]
        simp

theorem flushed_sent (active : ActiveScript σ α) (shown : ScriptShown α) :
    Sent (ActiveScript.holds key) active shown (emitAll shown (active.flushed key)) :=
  emit_all_sent _ active shown _ (flushed_held key active) (flushed_all key active)

variable [PyFloat α]

def candleTimestamp (candle : MarketData α) : α := PyFloat.literal (candle.closeTime / 10 ^ 6)

def ActiveScript.recordRegion (active : ActiveScript σ α) (timestamp : α) (region : Option (PlottedRegion α)) :
    ActiveScript σ α :=
  { active with regionTracker := active.regionTracker.record timestamp region }

def feedRegion (timestamp : α) (region : Option (PlottedRegion α)) (fed : FedScript σ α) : FedScript σ α :=
  let active := fed.1.recordRegion timestamp region
  (active, report emitting fed.2 .region (.region key active.regionTracker.spans))

def feedBar (timestamp : α) (bar : ScriptBar α) (fed : FedScript σ α) : FedScript σ α :=
  let lined := bar.lines.members.foldl (feedLine emitting key timestamp) fed
  feedMarkers emitting key timestamp bar.markers
    (feedInfo emitting key bar.info (feedRegion emitting key timestamp bar.region lined))

def feedScript (candle : MarketData α) (fed : FedScript σ α) : FedScript σ α × Option PyError :=
  match methods.compute fed.1.script candle with
  | (script, .error raised) => (({ fed.1 with script := script }, fed.2), some raised)
  | (script, .ok bar) => (feedBar emitting key (candleTimestamp candle) bar ({ fed.1 with script := script }, fed.2), none)

def replayBar (timestamp : α) (bar : ScriptBar α) (active : ActiveScript σ α) : ActiveScript σ α :=
  let lined := bar.lines.members.foldl (fun active line => (active.record line.1 timestamp line.2.value).1) active
  let informed := { lined.recordRegion timestamp bar.region with latestInfo := bar.info }
  if bar.markers = [] then informed else informed.recordMarkers timestamp bar.markers

def replayCandle (active : ActiveScript σ α) (candle : MarketData α) : ActiveScript σ α × Option PyError :=
  match methods.compute active.script candle with
  | (script, .error raised) => ({ active with script := script }, some raised)
  | (script, .ok bar) => (replayBar (candleTimestamp candle) bar { active with script := script }, none)

theorem feed_bar_replayed (timestamp : α) (bar : ScriptBar α) (fed : FedScript σ α) :
    (feedBar emitting key timestamp bar fed).1 = replayBar timestamp bar fed.1 := by
  rw [replayBar, ← feed_lines_recorded emitting key timestamp bar.lines.members fed, feedBar, feedMarkers]
  by_cases none : bar.markers = []
  · rw [if_pos none, if_pos none]
    rfl
  · rw [if_neg none, if_neg none]
    rfl

theorem feed_script_replayed (candle : MarketData α) (fed : FedScript σ α) :
    (feedScript methods emitting key candle fed).1.1 = (replayCandle methods fed.1 candle).1 ∧
      (feedScript methods emitting key candle fed).2 = (replayCandle methods fed.1 candle).2 := by
  unfold feedScript replayCandle
  split
  · exact ⟨rfl, rfl⟩
  · exact ⟨feed_bar_replayed emitting key (candleTimestamp candle) _ _, rfl⟩

theorem feed_script_silent (candle : MarketData α) (fed : FedScript σ α) :
    (feedScript methods false key candle fed).1.2 = fed.2 := by
  unfold feedScript
  split
  · rfl
  · rename_i script bar computed
    have silent := feed_lines_silent key (candleTimestamp candle) bar.lines.members ({ fed.1 with script := script }, fed.2)
    dsimp only [feedBar, feedMarkers]
    split
    · exact silent
    · exact silent

theorem feed_region_refreshed (timestamp : α) (region : Option (PlottedRegion α)) (fed : FedScript σ α) :
    Refreshed (ActiveScript.holds key) fed (feedRegion true key timestamp region fed) := by
  refine refreshed_emit (ActiveScript.holds key) fed.1 _ fed.2 .region _ rfl fun other different => ?_
  cases other with
  | region => exact absurd rfl different
  | line name => rfl
  | info => rfl
  | markers => rfl

theorem feed_bar_refreshed (timestamp : α) (bar : ScriptBar α) (fed : FedScript σ α) :
    Refreshed (ActiveScript.holds key) fed (feedBar true key timestamp bar fed) := by
  have lined := feed_lines_refreshed key timestamp bar.lines.members fed
  have tinted := refreshed_trans _ fed _ _ lined (feed_region_refreshed key timestamp bar.region _)
  have informed := refreshed_trans _ fed _ _ tinted (feed_info_refreshed key bar.info _)
  exact refreshed_trans _ fed _ _ informed (feed_markers_refreshed key timestamp bar.markers _)

theorem feed_bar_current (timestamp : α) (bar : ScriptBar α) (fed : FedScript σ α) (output : ScriptOutput)
    (snapshot : output = .region ∨ output = .info) :
    Current (ActiveScript.holds key) (feedBar true key timestamp bar fed).1 (feedBar true key timestamp bar fed).2 output := by
  refine refreshed_current _ _ _ output (feed_markers_refreshed key timestamp bar.markers _) ?_
  rcases snapshot with rfl | rfl
  · refine refreshed_current _ _ _ .region (feed_info_refreshed key bar.info _) ?_
    exact emit_current (ActiveScript.holds key) _ _ _ _ rfl
  · exact emit_current (ActiveScript.holds key) _ _ _ _ rfl

theorem feed_script_refreshed (candle : MarketData α) (fed : FedScript σ α) :
    Refreshed (ActiveScript.holds key) fed (feedScript methods true key candle fed).1 := by
  have same (script : σ) : ∀ output, ({ fed.1 with script := script } : ActiveScript σ α).holds key output = fed.1.holds key output :=
    fun output => by cases output <;> rfl
  unfold feedScript
  split
  · exact refreshed_unchanged _ _ _ fed.2 (same _)
  · exact refreshed_trans _ fed _ _ (refreshed_unchanged _ _ _ fed.2 (same _)) (feed_bar_refreshed key _ _ _)

theorem feed_script_current (candle : MarketData α) (fed : FedScript σ α) (output : ScriptOutput)
    (snapshot : output = .region ∨ output = .info) (returned : (feedScript methods true key candle fed).2 = none) :
    Current (ActiveScript.holds key) (feedScript methods true key candle fed).1.1
      (feedScript methods true key candle fed).1.2 output := by
  unfold feedScript at returned ⊢
  split at returned
  · cases returned
  · rename_i script bar computed
    exact feed_bar_current key _ bar _ output snapshot

end Sagittarius
