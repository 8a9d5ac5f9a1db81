import Mathlib.Data.List.Dedup
import Mathlib.Data.List.ProdSigma
import Sagittarius.Library.Groups
import Sagittarius.Screen.ChartLod
import Sagittarius.Screen.IndicatorScriptRunner

set_option autoImplicit false

namespace Sagittarius

open Grouping Bisecting

variable {α : Type} [PyFloat α]

structure DisplayMarker (α : Type) where
  source : MarkerPoint α
  representedCount : ℕ
deriving DecidableEq

def MarkerPoint.identity (marker : MarkerPoint α) : String × String × String := (marker.text, marker.color, marker.direction)

def bucketIndex (x lowerX span : α) (bucketCount : ℕ) : ℕ :=
  if span ≤ PyFloat.literal 0 ∨ bucketCount = 1 then 0
  else min (bucketCount - 1) (PyFloat.toInt ((x - lowerX) / span * PyFloat.ofInt bucketCount)).toNat

def aggregateMarker (markers : List (MarkerPoint α)) : Option (DisplayMarker α) :=
  let count := markers.length
  markers[count / 2]?.map fun representative =>
    if count = 1 then ⟨representative, 1⟩
    else ⟨{ representative with text := representative.text ++ " ×" ++ toString count }, count⟩

-- `marker_display_capacity` of a width, or of none that is finite and positive.
def markerDisplayCapacity (pixelWidth : Option ℚ) : ℕ :=
  max 1 ⌊(pixelWidth.filter (0 < ·)).getD 1200 / 120⌋.toNat

def selectMarkerDisplay (markers : List (MarkerPoint α)) (minX maxX : α) (capacity : ℕ) : List (DisplayMarker α) :=
  if markers.length ≤ capacity then markers.map (⟨·, 1⟩)
  else
    let identities := (markers.map (·.identity)).dedup
    let bucketCount := max 1 (capacity / identities.length)
    let lowerX := PyFloat.smaller minX maxX
    let span := (if maxX < minX then minX else maxX) - lowerX
    let grouped := groupBy (fun marker => (bucketIndex marker.x lowerX span bucketCount, marker.identity)) markers
    (grouped.filterMap fun group => aggregateMarker group.2).mergeSort fun first second =>
      !Decidable.decide (second.source.x < first.source.x)

-- A displayed marker is one of those it stands for, which are all of one
-- identity; where there are several its text tells how many.
def DisplayMarker.StandsFor (display : DisplayMarker α) (group : List (MarkerPoint α)) : Prop :=
  display.representedCount = group.length ∧ ∃ representative ∈ group,
    (∀ marker ∈ group, marker.identity = representative.identity) ∧
      display.source = if group.length = 1 then representative
        else { representative with text := representative.text ++ " ×" ++ toString group.length }

omit [PyFloat α] in
theorem aggregate_stands (group : List (MarkerPoint α)) (filled : group ≠ [])
    (alike : ∀ first ∈ group, ∀ second ∈ group, first.identity = second.identity) :
    ∃ display, aggregateMarker group = some display ∧ display.StandsFor group := by
  have positive := List.length_pos_iff.mpr filled
  have inside : group.length / 2 < group.length := Nat.div_lt_self positive (by decide)
  rw [aggregateMarker, List.getElem?_eq_getElem inside, Option.map_some]
  refine ⟨_, rfl, ?_, group[group.length / 2], List.getElem_mem inside,
    fun marker listed => alike marker listed _ (List.getElem_mem inside), ?_⟩
  · split_ifs with single
    · exact single.symm
    · rfl
  · split_ifs <;> rfl

omit [PyFloat α] in
theorem bucket_count_bound (capacity identities : ℕ) :
    max 1 (capacity / identities) * identities ≤ max capacity identities := by
  by_cases several : 1 ≤ capacity / identities
  · rw [max_eq_right several]
    exact (Nat.div_mul_le_self capacity identities).trans (le_max_left _ _)
  · rw [max_eq_left (Nat.not_le.mp several).le, one_mul]
    exact le_max_right _ _

theorem bucket_index_lt (x lowerX span : α) (bucketCount : ℕ) (positive : 0 < bucketCount) :
    bucketIndex x lowerX span bucketCount < bucketCount := by
  rw [bucketIndex]
  split_ifs
  · exact positive
  · omega

omit [PyFloat α] in
theorem aggregates_stand (groups : List ((ℕ × String × String × String) × List (MarkerPoint α)))
    (stand : ∀ group ∈ groups, ∃ display, aggregateMarker group.2 = some display ∧ display.StandsFor group.2) :
    List.Forall₂ DisplayMarker.StandsFor (groups.filterMap fun group => aggregateMarker group.2) (groups.map Prod.snd) := by
  induction groups with
  | nil => exact .nil
  | cons group rest ih =>
      obtain ⟨display, aggregated, stands⟩ := stand group List.mem_cons_self
      rw [List.filterMap_cons, aggregated, List.map_cons]
      exact .cons stands (ih fun other listed => stand other (List.mem_cons_of_mem _ listed))

omit [PyFloat α] in
theorem grouped_stand (markers : List (MarkerPoint α)) (bucket : MarkerPoint α → ℕ) (bucketCount : ℕ)
    (below : ∀ marker, bucket marker < bucketCount) :
    let grouped := groupBy (fun marker => (bucket marker, marker.identity)) markers
    List.Forall₂ DisplayMarker.StandsFor (grouped.filterMap fun group => aggregateMarker group.2) (grouped.map Prod.snd) ∧
      (grouped.map Prod.snd).flatten.Perm markers ∧
      grouped.length ≤ bucketCount * (markers.map (·.identity)).dedup.length := by
  intro grouped
  have groups := group_by_groups (fun marker : MarkerPoint α => (bucket marker, marker.identity)) markers
  have named (group : (ℕ × String × String × String) × List (MarkerPoint α)) (listed : group ∈ grouped)
      (marker : MarkerPoint α) (inside : marker ∈ group.2) : marker ∈ markers ∧ (bucket marker, marker.identity) = group.1 := by
    rw [groups.members group listed, List.mem_filter] at inside
    exact ⟨inside.1, of_decide_eq_true inside.2⟩
  refine ⟨aggregates_stand grouped fun group listed => ?_, ?_, ?_⟩
  · refine aggregate_stands group.2 (groups.filled group listed) fun first isFirst second isSecond => ?_
    have same := (named group listed first isFirst).2.trans (named group listed second isSecond).2.symm
    exact congrArg Prod.snd same
  · rw [← List.flatMap_def]
    exact groups.partition
  · have within : grouped.map Prod.fst ⊆ List.range bucketCount ×ˢ (markers.map (·.identity)).dedup := by
      intro name isName
      obtain ⟨group, listed, rfl⟩ := List.mem_map.mp isName
      obtain ⟨marker, inside⟩ := List.exists_mem_of_ne_nil _ (groups.filled group listed)
      obtain ⟨isMarker, same⟩ := named group listed marker inside
      rw [← same]
      exact List.mem_product.mpr
        ⟨List.mem_range.mpr (below marker), List.mem_dedup.mpr (List.mem_map_of_mem isMarker)⟩
    have few := (List.subperm_of_subset groups.keys within).length_le
    rwa [List.length_map, List.length_product, List.length_range] at few

theorem selected_stand (markers : List (MarkerPoint α)) (minX maxX : α) (capacity : ℕ) :
    (∃ groups, List.Forall₂ DisplayMarker.StandsFor (selectMarkerDisplay markers minX maxX capacity) groups ∧
        groups.flatten.Perm markers) ∧
      (selectMarkerDisplay markers minX maxX capacity).length ≤
        max capacity (markers.map (·.identity)).dedup.length := by
  rw [selectMarkerDisplay]
  by_cases sparse : markers.length ≤ capacity
  · rw [if_pos sparse]
    refine ⟨⟨markers.map ([·]), ?_, ?_⟩, ?_⟩
    · rw [List.forall₂_map_left_iff, List.forall₂_map_right_iff, List.forall₂_same]
      intro marker _
      refine ⟨rfl, marker, List.mem_singleton_self marker, fun other listed => ?_, rfl⟩
      rw [List.mem_singleton.mp listed]
    · rw [← List.flatMap_def, List.flatMap_singleton']
    · rw [List.length_map]
      exact sparse.trans (le_max_left _ _)
  · rw [if_neg sparse]
    dsimp only
    generalize counted : max 1 (capacity / (markers.map (·.identity)).dedup.length) = bucketCount
    have positive : 0 < bucketCount := counted ▸ Nat.lt_of_lt_of_le Nat.one_pos (le_max_left _ _)
    obtain ⟨stand, partition, few⟩ := grouped_stand markers (fun marker => bucketIndex marker.x (PyFloat.smaller minX maxX)
      ((if maxX < minX then minX else maxX) - PyFloat.smaller minX maxX) bucketCount) bucketCount
      fun marker => bucket_index_lt marker.x _ _ bucketCount positive
    have sorted := List.mergeSort_perm ((groupBy (fun marker : MarkerPoint α => (bucketIndex marker.x
      (PyFloat.smaller minX maxX) ((if maxX < minX then minX else maxX) - PyFloat.smaller minX maxX) bucketCount,
      marker.identity)) markers).filterMap fun group => aggregateMarker group.2)
      fun first second => !Decidable.decide (second.source.x < first.source.x)
    refine ⟨?_, ?_⟩
    · obtain ⟨groups, standing, reordered⟩ := List.perm_comp_forall₂ sorted stand
      exact ⟨groups, standing, reordered.flatten.trans partition⟩
    · rw [sorted.length_eq, stand.length_eq, List.length_map]
      exact few.trans (counted ▸ bucket_count_bound capacity _)

-- What the layer holds for one key. The calls for other keys leave it as it is.
structure MarkerLayer where
  markers : Option (List (MarkerPoint ℚ))
  visibleRange : Option (ℚ × ℚ)
  displayMarkers : Option (List (DisplayMarker ℚ))
  items : List (MarkerPoint ℚ)

-- `pixelWidth` is that of the view box at the call.
inductive MarkerCall where
  | setMarkers (markers : List (MarkerPoint ℚ)) (pixelWidth : Option ℚ)
  | refreshWindow (minX maxX : ℚ) (pixelWidth : Option ℚ)
  | clear

def inOrder (markers : List (MarkerPoint ℚ)) : List (MarkerPoint ℚ) :=
  markers.mergeSort fun first second => Decidable.decide (first.x ≤ second.x)

namespace MarkerLayer

def opened : MarkerLayer := ⟨none, none, none, []⟩

def paddedRange (range : ℚ × ℚ) : ℚ × ℚ :=
  (range.1 - (range.2 - range.1) * (1 / 10), range.2 + (range.2 - range.1) * (1 / 10))

def visibleMarkers (visibleRange : Option (ℚ × ℚ)) (markers : List (MarkerPoint ℚ)) : List (MarkerPoint ℚ) :=
  match visibleRange with
  | none => markers
  | some range =>
      let indices := visibleSliceIndices (·.x) markers range.1 range.2 ((range.2 - range.1) * (1 / 10))
      slice indices.1 indices.2 markers

def selectDisplayMarkers (visibleRange : Option (ℚ × ℚ)) (markers : List (MarkerPoint ℚ)) (pixelWidth : Option ℚ) :
    List (DisplayMarker ℚ) :=
  match markers with
  | [] => []
  | first :: rest =>
      let range := (visibleRange.map paddedRange).getD (first.x, (rest.getLastD first).x)
      selectMarkerDisplay markers range.1 range.2 (markerDisplayCapacity pixelWidth)

-- Items are reused in order and configured wholly.
def materializeVisibleSlice (layer : MarkerLayer) (pixelWidth : Option ℚ) : MarkerLayer :=
  match layer.markers with
  | none => layer
  | some markers =>
      let display := selectDisplayMarkers layer.visibleRange (visibleMarkers layer.visibleRange markers) pixelWidth
      if layer.displayMarkers = some display then layer
      else { layer with displayMarkers := some display, items := display.map (·.source) }

def call (layer : MarkerLayer) : MarkerCall → MarkerLayer
  | .setMarkers markers pixelWidth =>
      materializeVisibleSlice { layer with markers := some (inOrder markers), displayMarkers := none, items := [] } pixelWidth
  | .refreshWindow minX maxX pixelWidth =>
      materializeVisibleSlice { layer with visibleRange := some (min minX maxX, max minX maxX) } pixelWidth
  | .clear => { layer with markers := none, displayMarkers := none, items := [] }

def representedMarkerCount (layer : MarkerLayer) : ℕ := ((layer.displayMarkers.getD []).map (·.representedCount)).sum

end MarkerLayer

-- The markers last set and not cleared since, the range that is seen and the
-- width it is seen at.
structure MarkerFeed where
  given : Option (List (MarkerPoint ℚ))
  range : Option (ℚ × ℚ)
  pixelWidth : Option ℚ

namespace MarkerFeed

def opened : MarkerFeed := ⟨none, none, none⟩

def receive (feed : MarkerFeed) : MarkerCall → MarkerFeed
  | .setMarkers markers pixelWidth => { feed with given := some markers, pixelWidth }
  | .refreshWindow minX maxX pixelWidth => { feed with range := some (min minX maxX, max minX maxX), pixelWidth }
  | .clear => { feed with given := none }

def inView (range : Option (ℚ × ℚ)) (markers : List (MarkerPoint ℚ)) : List (MarkerPoint ℚ) :=
  markers.filter fun marker => range.all fun range =>
    Decidable.decide ((MarkerLayer.paddedRange range).1 ≤ marker.x ∧ marker.x ≤ (MarkerLayer.paddedRange range).2)

def visible (feed : MarkerFeed) : List (MarkerPoint ℚ) := inView feed.range (feed.given.getD [])

end MarkerFeed

structure MarkerFeed.Shown (feed : MarkerFeed) (display : List (DisplayMarker ℚ)) : Prop where
  stands : ∃ groups, List.Forall₂ DisplayMarker.StandsFor display groups ∧ groups.flatten.Perm feed.visible
  few : display.length ≤ max (markerDisplayCapacity feed.pixelWidth) (feed.visible.map (·.identity)).dedup.length

structure MarkerLayer.Keeps (feed : MarkerFeed) (layer : MarkerLayer) : Prop where
  markers : layer.markers = feed.given.map inOrder
  range : layer.visibleRange = feed.range
  items : layer.items = (layer.displayMarkers.getD []).map (·.source)
  vacant : feed.given = none → layer.displayMarkers.getD [] = []
  shown : feed.Shown (layer.displayMarkers.getD [])

theorem in_order_ascends (markers : List (MarkerPoint ℚ)) : ((inOrder markers).map (·.x)).Pairwise (· ≤ ·) := by
  have sorted : (inOrder markers).Pairwise fun first second => Decidable.decide (first.x ≤ second.x) = true :=
    List.pairwise_mergeSort
      (fun a b c first second => decide_eq_true ((of_decide_eq_true first).trans (of_decide_eq_true second)))
      (fun a b => by simpa using le_total a.x b.x) markers
  exact List.pairwise_map.mpr (sorted.imp fun ordered => of_decide_eq_true ordered)

theorem visible_markers_perm (feed : MarkerFeed) (given : List (MarkerPoint ℚ)) (isGiven : feed.given = some given) :
    (MarkerLayer.visibleMarkers feed.range (inOrder given)).Perm feed.visible := by
  have sorted : (inOrder given).Perm given := List.mergeSort_perm given _
  rw [MarkerFeed.visible, isGiven, Option.getD_some, MarkerFeed.inView]
  cases feed.range with
  | none => exact sorted.trans (List.Perm.of_eq (List.filter_eq_self.mpr fun marker _ => rfl).symm)
  | some range =>
      rw [MarkerLayer.visibleMarkers]
      rw [visible_slice_filter (·.x) (inOrder given) range.1 range.2 _ (in_order_ascends given)]
      exact sorted.filter _

theorem selected_shown (feed : MarkerFeed) (given : List (MarkerPoint ℚ)) (isGiven : feed.given = some given) :
    feed.Shown (MarkerLayer.selectDisplayMarkers feed.range (MarkerLayer.visibleMarkers feed.range (inOrder given))
      feed.pixelWidth) := by
  have same := visible_markers_perm feed given isGiven
  cases listed : MarkerLayer.visibleMarkers feed.range (inOrder given) with
  | nil =>
      rw [listed] at same
      exact ⟨⟨[], .nil, same⟩, Nat.zero_le _⟩
  | cons first rest =>
      rw [listed] at same
      rw [MarkerLayer.selectDisplayMarkers]
      obtain ⟨⟨groups, stand, partition⟩, few⟩ := selected_stand (first :: rest)
        (((feed.range.map MarkerLayer.paddedRange).getD (first.x, (rest.getLastD first).x)).1)
        (((feed.range.map MarkerLayer.paddedRange).getD (first.x, (rest.getLastD first).x)).2)
        (markerDisplayCapacity feed.pixelWidth)
      refine ⟨⟨groups, stand, partition.trans same⟩, few.trans (max_le_max (le_refl _) ?_)⟩
      exact (same.map (·.identity)).dedup.length_eq.le

theorem materialized_keeps (feed : MarkerFeed) (layer : MarkerLayer) (markers : layer.markers = feed.given.map inOrder)
    (range : layer.visibleRange = feed.range) (items : layer.items = (layer.displayMarkers.getD []).map (·.source))
    (vacant : feed.given = none → layer.displayMarkers.getD [] = []) :
    (layer.materializeVisibleSlice feed.pixelWidth).Keeps feed := by
  rw [MarkerLayer.materializeVisibleSlice]
  cases isGiven : feed.given with
  | none =>
      rw [isGiven, Option.map_none] at markers
      rw [markers]
      refine ⟨by rw [markers, isGiven]; rfl, range, items, vacant, ?_⟩
      have nothing : feed.visible = [] := by rw [MarkerFeed.visible, isGiven]; rfl
      rw [vacant isGiven]
      exact ⟨⟨[], .nil, nothing ▸ List.Perm.refl []⟩, Nat.zero_le _⟩
  | some given =>
      have held : layer.markers = some (inOrder given) := by rw [markers, isGiven]; rfl
      have selected := selected_shown feed given isGiven
      rw [held]
      dsimp only
      rw [range]
      split_ifs with same
      · exact ⟨markers, range, items, vacant, by rw [same]; exact selected⟩
      · exact ⟨by rw [isGiven]; rfl, rfl, rfl, fun cleared => absurd (cleared.symm.trans isGiven) (Option.some_ne_none _).symm,
          selected⟩

theorem marker_call_keeps (feed : MarkerFeed) (layer : MarkerLayer) (made : MarkerCall) (keeps : layer.Keeps feed) :
    (layer.call made).Keeps (feed.receive made) := by
  cases made with
  | setMarkers markers pixelWidth =>
      let given : MarkerLayer := { layer with markers := some (inOrder markers), displayMarkers := none, items := [] }
      exact materialized_keeps (feed.receive (.setMarkers markers pixelWidth)) given rfl keeps.range rfl fun _ => rfl
  | refreshWindow minX maxX pixelWidth =>
      exact materialized_keeps (feed.receive (.refreshWindow minX maxX pixelWidth)) _ keeps.markers rfl keeps.items keeps.vacant
  | clear =>
      have nothing : (feed.receive .clear).visible = [] := rfl
      exact ⟨rfl, keeps.range, rfl, fun _ => rfl, ⟨[], .nil, nothing ▸ List.Perm.refl []⟩, Nat.zero_le _⟩

theorem marker_run_keeps (calls : List MarkerCall) (feed : MarkerFeed) (layer : MarkerLayer) (keeps : layer.Keeps feed) :
    (calls.foldl MarkerLayer.call layer).Keeps (calls.foldl MarkerFeed.receive feed) := by
  induction calls generalizing feed layer with
  | nil => exact keeps
  | cons first rest ih => exact ih _ _ (marker_call_keeps feed layer first keeps)

theorem represented_counts (display : List (DisplayMarker ℚ)) (groups : List (List (MarkerPoint ℚ)))
    (stand : List.Forall₂ DisplayMarker.StandsFor display groups) :
    (display.map (·.representedCount)).sum = groups.flatten.length := by
  induction stand with
  | nil => rfl
  | cons stands _ ih => rw [List.map_cons, List.sum_cons, List.flatten_cons, List.length_append, ih, stands.1]

theorem marker_layer_keeps (calls : List MarkerCall) :
    (calls.foldl MarkerLayer.call .opened).Keeps (calls.foldl MarkerFeed.receive .opened) :=
  marker_run_keeps calls .opened .opened
    ⟨rfl, rfl, rfl, fun _ => rfl, ⟨[], .nil, List.Perm.refl []⟩, Nat.zero_le _⟩

theorem represented_visible (feed : MarkerFeed) (layer : MarkerLayer) (keeps : layer.Keeps feed) :
    layer.representedMarkerCount = feed.visible.length := by
  obtain ⟨groups, stand, partition⟩ := keeps.shown.stands
  rw [MarkerLayer.representedMarkerCount, represented_counts _ groups stand]
  exact partition.length_eq

-- Whatever the calls: each marker of the padded view is stood for once, by an
-- item of its own text, colour and direction, the items are no more than fit or
-- than there are identities, and the count told is that of the markers in view.
theorem markers_in_view_represented (calls : List MarkerCall) :
    let feed := calls.foldl MarkerFeed.receive .opened
    let layer := calls.foldl MarkerLayer.call .opened
    layer.representedMarkerCount = feed.visible.length ∧
      ∃ display, layer.items = display.map (·.source) ∧ feed.Shown display := by
  intro feed layer
  have keeps := marker_layer_keeps calls
  exact ⟨represented_visible feed layer keeps, _, keeps.items, keeps.shown⟩

-- What a script sent last is all that it has plotted. Once the layer has been
-- given it, whatever the view, each marker in the padded view is stood for once.
theorem script_markers_represented {σ : Type} (methods : BaseIndicatorScript σ ℚ) (registry : IndicatorScriptRegistry σ)
    (barWidthSeconds : ℚ) (made : List (IndicatorScriptRunner.Call ℚ)) (runner : IndicatorScriptRunner σ ℚ)
    (reached : Interleaving.run (IndicatorScriptRunner.call methods)
      (IndicatorScriptRunner.created registry barWidthSeconds) made = some runner)
    (key : String) (active : ActiveScript σ ℚ) (isActive : runner.active.get? key = some active)
    (plotted : active.markers ≠ []) :
    runner.emitted key .markers = some (.markers key active.markers) ∧
      ∀ calls : List MarkerCall, (calls.foldl MarkerFeed.receive .opened).given = some active.markers →
        let layer := calls.foldl MarkerLayer.call .opened
        let shown := MarkerFeed.inView (calls.foldl MarkerFeed.receive .opened).range active.markers
        layer.representedMarkerCount = shown.length ∧
          ∃ display groups, layer.items = display.map (·.source) ∧
            List.Forall₂ DisplayMarker.StandsFor display groups ∧ groups.flatten.Perm shown := by
  have synced := IndicatorScriptRunner.reached_synced methods registry barWidthSeconds made runner reached
  have held : runner.holds key .markers = some (.markers key active.markers) := by
    rw [IndicatorScriptRunner.holds_active runner key active isActive]
    exact if_neg plotted
  refine ⟨synced key .markers (by rintro (⟨⟨⟩⟩ | ⟨⟨⟩⟩)) _ held, fun calls given => ?_⟩
  intro layer shown
  have keeps := marker_layer_keeps calls
  have same : (calls.foldl MarkerFeed.receive .opened).visible = shown := by rw [MarkerFeed.visible, given, Option.getD_some]
  obtain ⟨groups, stand, partition⟩ := keeps.shown.stands
  exact ⟨same ▸ represented_visible _ layer keeps, _, groups, keeps.items, stand, same ▸ partition⟩

theorem countdown_markers_represented :
    ∃ active, (IndicatorScriptRunner.countdownFed.feedAll IndicatorScriptRunner.countdownScript
        IndicatorScriptRunner.countdownBars).1.active.get? "long" = some active ∧ active.markers.length = 3 ∧
      ([MarkerCall.setMarkers active.markers (some 600), .refreshWindow (-10) 70 (some 120)].foldl
        MarkerLayer.call .opened).representedMarkerCount = 2 := by
  have held : ((IndicatorScriptRunner.countdownFed.feedAll IndicatorScriptRunner.countdownScript
      IndicatorScriptRunner.countdownBars).1.active.get? "long").map (fun active =>
        (active.markers.length, (MarkerFeed.inView (some (min (-10) 70, max (-10) 70)) active.markers).length)) =
      some (3, 2) := by decide +kernel
  obtain ⟨active, isActive, counted⟩ := Option.map_eq_some_iff.mp held
  obtain ⟨three, two⟩ := Prod.mk.inj counted
  have plotted : active.markers ≠ [] := List.ne_nil_of_length_pos (by omega)
  obtain ⟨_, represented⟩ := script_markers_represented IndicatorScriptRunner.countdownScript
    IndicatorScriptRunner.countdownRegistry (PyFloat.literal 60)
    [.rebuild ["long"], .feed (IndicatorScriptRunner.countdownBar 0 4), .feedAll IndicatorScriptRunner.countdownBars] _ rfl
    "long" active isActive plotted
  exact ⟨active, isActive, three,
    (represented [.setMarkers active.markers (some 600), .refreshWindow (-10) 70 (some 120)] rfl).1.trans two⟩

end Sagittarius
