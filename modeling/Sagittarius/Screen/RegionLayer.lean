import Sagittarius.Screen.ChartLod
import Sagittarius.Screen.StrategyTrendZones

set_option autoImplicit false

namespace Sagittarius

open Bisecting

variable {α : Type} [PyFloat α]

def visibleSpanIndices (sortedSpans : List (RegionSpan α)) (minX maxX padding : α) : ℕ × ℕ :=
  let lo := insertionPoint (fun span => !Decidable.decide (minX - padding < span.stop)) sortedSpans
  let hi := insertionPoint (fun span => Decidable.decide (span.start < maxX + padding)) sortedSpans
  (lo, max lo hi)

def clampedOpacity (opacity : α) : α :=
  PyFloat.larger (PyFloat.literal 0) (PyFloat.smaller (PyFloat.literal 1) opacity)

def createItem (span : RegionSpan α) : RegionSpan α := { span with opacity := clampedOpacity span.opacity }

def reuseItem (item span : RegionSpan α) : RegionSpan α :=
  let moved :=
    if PyFloat.Equal item.start span.start ∧ PyFloat.Equal item.stop span.stop then item
    else { item with start := span.start, stop := span.stop }
  { moved with color := span.color, opacity := clampedOpacity span.opacity }

structure RegionEntry (α : Type) where
  spans : List (RegionSpan α)
  activeSlice : Option (ℕ × ℕ)
  items : List (RegionSpan α)

structure RegionLayer (α : Type) where
  entries : String → Option (RegionEntry α)
  visibleRange : Option (α × α)

inductive RegionCall (α : Type) where
  | setRegions (key : String) (spans : List (RegionSpan α))
  | refreshWindow (minX maxX : α)
  | clear (key : String)
  | clearAll

namespace RegionLayer

def opened : RegionLayer α := ⟨fun _ => none, none⟩

def visibleSlice (visibleRange : Option (α × α)) (spans : List (RegionSpan α)) : ℕ × ℕ :=
  match visibleRange with
  | none => (0, spans.length)
  | some (minX, maxX) => visibleSpanIndices spans minX maxX ((maxX - minX) * PyFloat.literal (1 / 10))

-- The items are configured anew one after the other, made where they are too
-- few and removed where they are too many.
def configure : List (RegionSpan α) → List (RegionSpan α) → List (RegionSpan α)
  | _, [] => []
  | [], visible => visible.map createItem
  | item :: items, span :: visible => reuseItem item span :: configure items visible

def materializeVisibleSlice (visibleRange : Option (α × α)) (entry : RegionEntry α) : RegionEntry α :=
  let target := visibleSlice visibleRange entry.spans
  if entry.activeSlice = some target then entry
  else
    { entry with
      items := configure entry.items (slice target.1 target.2 entry.spans)
      activeSlice := some target }

def call (layer : RegionLayer α) : RegionCall α → RegionLayer α
  | .setRegions key spans =>
      let items := ((layer.entries key).map (·.items)).getD []
      { layer with
        entries := Function.update layer.entries key
          (some (materializeVisibleSlice layer.visibleRange { spans, activeSlice := none, items })) }
  | .refreshWindow minX maxX =>
      let visibleRange := some (PyFloat.smaller minX maxX, PyFloat.larger minX maxX)
      { visibleRange, entries := fun key => (layer.entries key).map (materializeVisibleSlice visibleRange) }
  | .clear key => { layer with entries := Function.update layer.entries key none }
  | .clearAll => { layer with entries := fun _ => none }

end RegionLayer

def spansSet (key : String) : Option (List (RegionSpan α)) → RegionCall α → Option (List (RegionSpan α))
  | before, .setRegions written spans => if written = key then some spans else before
  | before, .refreshWindow _ _ => before
  | before, .clear cleared => if cleared = key then none else before
  | _, .clearAll => none

def rangeSet : Option (α × α) → RegionCall α → Option (α × α)
  | _, .refreshWindow minX maxX => some (PyFloat.smaller minX maxX, PyFloat.larger minX maxX)
  | before, _ => before

section Rationals

theorem reuse_creates (item span : RegionSpan ℚ) : reuseItem item span = createItem span := by
  rw [reuseItem, createItem]
  split_ifs with same
  · rw [rat_equal, rat_equal] at same
    rw [same.1, same.2]
  · rfl

theorem configure_creates (items visible : List (RegionSpan ℚ)) : RegionLayer.configure items visible = visible.map createItem := by
  induction items generalizing visible with
  | nil => cases visible <;> rfl
  | cons item items ih =>
      cases visible with
      | nil => rfl
      | cons span visible => rw [RegionLayer.configure, reuse_creates, ih, List.map_cons]

structure RegionEntry.Shows (visibleRange : Option (ℚ × ℚ)) (entry : RegionEntry ℚ) : Prop where
  active : entry.activeSlice = some (RegionLayer.visibleSlice visibleRange entry.spans)
  items : entry.items = (slice (RegionLayer.visibleSlice visibleRange entry.spans).1
    (RegionLayer.visibleSlice visibleRange entry.spans).2 entry.spans).map createItem

theorem materialized_shows (before : Option (ℚ × ℚ)) (visibleRange : Option (ℚ × ℚ)) (entry : RegionEntry ℚ)
    (fresh : entry.activeSlice = none ∨ entry.Shows before) :
    (RegionLayer.materializeVisibleSlice visibleRange entry).Shows visibleRange ∧
      (RegionLayer.materializeVisibleSlice visibleRange entry).spans = entry.spans := by
  rw [RegionLayer.materializeVisibleSlice]
  split_ifs with same
  · obtain unset | shows := fresh
    · exact absurd (unset.symm.trans same) (Option.some_ne_none _).symm
    · have still := Option.some.inj (shows.active.symm.trans same)
      exact ⟨⟨same, still ▸ shows.items⟩, rfl⟩
  · exact ⟨⟨rfl, configure_creates _ _⟩, rfl⟩

structure RegionLayer.Keeps (calls : List (RegionCall ℚ)) (layer : RegionLayer ℚ) : Prop where
  range : layer.visibleRange = calls.foldl rangeSet none
  spans : ∀ key, (layer.entries key).map (·.spans) = calls.foldl (spansSet key) none
  shows : ∀ key entry, layer.entries key = some entry → entry.Shows layer.visibleRange

theorem region_call_keeps (calls : List (RegionCall ℚ)) (layer : RegionLayer ℚ) (made : RegionCall ℚ)
    (keeps : layer.Keeps calls) : (layer.call made).Keeps (calls ++ [made]) := by
  constructor
  · rw [List.foldl_append, ← keeps.range]
    cases made <;> rfl
  · intro key
    rw [List.foldl_append, ← keeps.spans key]
    cases made with
    | setRegions written spans =>
        show Option.map _ (Function.update layer.entries written _ key) = if written = key then some spans else _
        by_cases same : written = key
        · subst same
          rw [Function.update_self, if_pos rfl, Option.map_some, (materialized_shows none _ _ (.inl rfl)).2]
        · rw [Function.update_of_ne (Ne.symm same), if_neg same]
    | refreshWindow minX maxX =>
        show Option.map _ (Option.map _ (layer.entries key)) = Option.map _ (layer.entries key)
        rw [Option.map_map]
        cases held : layer.entries key with
        | none => rfl
        | some entry => exact congrArg some (materialized_shows _ _ entry (.inr (keeps.shows key entry held))).2
    | clear cleared =>
        show Option.map _ (Function.update layer.entries cleared none key) = if cleared = key then none else _
        by_cases same : cleared = key
        · subst same
          rw [Function.update_self, if_pos rfl, Option.map_none]
        · rw [Function.update_of_ne (Ne.symm same), if_neg same]
    | clearAll => rfl
  · intro key entry held
    cases made with
    | setRegions written spans =>
        change Function.update layer.entries written _ key = some entry at held
        by_cases same : key = written
        · subst same
          rw [Function.update_self] at held
          obtain rfl := Option.some.inj held
          exact (materialized_shows none _ _ (.inl rfl)).1
        · rw [Function.update_of_ne same] at held
          exact keeps.shows key entry held
    | refreshWindow minX maxX =>
        obtain ⟨before, listed, rfl⟩ := Option.map_eq_some_iff.mp held
        exact (materialized_shows _ _ before (.inr (keeps.shows key before listed))).1
    | clear cleared =>
        change Function.update layer.entries cleared none key = some entry at held
        by_cases same : key = cleared
        · subst same
          rw [Function.update_self] at held
          cases held
        · rw [Function.update_of_ne same] at held
          exact keeps.shows key entry held
    | clearAll => cases held

theorem region_run_keeps (calls : List (RegionCall ℚ)) : (calls.foldl RegionLayer.call .opened).Keeps calls := by
  induction calls using List.reverseRecOn with
  | nil => exact ⟨rfl, fun _ => rfl, fun _ _ held => by cases held⟩
  | append_singleton calls last ih =>
      rw [List.foldl_append]
      exact region_call_keeps calls _ last ih

def SpansInOrder (spans : List (RegionSpan ℚ)) : Prop :=
  (∀ span ∈ spans, span.start ≤ span.stop) ∧ spans.Pairwise fun first second => first.stop ≤ second.start

def overlappingSpans (minX maxX padding : ℚ) (spans : List (RegionSpan ℚ)) : List (RegionSpan ℚ) :=
  spans.filter fun span => Decidable.decide (minX - padding < span.stop ∧ span.start < maxX + padding)

theorem visible_spans_overlap (spans : List (RegionSpan ℚ)) (minX maxX padding : ℚ) (ordered : SpansInOrder spans) :
    slice (visibleSpanIndices spans minX maxX padding).1 (visibleSpanIndices spans minX maxX padding).2 spans =
      overlappingSpans minX maxX padding spans := by
  have both : spans.Pairwise fun first second => first.start ≤ second.start ∧ first.stop ≤ second.stop := by
    refine ordered.2.imp_of_mem fun {first second} isFirst isSecond apart => ?_
    exact ⟨(ordered.1 first isFirst).trans apart, apart.trans (ordered.1 second isSecond)⟩
  have overStops : StopsOnce (fun span : RegionSpan ℚ => !Decidable.decide (minX - padding < span.stop)) spans := by
    refine both.imp fun {first second} upward later => ?_
    simp only [Bool.not_eq_true', decide_eq_false_iff_not, not_lt] at later ⊢
    exact upward.2.trans later
  have startStops : StopsOnce (fun span : RegionSpan ℚ => Decidable.decide (span.start < maxX + padding)) spans := by
    refine both.imp fun {first second} upward later => ?_
    exact decide_eq_true (lt_of_le_of_lt upward.1 (of_decide_eq_true later))
  have filtered := slice_filter _ _ spans overStops startStops
  rw [visibleSpanIndices, overlappingSpans]
  dsimp only
  have capped (lo hi : ℕ) : slice lo (max lo hi) spans = slice lo hi spans := by
    by_cases less : lo ≤ hi
    · rw [max_eq_right less]
    · rw [max_eq_left (Nat.not_le.mp less).le, slice, slice, List.drop_eq_nil_of_le (List.length_take_le _ _),
        List.drop_eq_nil_of_le ((List.length_take_le _ _).trans (Nat.not_le.mp less).le)]
  rw [capped, filtered]
  refine List.filter_congr fun span _ => ?_
  rw [Bool.not_not, Bool.decide_and]

def RegionLayer.inView (visibleRange : Option (ℚ × ℚ)) (spans : List (RegionSpan ℚ)) : List (RegionSpan ℚ) :=
  match visibleRange with
  | none => spans
  | some (minX, maxX) => overlappingSpans minX maxX ((maxX - minX) * (1 / 10)) spans

-- Whatever the calls: a key has items on the plot for exactly those of its
-- present spans that overlap the padded view, and a cleared key has none.
theorem region_items_in_view (calls : List (RegionCall ℚ)) (key : String)
    (ordered : ∀ spans ∈ calls.foldl (spansSet key) none, SpansInOrder spans) :
    let layer := calls.foldl RegionLayer.call .opened
    (layer.entries key).map (·.items) = (calls.foldl (spansSet key) none).map fun spans =>
      (RegionLayer.inView (calls.foldl rangeSet none) spans).map createItem := by
  intro layer
  have keeps := region_run_keeps calls
  rw [← keeps.spans key, ← keeps.range]
  rw [← keeps.spans key] at ordered
  cases held : layer.entries key with
  | none => rfl
  | some entry =>
      have shows := keeps.shows key entry held
      rw [held] at ordered
      have inOrder := ordered entry.spans rfl
      refine congrArg some (shows.items.trans ?_)
      cases ranged : layer.visibleRange with
      | none =>
          show (slice 0 entry.spans.length entry.spans).map createItem = _
          rw [slice, List.take_length, List.drop_zero]
          rfl
      | some range => exact congrArg (List.map createItem) (visible_spans_overlap entry.spans range.1 range.2 _ inOrder)

def twoRegions : List (RegionSpan ℚ) := [⟨0, 60, "#26a69a", 15 / 100⟩, ⟨120, 180, "#ef5350", 2⟩]

def regionCalls : List (RegionCall ℚ) :=
  [.setRegions "trend" [⟨0, 30, "#ef5350", 1⟩], .refreshWindow 100 200, .setRegions "trend" twoRegions, .refreshWindow 170 70]

theorem two_regions_in_view :
    let layer := regionCalls.foldl RegionLayer.call .opened
    (layer.entries "trend").map (·.items) = some [⟨120, 180, "#ef5350", 1⟩] := by
  have shown := region_items_in_view regionCalls "trend" (by
    rintro spans ⟨⟩
    exact ⟨by decide +kernel, by decide +kernel⟩)
  exact shown.trans (by decide +kernel)

theorem related_entry {β γ : Type} {Related : β → γ → Prop} {first : List β} {second : List γ}
    (related : List.Forall₂ Related first second) (entry : γ) (listed : entry ∈ second) : ∃ other ∈ first, Related other entry := by
  induction related with
  | nil => cases listed
  | @cons other another first second same rest ih =>
      obtain rfl | listed := List.mem_cons.mp listed
      · exact ⟨other, List.mem_cons_self, same⟩
      · obtain ⟨found, inside, also⟩ := ih listed
        exact ⟨found, List.mem_cons_of_mem _ inside, also⟩

theorem drawn_runs_ordered (klines : List (MarketData ℚ)) (runs : List ZoneRun) (spans : List (RegionSpan ℚ))
    (increasing : klines.Pairwise fun a b => a.closeTime < b.closeTime) (within : ∀ run ∈ runs, run.first ≤ run.last)
    (drawn : List.Forall₂ (ZoneRun.Draws klines) runs spans) (apart : runs.Pairwise fun a b => a.last < b.first) :
    SpansInOrder spans := by
  have later (i j : ℕ) (first second : MarketData ℚ) (isFirst : klines[i]? = some first) (isSecond : klines[j]? = some second)
      (upTo : i ≤ j) : (candleTimestamp first : ℚ) ≤ candleTimestamp second := by
    obtain ⟨inside, rfl⟩ := List.getElem?_eq_some_iff.mp isFirst
    obtain ⟨insideToo, rfl⟩ := List.getElem?_eq_some_iff.mp isSecond
    obtain rfl | less := upTo.eq_or_lt
    · exact le_refl _
    · have closes := List.pairwise_iff_getElem.mp increasing i j inside insideToo less
      rw [candleTimestamp, candleTimestamp, rat_literal, rat_literal]
      have cast : ((klines[i].closeTime : ℤ) : ℚ) ≤ klines[j].closeTime := Int.cast_le.mpr closes.le
      exact div_le_div_of_nonneg_right cast (by norm_num)
  induction drawn with
  | nil => exact ⟨fun span listed => (List.not_mem_nil listed).elim, .nil⟩
  | @cons run span runs spans draws rest ih =>
      obtain ⟨first, others⟩ := List.pairwise_cons.mp apart
      obtain ⟨inOrder, spaced⟩ := ih (fun other listed => within other (List.mem_cons_of_mem _ listed)) others
      obtain ⟨firstBar, lastBar, isFirst, isLast, rfl⟩ := draws
      refine ⟨?_, List.pairwise_cons.mpr ⟨?_, spaced⟩⟩
      · intro other listed
        obtain rfl | listed := List.mem_cons.mp listed
        · exact later _ _ _ _ isFirst isLast (within run List.mem_cons_self)
        · exact inOrder other listed
      · intro other listed
        obtain ⟨otherRun, runListed, otherFirst, otherLast, isOther, -, rfl⟩ := related_entry rest other listed
        exact later _ _ _ _ isLast isOther (first otherRun runListed).le

-- A strategy's trend zones on the plot: once their spans are set, and however
-- the view moves then, the long runs that overlap the padded view are shaded
-- and nothing else is.
theorem trend_zones_shaded {σ ι ρ : Type} (methods : BaseStrategy σ ι ρ ℚ) (strategy : σ) (klines : List (MarketData ℚ))
    (zones : List (Option TrendZone)) (increasing : klines.Pairwise fun a b => a.closeTime < b.closeTime)
    (seen : methods.barZones strategy klines = .ok zones) (key : String) :
    ∃ runs spans, methods.computeStrategyTrendZones strategy klines = .ok spans ∧
      (∀ run, run ∈ runs ↔ run.MaximalIn zones ∧ minZoneBars ≤ run.bars) ∧ List.Forall₂ (ZoneRun.Draws klines) runs spans ∧
      ∀ calls : List (RegionCall ℚ), calls.foldl (spansSet key) none = some spans →
        ((calls.foldl RegionLayer.call .opened).entries key).map (·.items) =
          some ((RegionLayer.inView (calls.foldl rangeSet none) spans).map createItem) := by
  obtain ⟨_, runs, spans, computed, collected⟩ := computed_collected methods strategy klines zones seen
  refine ⟨runs, spans, computed, collected.exactly, collected.drawn, fun calls latest => ?_⟩
  have within : ∀ run ∈ runs, run.first ≤ run.last := fun run listed => ((collected.exactly run).mp listed).1.ordered
  have ordered := drawn_runs_ordered klines runs spans increasing within collected.drawn collected.apart
  have shown := region_items_in_view calls key (by rw [latest]; rintro _ ⟨⟩; exact ordered)
  rwa [latest] at shown

theorem rising_zone_shaded :
    ∃ spans, registeredStrategy.computeStrategyTrendZones trendReference risingBars = .ok spans ∧
      (([RegionCall.setRegions "trend" spans, .refreshWindow 700 900].foldl RegionLayer.call .opened).entries "trend").map
          (·.items) = some ((RegionLayer.inView (some (700, 900)) spans).map createItem) := by
  obtain ⟨_, spans, computed, _, _, shown⟩ := trend_zones_shaded registeredStrategy trendReference risingBars
    (List.replicate 10 none ++ [some .down, some .up, some .up, some .up]) (by decide) (by decide +kernel) "trend"
  refine ⟨spans, computed, (shown [.setRegions "trend" spans, .refreshWindow 700 900] rfl).trans ?_⟩
  rw [show [RegionCall.setRegions "trend" spans, .refreshWindow 700 900].foldl rangeSet none = some (700, 900) by
    show some (PyFloat.smaller 700 900, PyFloat.larger 700 900) = _
    rw [rat_smaller, rat_larger, min_eq_left (by norm_num), max_eq_right (by norm_num)]]

end Rationals

end Sagittarius
