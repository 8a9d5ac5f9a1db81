import Sagittarius.Screen.ChartLod

set_option autoImplicit false

namespace Sagittarius

open Pyramids Bisecting

variable {α : Type} [PyFloat α]

@[ext] structure AppliedSignature (α : Type) where
  lodLo : ℕ
  lodHi : ℕ
  dataRevision : ℕ
  renderWidth : α
  level : ℕ

def AppliedSignature.Matches (first second : AppliedSignature α) : Prop :=
  first.lodLo = second.lodLo ∧ first.lodHi = second.lodHi ∧ first.dataRevision = second.dataRevision ∧
    PyFloat.Equal first.renderWidth second.renderWidth ∧ first.level = second.level

instance AppliedSignature.decidableMatches (first second : AppliedSignature α) : Decidable (first.Matches second) :=
  inferInstanceAs (Decidable (_ ∧ _ ∧ _ ∧ _ ∧ _))

structure DrawnBars (α : Type) where
  rows : List (VolumeBar α)
  width : α

-- `_timestamps`, `_heights` and `_brushes` are the columns of `bars`.
structure VolumeItem (α : Type) where
  barWidth : α
  lodEnabled : Bool
  bars : List (VolumeBar α)
  liveIndex : Option ℕ
  lodLevels : List (List (VolumeBar α))
  visibleRange : Option (α × α)
  dataRevision : ℕ
  lastAppliedSignature : Option (AppliedSignature α)
  graphicsItem : DrawnBars α

def updateLodTail (levels : List (List (VolumeBar α))) (row : VolumeBar α) (append : Bool) : List (List (VolumeBar α)) :=
  let base := levels.headD []
  let changed := if append || base.isEmpty then base ++ [row] else base.dropLast ++ [row]
  retower aggregateVolumeBucket changed levels.tail

namespace VolumeItem

def opened (lodEnabled : Bool) : VolumeItem α where
  barWidth := PyFloat.literal (1333 / 100)
  lodEnabled
  bars := []
  liveIndex := none
  lodLevels := [[]]
  visibleRange := none
  dataRevision := 0
  lastAppliedSignature := none
  graphicsItem := { rows := [], width := PyFloat.literal (1333 / 100) }

def window (item : VolumeItem α) : ℕ × ℕ :=
  match item.visibleRange with
  | some (minX, maxX) => visibleSliceIndices (·.1) item.bars minX maxX (item.barWidth * PyFloat.literal 2)
  | none => (0, item.bars.length)

def signature (item : VolumeItem α) (viewportWidth : α) : AppliedSignature α :=
  let (lo, hi) := item.window
  let level := if item.lodEnabled then selectLodLevel (hi - lo) viewportWidth item.lodLevels.length else 0
  let (lodLo, lodHi) := lodSliceIndices lo hi level
  { lodLo, lodHi, dataRevision := item.dataRevision, renderWidth := item.barWidth * PyFloat.ofInt (2 ^ level), level }

def drawn (item : VolumeItem α) (signature : AppliedSignature α) : DrawnBars α where
  rows := slice signature.lodLo signature.lodHi (item.lodLevels.getD signature.level [])
  width := signature.renderWidth

def apply (item : VolumeItem α) (viewportWidth : α) : VolumeItem α :=
  let signature := item.signature viewportWidth
  if item.lastAppliedSignature.any (signature.Matches ·) then item
  else { item with graphicsItem := item.drawn signature, lastAppliedSignature := some signature }

def renderHistorical (item : VolumeItem α) (data : List (VolumeBar α)) (viewportWidth : α) : VolumeItem α :=
  let barWidth := match data with
    | first :: second :: _ => (second.1 - first.1) / PyFloat.literal (3 / 2)
    | _ => item.barWidth
  apply { item with
    barWidth
    bars := data
    lodLevels := buildVolumeLodPyramid data
    liveIndex := none
    dataRevision := item.dataRevision + 1 } viewportWidth

def livePlace (item : VolumeItem α) (timestamp : α) : Option ℕ :=
  match item.liveIndex.filter (· < item.bars.length) with
  | some index => some index
  | none =>
      if item.bars.getLast?.any (PyFloat.Equal ·.1 timestamp) then some (item.bars.length - 1) else none

def updateLive (item : VolumeItem α) (bar : VolumeBar α) (viewportWidth : α) : VolumeItem α :=
  let placed := match item.livePlace bar.1 with
    | some index =>
        { item with
          bars := item.bars.set index bar
          liveIndex := some index
          lodLevels := updateLodTail item.lodLevels bar false }
    | none =>
        { item with
          bars := item.bars ++ [bar]
          liveIndex := some item.bars.length
          lodLevels := updateLodTail item.lodLevels bar true }
  apply { placed with dataRevision := item.dataRevision + 1 } viewportWidth

def appendClosed (item : VolumeItem α) (bar : VolumeBar α) (viewportWidth : α) : VolumeItem α :=
  { item.updateLive bar viewportWidth with liveIndex := none }

def refreshWindow (item : VolumeItem α) (minX maxX viewportWidth : α) : VolumeItem α :=
  apply { item with visibleRange := some (minX, maxX) } viewportWidth

end VolumeItem

inductive VolumeCall (α : Type) where
  | renderHistorical (data : List (VolumeBar α))
  | updateLive (bar : VolumeBar α)
  | appendClosed (bar : VolumeBar α)
  | refreshWindow (minX maxX : α)

def VolumeItem.call (item : VolumeItem α) : VolumeCall α × α → VolumeItem α
  | (.renderHistorical data, viewportWidth) => item.renderHistorical data viewportWidth
  | (.updateLive bar, viewportWidth) => item.updateLive bar viewportWidth
  | (.appendClosed bar, viewportWidth) => item.appendClosed bar viewportWidth
  | (.refreshWindow minX maxX, viewportWidth) => item.refreshWindow minX maxX viewportWidth

-- The bars that are closed and the one that still forms, and what the view
-- shows of them, which is all until it is first told.
structure VolumeFeed (α : Type) where
  closed : List (VolumeBar α)
  forming : Option (VolumeBar α)
  range : Option (α × α)

namespace VolumeFeed

def bars (feed : VolumeFeed α) : List (VolumeBar α) := feed.closed ++ feed.forming.toList

def form (feed : VolumeFeed α) (bar : VolumeBar α) : VolumeFeed α :=
  if feed.forming.isNone ∧ feed.closed.getLast?.any (PyFloat.Equal ·.1 bar.1) then
    { feed with closed := feed.closed.dropLast, forming := some bar }
  else { feed with forming := some bar }

def close (feed : VolumeFeed α) : VolumeFeed α := { feed with closed := feed.bars, forming := none }

def receive (feed : VolumeFeed α) : VolumeCall α → VolumeFeed α
  | .renderHistorical data => { feed with closed := data, forming := none }
  | .updateLive bar => feed.form bar
  | .appendClosed bar => (feed.form bar).close
  | .refreshWindow minX maxX => { feed with range := some (minX, maxX) }

def opened : VolumeFeed α := ⟨[], none, none⟩

def after (calls : List (VolumeCall α × α)) : VolumeFeed α := (calls.map Prod.fst).foldl receive opened

end VolumeFeed

namespace VolumeItem

-- The item holds the feed's bars and their pyramid, and a drawing of the
-- present bars is what its signature says.
structure Keeps (feed : VolumeFeed α) (item : VolumeItem α) : Prop where
  bars : item.bars = feed.bars
  live : item.liveIndex = feed.forming.map fun _ => feed.closed.length
  range : item.visibleRange = feed.range
  levels : item.lodLevels = buildVolumeLodPyramid item.bars
  past : ∀ applied, item.lastAppliedSignature = some applied → applied.dataRevision ≤ item.dataRevision
  drawing : ∀ applied, item.lastAppliedSignature = some applied → applied.dataRevision = item.dataRevision →
    item.graphicsItem = item.drawn applied ∧ applied.renderWidth = item.barWidth * PyFloat.ofInt (2 ^ applied.level)

def Draws (item : VolumeItem α) (viewportWidth : α) : Prop := item.graphicsItem = item.drawn (item.signature viewportWidth)

theorem opened_keeps (lodEnabled : Bool) : Keeps .opened (opened lodEnabled : VolumeItem α) where
  bars := rfl
  live := rfl
  range := rfl
  levels := (climb_top aggregateVolumeBucket [] (Nat.zero_le 1)).symm
  past _ applied := by cases applied
  drawing _ applied := by cases applied

theorem apply_draws (feed : VolumeFeed α) (item : VolumeItem α) (viewportWidth : α) (keeps : Keeps feed item) :
    Keeps feed (item.apply viewportWidth) ∧ (item.apply viewportWidth).Draws viewportWidth := by
  rw [apply]
  by_cases skipped : item.lastAppliedSignature.any (item.signature viewportWidth |>.Matches ·) = true
  · rw [if_pos skipped]
    refine ⟨keeps, ?_⟩
    obtain ⟨applied, isApplied, same⟩ := (Option.any_eq_true _ _).mp skipped
    obtain ⟨sameLo, sameHi, sameRevision, _, sameLevel⟩ := of_decide_eq_true same
    obtain ⟨drawnSo, wide⟩ := keeps.drawing applied isApplied sameRevision.symm
    have equal : applied = item.signature viewportWidth := by
      have width : applied.renderWidth = (item.signature viewportWidth).renderWidth := by
        rw [wide, ← sameLevel]
        rfl
      exact AppliedSignature.ext sameLo.symm sameHi.symm sameRevision.symm width sameLevel.symm
    rw [Draws, drawnSo, equal]
  · rw [if_neg skipped]
    refine ⟨⟨keeps.bars, keeps.live, keeps.range, keeps.levels, ?_, ?_⟩, rfl⟩
    · rintro _ ⟨⟩
      exact le_refl _
    · rintro _ ⟨⟩ _
      exact ⟨rfl, rfl⟩

theorem revised_draws (feed : VolumeFeed α) (item changed : VolumeItem α) (viewportWidth : α)
    (past : ∀ applied, item.lastAppliedSignature = some applied → applied.dataRevision ≤ item.dataRevision)
    (revised : changed.dataRevision = item.dataRevision + 1)
    (same : changed.lastAppliedSignature = item.lastAppliedSignature) (bars : changed.bars = feed.bars)
    (live : changed.liveIndex = feed.forming.map fun _ => feed.closed.length) (range : changed.visibleRange = feed.range)
    (levels : changed.lodLevels = buildVolumeLodPyramid changed.bars) :
    Keeps feed (changed.apply viewportWidth) ∧ (changed.apply viewportWidth).Draws viewportWidth := by
  refine apply_draws feed changed viewportWidth ⟨bars, live, range, levels, ?_, ?_⟩
  · intro applied isApplied
    have := past applied (same ▸ isApplied)
    omega
  · intro applied isApplied present
    have := past applied (same ▸ isApplied)
    omega

theorem pyramid_base (bars : List (VolumeBar α)) : (buildVolumeLodPyramid bars).headD [] = bars := by
  rw [buildVolumeLodPyramid, climb]
  split_ifs <;> rfl

theorem tail_appended (bars : List (VolumeBar α)) (bar : VolumeBar α) :
    updateLodTail (buildVolumeLodPyramid bars) bar true = buildVolumeLodPyramid (bars ++ [bar]) := by
  rw [updateLodTail, pyramid_base bars]
  exact retower_climbs aggregateVolumeBucket bars (bars ++ [bar]) ⟨bars, bar, rfl, .inl rfl⟩

theorem tail_replaced (kept : List (VolumeBar α)) (replaced bar : VolumeBar α) :
    updateLodTail (buildVolumeLodPyramid (kept ++ [replaced])) bar false = buildVolumeLodPyramid (kept ++ [bar]) := by
  have filled : ¬ (false || (kept ++ [replaced]).isEmpty) = true := by simp
  rw [updateLodTail, pyramid_base (kept ++ [replaced])]
  rw [if_neg filled, List.dropLast_concat]
  exact retower_climbs aggregateVolumeBucket (kept ++ [replaced]) (kept ++ [bar]) ⟨kept, bar, rfl, .inr ⟨replaced, rfl⟩⟩

theorem update_live_draws (feed : VolumeFeed α) (item : VolumeItem α) (bar : VolumeBar α) (viewportWidth : α)
    (keeps : Keeps feed item) :
    Keeps (feed.form bar) (item.updateLive bar viewportWidth) ∧ (item.updateLive bar viewportWidth).Draws viewportWidth := by
  obtain ⟨closed, forming, range⟩ := feed
  have held := keeps.bars
  have live := keeps.live
  have levels := keeps.levels
  rw [updateLive, livePlace]
  cases forming with
  | some before =>
      simp only [VolumeFeed.bars, Option.toList_some, Option.map_some] at held live
      have inside : (some closed.length).filter (· < item.bars.length) = some closed.length := by
        rw [held]
        simp
      rw [live, inside]
      refine revised_draws _ item _ viewportWidth keeps.past rfl rfl ?_ rfl keeps.range ?_
      · simp [VolumeFeed.form, VolumeFeed.bars, held]
      · rw [levels, held]
        simpa using tail_replaced closed before bar
  | none =>
      simp only [VolumeFeed.bars, Option.toList_none, List.append_nil, Option.map_none] at held live
      rw [live, Option.filter_none]
      by_cases again : closed.getLast?.any (PyFloat.Equal ·.1 bar.1) = true
      · have formed : VolumeFeed.form ⟨closed, none, range⟩ bar = ⟨closed.dropLast, some bar, range⟩ := if_pos ⟨rfl, again⟩
        obtain ⟨kept, last, rfl⟩ : ∃ kept last, closed = kept ++ [last] := by
          cases closed using List.reverseRecOn with
          | nil => cases again
          | append_singleton kept last => exact ⟨kept, last, rfl⟩
        simp only [held, if_pos again]
        rw [formed]
        refine revised_draws _ item _ viewportWidth keeps.past rfl rfl ?_ ?_ keeps.range ?_
        · simp [VolumeFeed.bars]
        · simp
        · rw [levels, held]
          simpa using tail_replaced kept last bar
      · have formed : VolumeFeed.form ⟨closed, none, range⟩ bar = ⟨closed, some bar, range⟩ := if_neg fun both => again both.2
        simp only [held, if_neg again]
        rw [formed]
        refine revised_draws _ item _ viewportWidth keeps.past rfl rfl rfl rfl keeps.range ?_
        rw [levels, held]
        exact tail_appended closed bar

theorem call_draws (feed : VolumeFeed α) (item : VolumeItem α) (call : VolumeCall α) (viewportWidth : α)
    (keeps : Keeps feed item) :
    Keeps (feed.receive call) (item.call (call, viewportWidth)) ∧ (item.call (call, viewportWidth)).Draws viewportWidth := by
  cases call with
  | renderHistorical data =>
      exact revised_draws ⟨data, none, feed.range⟩ item _ viewportWidth keeps.past rfl rfl (List.append_nil data).symm rfl
        keeps.range rfl
  | updateLive bar => exact update_live_draws feed item bar viewportWidth keeps
  | appendClosed bar =>
      obtain ⟨kept, draws⟩ := update_live_draws feed item bar viewportWidth keeps
      refine ⟨⟨?_, rfl, kept.range, kept.levels, kept.past, kept.drawing⟩, draws⟩
      exact kept.bars.trans (List.append_nil _).symm
  | refreshWindow minX maxX =>
      exact apply_draws _ _ viewportWidth ⟨keeps.bars, keeps.live, rfl, keeps.levels, keeps.past, keeps.drawing⟩

theorem run_keeps (calls : List (VolumeCall α × α)) (feed : VolumeFeed α) (item : VolumeItem α) (keeps : Keeps feed item) :
    Keeps ((calls.map Prod.fst).foldl VolumeFeed.receive feed) (calls.foldl call item) := by
  induction calls generalizing feed item with
  | nil => exact keeps
  | cons first rest ih => exact ih _ _ (call_draws feed item first.1 first.2 keeps).1

@[simp] theorem apply_lod_enabled (item : VolumeItem α) (viewportWidth : α) :
    (item.apply viewportWidth).lodEnabled = item.lodEnabled := by
  rw [apply]
  split_ifs <;> rfl

theorem call_lod_enabled (item : VolumeItem α) (made : VolumeCall α × α) : (item.call made).lodEnabled = item.lodEnabled := by
  obtain ⟨call, viewportWidth⟩ := made
  cases call with
  | renderHistorical data => exact apply_lod_enabled _ _
  | updateLive bar =>
      rw [VolumeItem.call, updateLive, apply_lod_enabled]
      cases item.livePlace bar.1 <;> rfl
  | appendClosed bar =>
      refine (apply_lod_enabled _ viewportWidth).trans ?_
      cases item.livePlace bar.1 <;> rfl
  | refreshWindow minX maxX => exact apply_lod_enabled _ _

theorem run_lod_enabled (calls : List (VolumeCall α × α)) (item : VolumeItem α) :
    (calls.foldl call item).lodEnabled = item.lodEnabled := by
  induction calls generalizing item with
  | nil => rfl
  | cons first rest ih => exact (ih _).trans (call_lod_enabled item first)

theorem drawn_within_budget (feed : VolumeFeed α) (item : VolumeItem α) (viewportWidth : α) (keeps : Keeps feed item)
    (enabled : item.lodEnabled = true) (wide : ¬ viewportWidth ≤ PyFloat.literal 0) :
    (item.drawn (item.signature viewportWidth)).rows.length ≤ targetBucketCount viewportWidth + 1 := by
  have few := drawn_few aggregateVolumeBucket item.bars item.window.1 item.window.2 viewportWidth wide
  simp only [drawn, signature, enabled, if_true, keeps.levels]
  exact few

theorem signature_level (item : VolumeItem α) (viewportWidth : α) :
    (item.signature viewportWidth).level ≤ item.lodLevels.length - 1 := by
  show (if item.lodEnabled then _ else 0) ≤ _
  split_ifs
  · exact select_lod_level_le _ viewportWidth _
  · exact Nat.zero_le _

theorem drawn_stands (Stands : List (VolumeBar α) → VolumeBar α → Prop) (feed : VolumeFeed α) (item : VolumeItem α)
    (viewportWidth : α) (keeps : Keeps feed item) (represents : Represents aggregateVolumeBucket Stands feed.bars) :
    Shows Stands feed.bars item.window.1 item.window.2 (2 ^ (item.signature viewportWidth).level)
      (item.drawn (item.signature viewportWidth)).rows := by
  have within := signature_level item viewportWidth
  rw [keeps.levels, keeps.bars] at within
  have listed := level_listed aggregateVolumeBucket feed.bars _ within
  rw [drawn, keeps.levels, keeps.bars, buildVolumeLodPyramid, listed]
  exact level_shows aggregateVolumeBucket Stands feed.bars represents _ _ _

theorem run_shows (lodEnabled : Bool) (calls : List (VolumeCall α × α)) (last : VolumeCall α) (viewportWidth : α) :
    let item := (calls.foldl VolumeItem.call (.opened lodEnabled)).call (last, viewportWidth)
    Keeps (.after (calls ++ [(last, viewportWidth)])) item ∧ item.Draws viewportWidth ∧ item.lodEnabled = lodEnabled := by
  intro item
  have before := run_keeps calls .opened (opened lodEnabled) (opened_keeps lodEnabled)
  obtain ⟨keeps, draws⟩ := call_draws _ _ last viewportWidth before
  have same : VolumeFeed.after (calls ++ [(last, viewportWidth)]) =
      ((calls.map Prod.fst).foldl VolumeFeed.receive .opened).receive last := by
    rw [VolumeFeed.after, List.map_append, List.foldl_append]
    rfl
  exact ⟨same ▸ keeps, draws, (call_lod_enabled _ _).trans (run_lod_enabled calls (opened lodEnabled))⟩

end VolumeItem

-- Whatever the calls, the item holds the bars of the feed and the levels that
-- building them anew would give, and it shows what the last call is to draw:
-- a skipped drawing is never a stale one, and none is over the pixel budget.
theorem volume_item_shows_feed (lodEnabled : Bool) (calls : List (VolumeCall α × α)) (last : VolumeCall α)
    (viewportWidth : α) :
    let feed := VolumeFeed.after (calls ++ [(last, viewportWidth)])
    let item := (calls.foldl VolumeItem.call (.opened lodEnabled)).call (last, viewportWidth)
    item.bars = feed.bars ∧ item.visibleRange = feed.range ∧ item.lodLevels = buildVolumeLodPyramid feed.bars ∧
      item.graphicsItem = item.drawn (item.signature viewportWidth) ∧
      (lodEnabled = true → ¬ viewportWidth ≤ PyFloat.literal 0 →
        item.graphicsItem.rows.length ≤ targetBucketCount viewportWidth + 1) := by
  intro feed item
  obtain ⟨keeps, draws, kept⟩ := VolumeItem.run_shows lodEnabled calls last viewportWidth
  refine ⟨keeps.bars, keeps.range, keeps.bars ▸ keeps.levels, draws, fun enabled wide => ?_⟩
  rw [draws]
  exact VolumeItem.drawn_within_budget feed item viewportWidth keeps (kept.trans enabled) wide

def VolumeFeed.visible (feed : VolumeFeed ℚ) (padding : ℚ) : List (VolumeBar ℚ) :=
  feed.bars.filter fun bar =>
    feed.range.all fun range => Decidable.decide (range.1 - padding ≤ bar.1 ∧ bar.1 ≤ range.2 + padding)

theorem VolumeItem.window_visible (feed : VolumeFeed ℚ) (item : VolumeItem ℚ) (keeps : VolumeItem.Keeps feed item)
    (ascending : (feed.bars.map (·.1)).Pairwise (· ≤ ·)) :
    slice item.window.1 item.window.2 feed.bars = feed.visible (item.barWidth * 2) := by
  cases ranged : feed.range with
  | none =>
      have whole : item.window = (0, feed.bars.length) := by rw [VolumeItem.window, keeps.range, ranged, keeps.bars]
      rw [whole, VolumeFeed.visible, ranged, slice, List.take_length, List.drop_zero]
      exact (List.filter_eq_self.mpr fun bar _ => rfl).symm
  | some range =>
      have sliced : item.window = visibleSliceIndices (·.1) feed.bars range.1 range.2 (item.barWidth * 2) := by
        rw [VolumeItem.window, keeps.range, ranged, keeps.bars, rat_literal]
      rw [sliced, VolumeFeed.visible, ranged]
      exact visible_slice_filter (·.1) feed.bars range.1 range.2 (item.barWidth * 2) ascending

-- In exact arithmetic, where the bars ascend in time: what is shown stands for
-- all bars that are visible and for less than a bucket beyond them at either
-- end, each shown bar for consecutive ones.
theorem shown_volume_stands (lodEnabled : Bool) (calls : List (VolumeCall ℚ × ℚ)) (last : VolumeCall ℚ) (viewportWidth : ℚ)
    (ascending : ((VolumeFeed.after (calls ++ [(last, viewportWidth)])).bars.map (·.1)).Pairwise (· ≤ ·)) :
    let feed := VolumeFeed.after (calls ++ [(last, viewportWidth)])
    let item := (calls.foldl VolumeItem.call (.opened lodEnabled)).call (last, viewportWidth)
    ∃ lo hi level, Shows StandsFor feed.bars lo hi (2 ^ level) item.graphicsItem.rows ∧
      item.graphicsItem.width = item.barWidth * 2 ^ level ∧ slice lo hi feed.bars = feed.visible (item.barWidth * 2) := by
  intro feed item
  obtain ⟨keeps, draws, _⟩ := VolumeItem.run_shows lodEnabled calls last viewportWidth
  refine ⟨item.window.1, item.window.2, (item.signature viewportWidth).level, ?_, ?_,
    VolumeItem.window_visible feed item keeps ascending⟩
  · rw [draws]
    exact VolumeItem.drawn_stands StandsFor feed item viewportWidth keeps (volume_represents feed.bars ascending)
  · rw [draws]
    show item.barWidth * PyFloat.ofInt (2 ^ (item.signature viewportWidth).level) = _
    rw [rat_of_int, Int.cast_pow, Int.cast_ofNat]

def fourBars : List (VolumeCall ℚ × ℚ) :=
  [(.renderHistorical [(0, 5, true), (60, 7, false), (120, 2, true)], 4), (.updateLive (120, 3, false), 4),
    (.appendClosed (120, 4, false), 4), (.updateLive (180, 1, true), 4)]

theorem four_bars_stand :
    let feed := VolumeFeed.after (fourBars ++ [(.refreshWindow 0 180, 4)])
    let item := (fourBars.foldl VolumeItem.call (.opened true)).call (.refreshWindow 0 180, 4)
    feed.bars = [(0, 5, true), (60, 7, false), (120, 4, false), (180, 1, true)] ∧
      ∃ lo hi level, Shows StandsFor feed.bars lo hi (2 ^ level) item.graphicsItem.rows ∧
        item.graphicsItem.width = item.barWidth * 2 ^ level ∧ slice lo hi feed.bars = feed.visible (item.barWidth * 2) :=
  ⟨by decide +kernel, shown_volume_stands true fourBars (.refreshWindow 0 180) 4 (by decide +kernel)⟩

end Sagittarius
