import Sagittarius.Screen.ChartLod

set_option autoImplicit false

namespace Sagittarius

open Pyramids Bisecting

variable {α : Type} [PyFloat α]

-- Lines from low to high, and bodies as `(x, y, width, height)`.
structure CandleGeometry (α : Type) where
  bullLines : List (α × α × α × α)
  bullRects : List (α × α × α × α)
  bearLines : List (α × α × α × α)
  bearRects : List (α × α × α × α)

namespace OhlcRow

def Same (first second : OhlcRow α) : Prop :=
  PyFloat.Equal first.timestamp second.timestamp ∧ PyFloat.Equal first.openPrice second.openPrice ∧
    PyFloat.Equal first.highPrice second.highPrice ∧ PyFloat.Equal first.lowPrice second.lowPrice ∧
    PyFloat.Equal first.closePrice second.closePrice

instance decidableSame (first second : OhlcRow α) : Decidable (first.Same second) :=
  inferInstanceAs (Decidable (_ ∧ _ ∧ _ ∧ _ ∧ _))

def isBull (row : OhlcRow α) : Bool := Decidable.decide (row.openPrice ≤ row.closePrice)

def line (row : OhlcRow α) : α × α × α × α := (row.timestamp, row.lowPrice, row.timestamp, row.highPrice)

def rect (renderWidth : α) (row : OhlcRow α) : α × α × α × α :=
  (row.timestamp - renderWidth, PyFloat.smaller row.openPrice row.closePrice, renderWidth * PyFloat.literal 2,
    PyFloat.absolute (row.closePrice - row.openPrice))

end OhlcRow

def CandleGeometry.ofRows (renderWidth : α) (rows : List (OhlcRow α)) : CandleGeometry α :=
  let bull := rows.filter (·.isBull)
  let bear := rows.filter (!·.isBull)
  { bullLines := bull.map (·.line)
    bullRects := bull.map (·.rect renderWidth)
    bearLines := bear.map (·.line)
    bearRects := bear.map (·.rect renderWidth) }

structure GeometrySignature (α : Type) where
  dataRevision : ℕ
  level : ℕ
  lo : ℕ
  hi : ℕ
  renderWidth : α
  liveCandle : Option (OhlcRow α)

def sameLive : Option (OhlcRow α) → Option (OhlcRow α) → Bool
  | none, none => true
  | some first, some second => first.Same second
  | _, _ => false

def GeometrySignature.Matches (first second : GeometrySignature α) : Prop :=
  first.dataRevision = second.dataRevision ∧ first.level = second.level ∧ first.lo = second.lo ∧ first.hi = second.hi ∧
    PyFloat.Equal first.renderWidth second.renderWidth ∧ sameLive first.liveCandle second.liveCandle = true

instance GeometrySignature.decidableMatches (first second : GeometrySignature α) : Decidable (first.Matches second) :=
  inferInstanceAs (Decidable (_ ∧ _ ∧ _ ∧ _ ∧ _ ∧ _))

structure BoundsRect (α : Type) where
  left : α
  top : α
  width : α
  height : α

def BoundsRect.null : BoundsRect α := ⟨PyFloat.literal 0, PyFloat.literal 0, PyFloat.literal 0, PyFloat.literal 0⟩

def BoundsRect.isValid (rect : BoundsRect α) : Bool :=
  Decidable.decide (PyFloat.literal 0 < rect.width) && Decidable.decide (PyFloat.literal 0 < rect.height)

structure ChartView (α : Type) where
  minX : α
  maxX : α
  width : α

structure FastCandlestickItem (α : Type) where
  candleWidth : α
  liveCandle : Option (OhlcRow α)
  historyData : List (OhlcRow α)
  lodEnabled : Bool
  lodLevels : List (List (OhlcRow α))
  dataRevision : ℕ
  fullBoundsRect : BoundsRect α
  cachedVisibleBounds : Option (ℕ × ℕ × Option (α × α))
  geometrySignature : Option (GeometrySignature α)
  geometryBatches : CandleGeometry α

def priceBounds : List (OhlcRow α) → Option (α × α)
  | [] => none
  | first :: rest =>
      some (PyFloat.smallest first.lowPrice (rest.map (·.lowPrice)), PyFloat.largest first.highPrice (rest.map (·.highPrice)))

def withLive (bounds : Option (α × α)) (live : Option (OhlcRow α)) : Option (α × α) :=
  match bounds, live with
  | bounds, none => bounds
  | none, some live => some (live.lowPrice, live.highPrice)
  | some (minY, maxY), some live => some (PyFloat.smaller minY live.lowPrice, PyFloat.larger maxY live.highPrice)

def mergeLive (rows : List (OhlcRow α)) : Option (OhlcRow α) → List (OhlcRow α)
  | none => rows
  | some live =>
      if rows.getLast?.any (PyFloat.Equal ·.timestamp live.timestamp) then rows.dropLast ++ [live] else rows ++ [live]

namespace FastCandlestickItem

def opened (lodEnabled : Bool) : FastCandlestickItem α where
  candleWidth := PyFloat.literal 20
  liveCandle := none
  historyData := []
  lodEnabled
  lodLevels := [[]]
  dataRevision := 0
  fullBoundsRect := .null
  cachedVisibleBounds := none
  geometrySignature := none
  geometryBatches := ⟨[], [], [], []⟩

def medianGap (data : List (OhlcRow α)) : α :=
  let gaps := (List.zipWith (fun row next => next.timestamp - row.timestamp) data data.tail).mergeSort
    fun first second => !Decidable.decide (second < first)
  gaps.getD (gaps.length / 2) (PyFloat.literal 0)

def recomputeFullBounds (candleWidth : α) (historyData : List (OhlcRow α)) : BoundsRect α :=
  match historyData with
  | [] => .null
  | first :: rest =>
      let minT := first.timestamp - candleWidth
      let maxT := (rest.getLastD first).timestamp + candleWidth
      let minY := PyFloat.smallest first.lowPrice (rest.map (·.lowPrice))
      let maxY := PyFloat.largest first.highPrice (rest.map (·.highPrice))
      ⟨minT, minY, maxT - minT, maxY - minY⟩

def generatePicture (item : FastCandlestickItem α) (data : List (OhlcRow α)) : FastCandlestickItem α :=
  let candleWidth := if 1 < data.length then PyFloat.absolute (medianGap data) / PyFloat.literal 3 else item.candleWidth
  { item with
    historyData := data
    lodLevels := buildOhlcLodPyramid data
    dataRevision := item.dataRevision + 1
    geometrySignature := none
    candleWidth
    fullBoundsRect := recomputeFullBounds candleWidth data
    cachedVisibleBounds := none }

def updateLiveCandle (item : FastCandlestickItem α) (candle : OhlcRow α) : FastCandlestickItem α :=
  { item with liveCandle := some candle, geometrySignature := none }

def appendClosedCandle (item : FastCandlestickItem α) (candle : OhlcRow α) : FastCandlestickItem α :=
  { item.generatePicture (mergeLive item.historyData (some candle)) with liveCandle := none }

def window (item : FastCandlestickItem α) (minX maxX : α) : ℕ × ℕ :=
  visibleSliceIndices (·.timestamp) item.historyData minX maxX (item.candleWidth * PyFloat.literal 2)

def visibleRenderSlice (item : FastCandlestickItem α) (view : Option (ChartView α)) : List (OhlcRow α) × GeometrySignature α :=
  match view.filter fun _ => !item.historyData.isEmpty with
  | none =>
      (item.historyData,
        { dataRevision := item.dataRevision
          level := 0
          lo := 0
          hi := item.historyData.length
          renderWidth := item.candleWidth
          liveCandle := item.liveCandle })
  | some view =>
      let raw := item.window view.minX view.maxX
      let level := if item.lodEnabled then selectLodLevel (raw.2 - raw.1) view.width item.lodLevels.length else 0
      let indices := lodSliceIndices raw.1 raw.2 level
      (slice indices.1 indices.2 (item.lodLevels.getD level []),
        { dataRevision := item.dataRevision
          level
          lo := indices.1
          hi := indices.2
          renderWidth := item.candleWidth * PyFloat.ofInt (2 ^ level)
          liveCandle := item.liveCandle })

def paint (item : FastCandlestickItem α) (view : Option (ChartView α)) : FastCandlestickItem α :=
  let (rows, signature) := item.visibleRenderSlice view
  if item.geometrySignature.any (signature.Matches ·) then item
  else
    { item with
      geometryBatches := .ofRows signature.renderWidth (mergeLive rows item.liveCandle)
      geometrySignature := some signature }

def sliceBounds (item : FastCandlestickItem α) (lo hi : ℕ) : Option (α × α) :=
  match item.cachedVisibleBounds with
  | some (cachedLo, cachedHi, cached) =>
      if cachedLo = lo ∧ cachedHi = hi then cached else priceBounds (slice lo hi item.historyData)
  | none => priceBounds (slice lo hi item.historyData)

def wholeBounds (item : FastCandlestickItem α) : Option (α × α) :=
  if item.fullBoundsRect.isValid then
    some (item.fullBoundsRect.top, item.fullBoundsRect.top + item.fullBoundsRect.height)
  else priceBounds item.historyData

def liveIn (item : FastCandlestickItem α) (minX maxX : α) : Option (OhlcRow α) :=
  item.liveCandle.filter fun live => minX ≤ live.timestamp ∧ live.timestamp ≤ maxX

def dataBounds (item : FastCandlestickItem α) (minX maxX : α) : Option (α × α) × FastCandlestickItem α :=
  if item.historyData.isEmpty && item.liveCandle.isNone then (none, item)
  else
    let indices := item.window minX maxX
    let bounds := item.sliceBounds indices.1 indices.2
    ((withLive bounds (item.liveIn minX maxX)).or (withLive item.wholeBounds item.liveCandle),
      { item with cachedVisibleBounds := some (indices.1, indices.2, bounds) })

def nearestInHistory (item : FastCandlestickItem α) (x : α) : Option (OhlcRow α) :=
  let index := insertionPoint (fun row => Decidable.decide (row.timestamp < x)) item.historyData
  if index = 0 then item.historyData.head?
  else if item.historyData.length ≤ index then item.historyData.getLast?
  else do
    let before ← item.historyData[index - 1]?
    let after ← item.historyData[index]?
    return if x - before.timestamp ≤ after.timestamp - x then before else after

def getOhlcAt (item : FastCandlestickItem α) (x : α) : Option (OhlcRow α) :=
  if item.historyData.isEmpty then item.liveCandle
  else
    match item.liveCandle, item.nearestInHistory x with
    | some live, some nearest =>
        if PyFloat.absolute (live.timestamp - x) < PyFloat.absolute (nearest.timestamp - x) then some live else some nearest
    | _, nearest => nearest

end FastCandlestickItem

inductive CandleCall (α : Type) where
  | generatePicture (data : List (OhlcRow α))
  | updateLiveCandle (candle : OhlcRow α)
  | appendClosedCandle (candle : OhlcRow α)
  | paint (view : Option (ChartView α))
  | dataBounds (minX maxX : α)

namespace FastCandlestickItem

def call (item : FastCandlestickItem α) : CandleCall α → FastCandlestickItem α
  | .generatePicture data => item.generatePicture data
  | .updateLiveCandle candle => item.updateLiveCandle candle
  | .appendClosedCandle candle => item.appendClosedCandle candle
  | .paint view => item.paint view
  | .dataBounds minX maxX => (item.dataBounds minX maxX).2

structure Keeps (item : FastCandlestickItem α) : Prop where
  levels : item.lodLevels = buildOhlcLodPyramid item.historyData
  fullBounds : item.fullBoundsRect = recomputeFullBounds item.candleWidth item.historyData
  visibleBounds : ∀ lo hi bounds, item.cachedVisibleBounds = some (lo, hi, bounds) →
    bounds = priceBounds (slice lo hi item.historyData)
  geometry : ∀ signature, item.geometrySignature = some signature →
    signature.liveCandle = item.liveCandle ∧ item.geometryBatches = .ofRows signature.renderWidth
      (mergeLive (slice signature.lo signature.hi (item.lodLevels.getD signature.level [])) item.liveCandle)

theorem opened_keeps (lodEnabled : Bool) : Keeps (opened lodEnabled : FastCandlestickItem α) where
  levels := (climb_top aggregateOhlcBucket [] (Nat.zero_le 1)).symm
  fullBounds := rfl
  visibleBounds _ _ _ cached := by cases cached
  geometry _ signed := by cases signed

theorem pyramid_base (data : List (OhlcRow α)) : (buildOhlcLodPyramid data).getD 0 [] = data := by
  rw [buildOhlcLodPyramid, climb]
  split_ifs <;> rfl

theorem render_slice_rows (item : FastCandlestickItem α) (view : Option (ChartView α)) (keeps : Keeps item) :
    (item.visibleRenderSlice view).1 = slice (item.visibleRenderSlice view).2.lo (item.visibleRenderSlice view).2.hi
        (item.lodLevels.getD (item.visibleRenderSlice view).2.level []) ∧
      (item.visibleRenderSlice view).2.liveCandle = item.liveCandle := by
  rw [visibleRenderSlice]
  cases view.filter fun _ => !item.historyData.isEmpty with
  | none =>
      refine ⟨?_, rfl⟩
      show item.historyData = slice 0 item.historyData.length (item.lodLevels.getD 0 [])
      rw [keeps.levels, pyramid_base, slice, List.take_length, List.drop_zero]
  | some view => exact ⟨rfl, rfl⟩

theorem paint_keeps (item : FastCandlestickItem α) (view : Option (ChartView α)) (keeps : Keeps item) :
    Keeps (item.paint view) := by
  obtain ⟨rows, live⟩ := render_slice_rows item view keeps
  rw [paint]
  dsimp only
  split_ifs
  · exact keeps
  · refine ⟨keeps.levels, keeps.fullBounds, keeps.visibleBounds, ?_⟩
    rintro _ ⟨⟩
    exact ⟨live, congrArg (fun rows => CandleGeometry.ofRows _ (mergeLive rows item.liveCandle)) rows⟩

theorem generate_picture_keeps (item : FastCandlestickItem α) (data : List (OhlcRow α)) : Keeps (item.generatePicture data) where
  levels := rfl
  fullBounds := rfl
  visibleBounds _ _ _ cached := by cases cached
  geometry _ signed := by cases signed

theorem slice_bounds (item : FastCandlestickItem α) (lo hi : ℕ) (keeps : Keeps item) :
    item.sliceBounds lo hi = priceBounds (slice lo hi item.historyData) := by
  rw [sliceBounds]
  cases cached : item.cachedVisibleBounds with
  | none => rfl
  | some entry =>
      obtain ⟨cachedLo, cachedHi, bounds⟩ := entry
      dsimp only
      split_ifs with same
      · obtain ⟨rfl, rfl⟩ := same
        exact keeps.visibleBounds _ _ _ cached
      · rfl

theorem data_bounds_keeps (item : FastCandlestickItem α) (minX maxX : α) (keeps : Keeps item) :
    Keeps (item.dataBounds minX maxX).2 := by
  rw [dataBounds]
  split_ifs
  · exact keeps
  · refine ⟨keeps.levels, keeps.fullBounds, ?_, keeps.geometry⟩
    rintro _ _ _ ⟨⟩
    exact slice_bounds item _ _ keeps

theorem call_keeps (item : FastCandlestickItem α) (made : CandleCall α) (keeps : Keeps item) : Keeps (item.call made) := by
  cases made with
  | generatePicture data => exact generate_picture_keeps item data
  | updateLiveCandle candle =>
      refine ⟨keeps.levels, keeps.fullBounds, keeps.visibleBounds, ?_⟩
      rintro _ ⟨⟩
  | appendClosedCandle candle =>
      have generated := generate_picture_keeps item (mergeLive item.historyData (some candle))
      refine ⟨generated.levels, generated.fullBounds, generated.visibleBounds, ?_⟩
      rintro _ ⟨⟩
  | paint view => exact paint_keeps item view keeps
  | dataBounds minX maxX => exact data_bounds_keeps item minX maxX keeps

theorem run_keeps (calls : List (CandleCall α)) (item : FastCandlestickItem α) (keeps : Keeps item) :
    Keeps (calls.foldl call item) := by
  induction calls generalizing item with
  | nil => exact keeps
  | cons first rest ih => exact ih _ (call_keeps item first keeps)

theorem run_opened_keeps (lodEnabled : Bool) (calls : List (CandleCall α)) :
    Keeps (calls.foldl call (opened lodEnabled)) :=
  run_keeps calls (opened lodEnabled) (opened_keeps lodEnabled)

@[simp] theorem paint_slice (item : FastCandlestickItem α) (view other : Option (ChartView α)) :
    (item.paint view).visibleRenderSlice other = item.visibleRenderSlice other := by
  rw [paint]
  dsimp only
  split_ifs <;> rfl

@[simp] theorem paint_live (item : FastCandlestickItem α) (view : Option (ChartView α)) :
    (item.paint view).liveCandle = item.liveCandle := by
  rw [paint]
  dsimp only
  split_ifs <;> rfl

theorem call_lod_enabled (item : FastCandlestickItem α) (made : CandleCall α) :
    (item.call made).lodEnabled = item.lodEnabled := by
  cases made with
  | generatePicture data => rfl
  | updateLiveCandle candle => rfl
  | appendClosedCandle candle => rfl
  | paint view =>
      rw [call, paint]
      dsimp only
      split_ifs <;> rfl
  | dataBounds minX maxX =>
      rw [call, dataBounds]
      split_ifs <;> rfl

theorem run_lod_enabled (calls : List (CandleCall α)) (item : FastCandlestickItem α) :
    (calls.foldl call item).lodEnabled = item.lodEnabled := by
  induction calls generalizing item with
  | nil => rfl
  | cons first rest ih => exact (ih _).trans (call_lod_enabled item first)

theorem painted (item : FastCandlestickItem α) (view : Option (ChartView α)) (keeps : Keeps item) :
    let slice := item.visibleRenderSlice view
    ∃ width, (width = slice.2.renderWidth ∨ PyFloat.Equal slice.2.renderWidth width) ∧
      (item.paint view).geometryBatches = .ofRows width (mergeLive slice.1 item.liveCandle) := by
  intro slice
  obtain ⟨rows, live⟩ := render_slice_rows item view keeps
  rw [paint]
  dsimp only
  split_ifs with skipped
  · obtain ⟨signed, isSigned, same⟩ := (Option.any_eq_true _ _).mp skipped
    obtain ⟨_, sameLevel, sameLo, sameHi, sameWidth, _⟩ := of_decide_eq_true same
    obtain ⟨_, batches⟩ := keeps.geometry signed isSigned
    refine ⟨signed.renderWidth, .inr sameWidth, ?_⟩
    rw [batches, ← sameLevel, ← sameLo, ← sameHi]
    exact congrArg (fun rows => CandleGeometry.ofRows _ (mergeLive rows item.liveCandle)) rows.symm
  · exact ⟨_, .inl rfl, rfl⟩

theorem rows_within_budget (item : FastCandlestickItem α) (view : ChartView α) (keeps : Keeps item)
    (enabled : item.lodEnabled = true) (wide : ¬ view.width ≤ PyFloat.literal 0) :
    (item.visibleRenderSlice (some view)).1.length ≤ targetBucketCount view.width + 1 := by
  rw [visibleRenderSlice]
  cases empty : item.historyData.isEmpty with
  | true =>
      rw [List.isEmpty_iff] at empty
      simp [empty]
  | false =>
      have few := drawn_few aggregateOhlcBucket item.historyData (item.window view.minX view.maxX).1
        (item.window view.minX view.maxX).2 view.width wide
      simp only [Option.filter_some, Bool.not_false, if_true, enabled, keeps.levels]
      exact few

end FastCandlestickItem

-- Whatever the calls, what is painted is the present candles: a geometry kept
-- for an unchanged signature is never a stale one, and none has more candles
-- than the pixel budget and the live one.
theorem painted_candles_fresh (lodEnabled : Bool) (calls : List (CandleCall α)) (view : Option (ChartView α)) :
    let item := (calls.foldl FastCandlestickItem.call (.opened lodEnabled)).paint view
    let slice := item.visibleRenderSlice view
    item.lodLevels = buildOhlcLodPyramid item.historyData ∧
      (∃ width, (width = slice.2.renderWidth ∨ PyFloat.Equal slice.2.renderWidth width) ∧
        item.geometryBatches = .ofRows width (mergeLive slice.1 item.liveCandle)) ∧
      ∀ box, view = some box → lodEnabled = true → ¬ box.width ≤ PyFloat.literal 0 →
        slice.1.length ≤ targetBucketCount box.width + 1 := by
  intro item slice
  have keeps := FastCandlestickItem.run_opened_keeps lodEnabled calls
  have same := FastCandlestickItem.paint_slice (calls.foldl FastCandlestickItem.call (.opened lodEnabled)) view view
  refine ⟨(FastCandlestickItem.paint_keeps _ view keeps).levels, ?_, ?_⟩
  · have batches := FastCandlestickItem.painted _ view keeps
    rw [← same] at batches
    rwa [← FastCandlestickItem.paint_live _ view] at batches
  · rintro box rfl enabled wide
    have few := FastCandlestickItem.rows_within_budget _ box keeps
      ((FastCandlestickItem.run_lod_enabled calls (.opened lodEnabled)).trans enabled) wide
    rwa [← same] at few

section Rationals

theorem FastCandlestickItem.window_visible (item : FastCandlestickItem ℚ) (minX maxX : ℚ)
    (ascending : (item.historyData.map (·.timestamp)).Pairwise (· ≤ ·)) :
    slice (item.window minX maxX).1 (item.window minX maxX).2 item.historyData =
      item.historyData.filter fun row => Decidable.decide
        (minX - item.candleWidth * 2 ≤ row.timestamp ∧ row.timestamp ≤ maxX + item.candleWidth * 2) :=
  visible_slice_filter (·.timestamp) item.historyData minX maxX (item.candleWidth * 2) ascending

def threeCandles : List (CandleCall ℚ) :=
  [.generatePicture [⟨0, 10, 12, 9, 11⟩, ⟨60, 11, 15, 10, 14⟩], .updateLiveCandle ⟨120, 14, 14, 6, 7⟩,
    .appendClosedCandle ⟨120, 14, 16, 5, 8⟩, .dataBounds 0 60, .updateLiveCandle ⟨180, 8, 9, 8, 9⟩]

theorem three_candles_ascend :
    ((threeCandles.foldl FastCandlestickItem.call (.opened true)).historyData.map (·.timestamp)).Pairwise (· ≤ ·) := by
  decide +kernel

-- In exact arithmetic, where the candles ascend in time: the rows to be drawn
-- stand for all candles of the padded range and for less than a bucket beyond
-- them at either end.
theorem drawn_candles_stand (lodEnabled : Bool) (calls : List (CandleCall ℚ)) (view : ChartView ℚ)
    (ascending : ((calls.foldl FastCandlestickItem.call (.opened lodEnabled)).historyData.map (·.timestamp)).Pairwise (· ≤ ·)) :
    let item := calls.foldl FastCandlestickItem.call (.opened lodEnabled)
    let padding := item.candleWidth * 2
    ∃ lo hi, Shows StandsForCandles item.historyData lo hi (2 ^ (item.visibleRenderSlice (some view)).2.level)
        (item.visibleRenderSlice (some view)).1 ∧
      slice lo hi item.historyData = item.historyData.filter fun row =>
        Decidable.decide (view.minX - padding ≤ row.timestamp ∧ row.timestamp ≤ view.maxX + padding) := by
  intro item padding
  have keeps := FastCandlestickItem.run_opened_keeps lodEnabled calls
  refine ⟨(item.window view.minX view.maxX).1, (item.window view.minX view.maxX).2, ?_,
    item.window_visible view.minX view.maxX ascending⟩
  rw [FastCandlestickItem.visibleRenderSlice]
  cases empty : item.historyData.isEmpty with
  | true =>
      rw [List.isEmpty_iff] at empty
      have nowhere : item.window view.minX view.maxX = (0, 0) := by
        rw [FastCandlestickItem.window, visibleSliceIndices, empty]
        exact Prod.ext (Nat.le_zero.mp (insertion_point_le _ [])) (Nat.le_zero.mp (insertion_point_le _ []))
      simp only [Option.filter_some, Bool.not_true, Bool.false_eq_true, if_false, empty, nowhere]
      exact ⟨0, 0, [], .nil, rfl, by simp⟩
  | false =>
      simp only [Option.filter_some, Bool.not_false, if_true]
      generalize leveled : (if item.lodEnabled = true then selectLodLevel ((item.window view.minX view.maxX).2 -
        (item.window view.minX view.maxX).1) view.width item.lodLevels.length else 0) = level
      have within : level ≤ (climb aggregateOhlcBucket item.historyData).length - 1 := by
        rw [← leveled, keeps.levels]
        split_ifs
        · exact select_lod_level_le _ view.width _
        · exact Nat.zero_le _
      rw [keeps.levels, buildOhlcLodPyramid, level_listed aggregateOhlcBucket item.historyData level within]
      exact level_shows aggregateOhlcBucket StandsForCandles item.historyData (ohlc_represents item.historyData ascending) _ _ _

theorem three_drawn_candles_stand :
    let item := threeCandles.foldl FastCandlestickItem.call (.opened true)
    let rows := (item.visibleRenderSlice (some ⟨0, 120, 3⟩)).1
    ∃ lo hi size, Shows StandsForCandles item.historyData lo hi size rows := by
  obtain ⟨lo, hi, shows, _⟩ := drawn_candles_stand true threeCandles ⟨0, 120, 3⟩ three_candles_ascend
  exact ⟨lo, hi, _, shows⟩

def Spans (rows : List (OhlcRow ℚ)) : Option (ℚ × ℚ) → Prop
  | none => rows = []
  | some (minY, maxY) =>
      IsLeast {low | low ∈ rows.map (·.lowPrice)} minY ∧ IsGreatest {high | high ∈ rows.map (·.highPrice)} maxY

theorem spans_filled (rows : List (OhlcRow ℚ)) (bounds : ℚ × ℚ) (spans : Spans rows (some bounds)) : rows ≠ [] := by
  rintro rfl
  cases spans.1.1

theorem price_bounds_span (rows : List (OhlcRow ℚ)) : Spans rows (priceBounds rows) := by
  cases rows with
  | nil => rfl
  | cons first rest =>
      have least := rat_smallest first.lowPrice (rest.map (·.lowPrice))
      have greatest := rat_largest first.highPrice (rest.map (·.highPrice))
      exact ⟨⟨least.1, fun low inside => least.2 low inside⟩, ⟨greatest.1, fun high inside => greatest.2 high inside⟩⟩

theorem with_live_spans (rows : List (OhlcRow ℚ)) (bounds : Option (ℚ × ℚ)) (live : Option (OhlcRow ℚ))
    (spans : Spans rows bounds) : Spans (rows ++ live.toList) (withLive bounds live) := by
  cases live with
  | none =>
      rw [Option.toList_none, List.append_nil]
      cases bounds <;> exact spans
  | some live =>
      cases bounds with
      | none =>
          obtain rfl : rows = [] := spans
          exact ⟨by simp, by simp⟩
      | some bounds =>
          have alone := price_bounds_span [live]
          have least := spans.1.union alone.1
          have greatest := spans.2.union alone.2
          rw [← rat_smaller, ← values_append] at least
          rw [← rat_larger, ← values_append] at greatest
          exact ⟨least, greatest⟩

theorem whole_spans (item : FastCandlestickItem ℚ) (keeps : item.Keeps) : Spans item.historyData item.wholeBounds := by
  have spans := price_bounds_span item.historyData
  rw [FastCandlestickItem.wholeBounds, keeps.fullBounds]
  cases held : item.historyData with
  | nil =>
      have invalid : ¬ (FastCandlestickItem.recomputeFullBounds item.candleWidth []).isValid = true := by
        simp [FastCandlestickItem.recomputeFullBounds, BoundsRect.null, BoundsRect.isValid]
      rw [if_neg invalid]
      rfl
  | cons first rest =>
      split_ifs with valid
      · have height (low high : ℚ) : low + (high - low) = high := by ring
        rw [held] at spans
        rw [FastCandlestickItem.recomputeFullBounds]
        dsimp only
        rw [height]
        exact spans
      · exact held ▸ spans

-- In exact arithmetic, where the candles ascend in time: after whatever calls,
-- the view is to span exactly the candles it shows, or all where it shows none.
theorem data_bounds_span_shown (lodEnabled : Bool) (calls : List (CandleCall ℚ)) (minX maxX : ℚ)
    (ascending : ((calls.foldl FastCandlestickItem.call (.opened lodEnabled)).historyData.map (·.timestamp)).Pairwise (· ≤ ·)) :
    let item := calls.foldl FastCandlestickItem.call (.opened lodEnabled)
    let padding := item.candleWidth * 2
    let shown := (item.historyData.filter fun row =>
        Decidable.decide (minX - padding ≤ row.timestamp ∧ row.timestamp ≤ maxX + padding)) ++
      (item.liveIn minX maxX).toList
    (shown ≠ [] → Spans shown (item.dataBounds minX maxX).1) ∧
      (shown = [] → Spans (item.historyData ++ item.liveCandle.toList) (item.dataBounds minX maxX).1) := by
  intro item padding shown
  have keeps := FastCandlestickItem.run_opened_keeps lodEnabled calls
  have visible := item.window_visible minX maxX ascending
  have spans := with_live_spans _ _ (item.liveIn minX maxX)
    (price_bounds_span (slice (item.window minX maxX).1 (item.window minX maxX).2 item.historyData))
  have whole := with_live_spans _ _ item.liveCandle (whole_spans item keeps)
  rw [visible] at spans
  rw [FastCandlestickItem.dataBounds]
  dsimp only
  rw [FastCandlestickItem.slice_bounds item _ _ keeps, visible]
  by_cases vacant : (item.historyData.isEmpty && item.liveCandle.isNone) = true
  · rw [if_pos vacant]
    rw [Bool.and_eq_true, List.isEmpty_iff, Option.isNone_iff_eq_none] at vacant
    have nothing : shown = [] := by simp [shown, FastCandlestickItem.liveIn, vacant.1, vacant.2]
    refine ⟨fun some => absurd nothing some, fun _ => ?_⟩
    rw [vacant.1, vacant.2]
    rfl
  · rw [if_neg vacant]
    dsimp only
    cases bounded : withLive (priceBounds (item.historyData.filter fun row =>
        Decidable.decide (minX - padding ≤ row.timestamp ∧ row.timestamp ≤ maxX + padding))) (item.liveIn minX maxX) with
    | none =>
        rw [bounded] at spans
        exact ⟨fun some => absurd spans some, fun _ => whole⟩
    | some bounds =>
        rw [bounded] at spans
        exact ⟨fun _ => spans, fun nothing => absurd nothing (spans_filled _ bounds spans)⟩

theorem three_candles_spanned :
    let item := threeCandles.foldl FastCandlestickItem.call (.opened true)
    ∃ bounds, (item.dataBounds 0 200).1 = some bounds := by
  intro item
  have live : item.liveIn 0 200 = some ⟨180, 8, 9, 8, 9⟩ := by decide +kernel
  obtain ⟨spanned, _⟩ := data_bounds_span_shown true threeCandles 0 200 three_candles_ascend
  cases told : (item.dataBounds 0 200).1 with
  | some bounds => exact ⟨bounds, rfl⟩
  | none =>
      have shown := spanned (by rw [live]; exact List.append_ne_nil_of_right_ne_nil _ (List.cons_ne_nil _ _))
      rw [told] at shown
      exact absurd (List.append_eq_nil_iff.mp shown).2 (by rw [live]; exact List.cons_ne_nil _ _)

theorem rat_absolute (q : ℚ) : PyFloat.absolute q = |q| := by
  show (if q < 0 then -q else q) = |q|
  split_ifs with negative
  · exact (abs_of_neg negative).symm
  · exact (abs_of_nonneg (not_lt.mp negative)).symm

def Nearest (rows : List (OhlcRow ℚ)) (x : ℚ) (near : OhlcRow ℚ) : Prop :=
  near ∈ rows ∧ ∀ row ∈ rows, |near.timestamp - x| ≤ |row.timestamp - x|

theorem nearest_in_history (item : FastCandlestickItem ℚ) (x : ℚ) (filled : item.historyData ≠ [])
    (ascending : (item.historyData.map (·.timestamp)).Pairwise (· ≤ ·)) :
    ∃ near, item.nearestInHistory x = some near ∧ Nearest item.historyData x near := by
  have positive := List.length_pos_iff.mpr filled
  have stops : StopsOnce (fun row => Decidable.decide (row.timestamp < x)) item.historyData :=
    ascending_stops (·.timestamp) item.historyData ascending _ fun first second ordered later =>
      decide_eq_true (lt_of_le_of_lt ordered (of_decide_eq_true later))
  have splits := insertion_point_splits _ item.historyData stops
  have ordered (i j : ℕ) (first second : OhlcRow ℚ) (isFirst : item.historyData[i]? = some first)
      (isSecond : item.historyData[j]? = some second) (upTo : i ≤ j) : first.timestamp ≤ second.timestamp := by
    obtain ⟨inside, rfl⟩ := List.getElem?_eq_some_iff.mp isFirst
    obtain ⟨within, rfl⟩ := List.getElem?_eq_some_iff.mp isSecond
    obtain rfl | less := upTo.eq_or_lt
    · exact le_refl _
    · exact List.pairwise_iff_getElem.mp (List.pairwise_map.mp ascending) i j inside within less
  rw [FastCandlestickItem.nearestInHistory]
  generalize insertionPoint (fun row => Decidable.decide (row.timestamp < x)) item.historyData = index at splits
  have under (i : ℕ) (row : OhlcRow ℚ) (isRow : item.historyData[i]? = some row) (early : i < index) : row.timestamp < x :=
    of_decide_eq_true ((splits i row isRow).mpr early)
  have beyond (i : ℕ) (row : OhlcRow ℚ) (isRow : item.historyData[i]? = some row) (late : index ≤ i) : x ≤ row.timestamp :=
    not_lt.mp fun less => absurd ((splits i row isRow).mp (decide_eq_true less)) (Nat.not_lt.mpr late)
  have placed (near : OhlcRow ℚ) (place : ℕ) (isNear : item.historyData[place]? = some near)
      (least : ∀ (i : ℕ) row, item.historyData[i]? = some row → |near.timestamp - x| ≤ |row.timestamp - x|) :
      Nearest item.historyData x near := by
    refine ⟨List.mem_of_getElem? isNear, fun row inside => ?_⟩
    obtain ⟨i, isRow⟩ := List.mem_iff_getElem?.mp inside
    exact least i row isRow
  have held (place : ℕ) (inside : place < item.historyData.length) : ∃ row, item.historyData[place]? = some row :=
    ⟨_, List.getElem?_eq_getElem inside⟩
  split_ifs with atStart atEnd
  · obtain ⟨head, isHead⟩ := held 0 positive
    refine ⟨_, List.head?_eq_getElem? ▸ isHead, placed _ 0 isHead fun i row isRow => ?_⟩
    have from_x := beyond 0 _ isHead (by omega)
    have upward := ordered 0 i _ row isHead isRow (Nat.zero_le i)
    rw [abs_of_nonneg (by linarith), abs_of_nonneg (by linarith)]
    linarith
  · obtain ⟨last, isLast⟩ := held (item.historyData.length - 1) (by omega)
    refine ⟨_, List.getLast?_eq_getElem? ▸ isLast, placed _ _ isLast fun i row isRow => ?_⟩
    obtain ⟨inside, -⟩ := List.getElem?_eq_some_iff.mp isRow
    have to_x := under _ _ isLast (by omega)
    have downward := ordered i _ row _ isRow isLast (by omega)
    rw [abs_of_nonpos (by linarith), abs_of_nonpos (by linarith)]
    linarith
  · obtain ⟨before, isBefore⟩ := held (index - 1) (by omega)
    obtain ⟨after, isAfter⟩ := held index (by omega)
    have to_x := under _ before isBefore (by omega)
    have from_x := beyond _ after isAfter (le_refl _)
    have sides (i : ℕ) (row : OhlcRow ℚ) (isRow : item.historyData[i]? = some row) :
        row.timestamp ≤ before.timestamp ∨ after.timestamp ≤ row.timestamp := by
      by_cases early : i < index
      · exact .inl (ordered i _ row before isRow isBefore (by omega))
      · exact .inr (ordered _ i after row isAfter isRow (by omega))
    rw [isBefore, isAfter]
    refine ⟨_, rfl, ?_⟩
    split_ifs with nearer
    · refine placed before _ isBefore fun i row isRow => ?_
      rw [abs_of_nonpos (by linarith)]
      obtain left | right := sides i row isRow
      · rw [abs_of_nonpos (by linarith)]
        linarith
      · rw [abs_of_nonneg (by linarith)]
        linarith
    · refine placed after _ isAfter fun i row isRow => ?_
      rw [abs_of_nonneg (by linarith)]
      obtain left | right := sides i row isRow
      · rw [abs_of_nonpos (by linarith)]
        linarith
      · rw [abs_of_nonneg (by linarith)]
        linarith

-- The candle told of a place on the axis is one of those held, the live one
-- included, and none is nearer.
theorem ohlc_at_nearest (item : FastCandlestickItem ℚ) (x : ℚ)
    (ascending : (item.historyData.map (·.timestamp)).Pairwise (· ≤ ·)) :
    let candles := item.historyData ++ item.liveCandle.toList
    (candles = [] → item.getOhlcAt x = none) ∧
      (candles ≠ [] → ∃ near, item.getOhlcAt x = some near ∧ Nearest candles x near) := by
  intro candles
  rw [FastCandlestickItem.getOhlcAt]
  by_cases vacant : item.historyData = []
  · rw [if_pos (List.isEmpty_iff.mpr vacant)]
    cases live : item.liveCandle with
    | none => exact ⟨fun _ => rfl, fun some => absurd (by simp [candles, vacant, live]) some⟩
    | some near =>
        have only : candles = [near] := by simp [candles, vacant, live]
        refine ⟨fun nothing => absurd (only ▸ nothing) (List.cons_ne_nil _ _), fun _ => ⟨near, rfl, ?_⟩⟩
        rw [only]
        exact ⟨List.mem_singleton_self near, fun row inside => List.mem_singleton.mp inside ▸ le_refl _⟩
  · rw [if_neg (List.isEmpty_iff.not.mpr vacant)]
    obtain ⟨near, found, inside, least⟩ := nearest_in_history item x vacant ascending
    refine ⟨fun nothing => absurd (List.append_eq_nil_iff.mp nothing).1 vacant, fun _ => ?_⟩
    rw [found]
    cases live : item.liveCandle with
    | none =>
        refine ⟨near, rfl, ?_⟩
        rw [show candles = item.historyData by simp [candles, live]]
        exact ⟨inside, least⟩
    | some liveCandle =>
        have members (row : OhlcRow ℚ) : row ∈ candles ↔ row ∈ item.historyData ∨ row = liveCandle := by
          simp [candles, live]
        dsimp only
        rw [rat_absolute, rat_absolute]
        split_ifs with nearer
        · refine ⟨liveCandle, rfl, (members _).mpr (.inr rfl), fun row held => ?_⟩
          obtain older | rfl := (members row).mp held
          · exact nearer.le.trans (least row older)
          · exact le_refl _
        · refine ⟨near, rfl, (members _).mpr (.inl inside), fun row held => ?_⟩
          obtain older | rfl := (members row).mp held
          · exact least row older
          · exact not_lt.mp nearer

theorem three_candles_nearest :
    let item := threeCandles.foldl FastCandlestickItem.call (.opened true)
    ∃ near, item.getOhlcAt 70 = some near ∧ Nearest (item.historyData ++ item.liveCandle.toList) 70 near := by
  intro item
  exact (ohlc_at_nearest item 70 three_candles_ascend).2 (by decide +kernel)

end Rationals

end Sagittarius
