import Sagittarius.Library.Runs
import Sagittarius.Screen.ActiveScript
import Sagittarius.Strategies.Registry

set_option autoImplicit false

namespace Sagittarius

open Dicts

variable {σ ι ρ α : Type}

-- The methods of strategy instances of type `σ`, whose indicators of type `ι`
-- read values of type `ρ`.
structure BaseStrategy (σ ι ρ α : Type) where
  buildIndicators : σ → Except PyError (Dict String ι × σ)
  update : ι → α → Except PyError (Option ρ × ι)
  classifyTrendZone : σ → MarketData α → Dict String ρ → Except PyError (Option TrendZone × σ)

def bullColor : String := "#26a69a"

def bearColor : String := "#ef5350"

def TrendZone.color : TrendZone → String
  | .up => bullColor
  | .down => bearColor

def minZoneBars : ℕ := 3

def zoneOpacity [PyFloat α] : α := PyFloat.literal (15 / 100)

structure OpenZone (α : Type) where
  zone : TrendZone
  start : α
  stop : α
  barCount : ℕ
deriving DecidableEq

def OpenZone.span [PyFloat α] (opened : OpenZone α) : RegionSpan α :=
  ⟨opened.start, opened.stop, opened.zone.color, zoneOpacity⟩

structure TrendZones (α : Type) where
  spans : List (RegionSpan α) := []
  opened : Option (OpenZone α) := none
deriving DecidableEq

namespace TrendZones

variable [PyFloat α]

def close (zones : TrendZones α) : List (RegionSpan α) :=
  match zones.opened with
  | some opened => if minZoneBars ≤ opened.barCount then zones.spans ++ [opened.span] else zones.spans
  | none => zones.spans

def record (zones : TrendZones α) (timestamp : α) (zone : Option TrendZone) : TrendZones α :=
  match zones.opened.filter fun opened => zone = some opened.zone with
  | some opened => { zones with opened := some { opened with stop := timestamp, barCount := opened.barCount + 1 } }
  | none => { spans := zones.close, opened := zone.map fun zone => ⟨zone, timestamp, timestamp, 1⟩ }

end TrendZones

structure ZoneReader (σ ι : Type) where
  strategy : σ
  indicators : List (String × ι)

structure ZoneReplay (σ ι α : Type) where
  reader : ZoneReader σ ι
  zones : TrendZones α := {}

namespace BaseStrategy

variable (methods : BaseStrategy σ ι ρ α)

def readIndicator (price : α) (read : Dict String ρ × List (String × ι)) (entry : String × ι) :
    Except PyError (Dict String ρ × List (String × ι)) := do
  let (value, indicator) ← methods.update entry.2 price
  let values := match value with
    | some value => read.1.set entry.1 value
    | none => read.1
  return (values, read.2 ++ [(entry.1, indicator)])

-- The zone of a bar has no say before every indicator has a value.
def readZone (reader : ZoneReader σ ι) (candle : MarketData α) : Except PyError (Option TrendZone × ZoneReader σ ι) := do
  let (values, indicators) ← reader.indicators.foldlM (methods.readIndicator candle.closePrice) (.empty, [])
  if values.members.length = indicators.length then
    let (zone, strategy) ← methods.classifyTrendZone reader.strategy candle values
    return (zone, { strategy, indicators })
  return (none, { reader with indicators })

def start (strategy : σ) : Except PyError (ZoneReader σ ι) := do
  let (indicators, strategy) ← methods.buildIndicators strategy
  return { strategy, indicators := indicators.members }

def zonesFrom : ZoneReader σ ι → List (MarketData α) → Except PyError (List (Option TrendZone))
  | _, [] => .ok []
  | reader, candle :: rest => do
      let (zone, next) ← methods.readZone reader candle
      let zones ← zonesFrom next rest
      return zone :: zones

def barZones (strategy : σ) (klines : List (MarketData α)) : Except PyError (List (Option TrendZone)) := do
  let reader ← methods.start strategy
  methods.zonesFrom reader klines

variable [PyFloat α]

def replayBar (replay : ZoneReplay σ ι α) (candle : MarketData α) : Except PyError (ZoneReplay σ ι α) := do
  let (zone, reader) ← methods.readZone replay.reader candle
  return { reader, zones := replay.zones.record (candleTimestamp candle) zone }

def computeStrategyTrendZones (strategy : σ) (klines : List (MarketData α)) : Except PyError (List (RegionSpan α)) := do
  let reader ← methods.start strategy
  let replay ← klines.foldlM methods.replayBar { reader }
  return replay.zones.close

end BaseStrategy

def registeredStrategy [PyFloat α] : BaseStrategy (Strategy α) (Indicator α) (IndicatorValue α) α where
  buildIndicators strategy := .ok (.ofMembers strategy.buildIndicators, strategy)
  update indicator price := .ok (indicator.update price)
  classifyTrendZone strategy candle values := do
    let zone ← strategy.classifyTrendZone { candle, indicators := values.members }
    return (zone, strategy)

structure ZoneRun where
  zone : TrendZone
  first : ℕ
  last : ℕ
deriving DecidableEq

namespace ZoneRun

def bars (run : ZoneRun) : ℕ := run.last + 1 - run.first

def MaximalIn (zones : List (Option TrendZone)) (run : ZoneRun) : Prop :=
  Runs.Maximal zones (some run.zone) run.first run.last

def LongIn (zones : List (Option TrendZone)) (run : ZoneRun) : Prop := run.MaximalIn zones ∧ minZoneBars ≤ run.bars

def Draws [PyFloat α] (klines : List (MarketData α)) (run : ZoneRun) (span : RegionSpan α) : Prop :=
  ∃ firstBar lastBar, klines[run.first]? = some firstBar ∧ klines[run.last]? = some lastBar ∧
    span = ⟨candleTimestamp firstBar, candleTimestamp lastBar, run.zone.color, zoneOpacity⟩

def Precedes (klines : List (MarketData α)) (a b : ZoneRun) : Prop :=
  a.last < b.first ∧ ∃ lastBar firstBar, klines[a.last]? = some lastBar ∧ klines[b.first]? = some firstBar ∧
    lastBar.closeTime < firstBar.closeTime

end ZoneRun

open ZoneRun

variable [PyFloat α]

theorem draws_append (klines : List (MarketData α)) (candle : MarketData α) (run : ZoneRun) (span : RegionSpan α)
    (draws : run.Draws klines span) : run.Draws (klines ++ [candle]) span := by
  obtain ⟨firstBar, lastBar, isFirst, isLast, drawn⟩ := draws
  refine ⟨firstBar, lastBar, ?_, ?_, drawn⟩
  · rw [List.getElem?_append_left (List.getElem?_eq_some_iff.mp isFirst).1, isFirst]
  · rw [List.getElem?_append_left (List.getElem?_eq_some_iff.mp isLast).1, isLast]

structure Collected (klines : List (MarketData α)) (wanted : ZoneRun → Prop) (spans : List (RegionSpan α))
    (runs : List ZoneRun) : Prop where
  drawn : List.Forall₂ (Draws klines) runs spans
  exactly : ∀ run, run ∈ runs ↔ wanted run
  apart : runs.Pairwise fun a b => a.last < b.first

theorem collected_append (klines : List (MarketData α)) (candle : MarketData α) (wanted others : ZoneRun → Prop)
    (spans : List (RegionSpan α)) (runs : List ZoneRun) (collected : Collected klines wanted spans runs)
    (same : ∀ run, wanted run ↔ others run) : Collected (klines ++ [candle]) others spans runs where
  drawn := collected.drawn.imp fun run span => draws_append klines candle run span
  exactly := fun run => (collected.exactly run).trans (same run)
  apart := collected.apart

theorem collected_concat (klines : List (MarketData α)) (wanted others : ZoneRun → Prop) (spans : List (RegionSpan α))
    (span : RegionSpan α) (runs : List ZoneRun) (run : ZoneRun) (collected : Collected klines wanted spans runs)
    (draws : run.Draws klines span) (same : ∀ other, others other ↔ wanted other ∨ other = run)
    (later : ∀ other, wanted other → other.last < run.first) :
    Collected klines others (spans ++ [span]) (runs ++ [run]) where
  drawn := List.rel_append collected.drawn (.cons draws .nil)
  exactly := by
    intro other
    rw [List.mem_append, List.mem_singleton, collected.exactly, same]
  apart := by
    refine List.pairwise_append.mpr ⟨collected.apart, List.pairwise_singleton .., fun other isEarlier added isAdded => ?_⟩
    cases List.mem_singleton.mp isAdded
    exact later other ((collected.exactly other).mp isEarlier)

def Opened (klines : List (MarketData α)) (zones : List (Option TrendZone)) : Option (OpenZone α) → Prop
  | none => ∀ zone before, before + 1 = zones.length → zones[before]? ≠ some (some zone)
  | some opened =>
      ∃ run : ZoneRun, run.MaximalIn zones ∧ run.last + 1 = zones.length ∧ run.zone = opened.zone ∧
        run.bars = opened.barCount ∧ run.Draws klines opened.span

structure Tracks (klines : List (MarketData α)) (zones : List (Option TrendZone)) (state : TrendZones α) : Prop where
  closed : ∃ runs, Collected klines (fun run => run.LongIn zones ∧ run.last + 1 < zones.length) state.spans runs
  opened : Opened klines zones state.opened

section

variable (klines : List (MarketData α)) (zones : List (Option TrendZone)) (state : TrendZones α)

theorem run_within (run : ZoneRun) (maximal : run.MaximalIn zones) : run.last + 1 ≤ zones.length :=
  Runs.maximal_last_lt zones _ run.first run.last maximal

theorem runs_same (run other : ZoneRun) (maximal : run.MaximalIn zones) (otherMaximal : other.MaximalIn zones)
    (same : run.last = other.last) : run = other := by
  obtain ⟨zone, first, last⟩ := run
  obtain ⟨otherZone, next, stop⟩ := other
  cases same
  obtain ⟨sameZone, sameFirst⟩ := Runs.maximal_unique zones _ first last _ next maximal otherMaximal
  cases sameZone
  cases sameFirst
  rfl

theorem opened_before (tracks : Tracks klines zones state) (zone : TrendZone) (before : ℕ)
    (isBefore : before + 1 = zones.length) (had : zones[before]? = some (some zone)) :
    ∃ opened, state.opened = some opened ∧ zone = opened.zone := by
  have openRun := tracks.opened
  cases isOpen : state.opened with
  | none =>
      rw [isOpen] at openRun
      exact absurd had (openRun zone before isBefore)
  | some opened =>
      rw [isOpen] at openRun
      obtain ⟨run, maximal, ends, sameZone, _, _⟩ := openRun
      have atEnd := maximal.uniform run.last maximal.ordered (Nat.le_refl _)
      rw [Nat.succ.inj (ends.trans isBefore.symm), had] at atEnd
      cases atEnd
      exact ⟨opened, rfl, sameZone⟩

theorem opened_run (tracks : Tracks klines zones state) (run : ZoneRun) (maximal : run.MaximalIn zones)
    (ends : run.last + 1 = zones.length) : ∃ opened, state.opened = some opened ∧ run.zone = opened.zone :=
  opened_before klines zones state tracks run.zone run.last ends
    (maximal.uniform run.last maximal.ordered (Nat.le_refl _))

theorem collected_complete (spans : List (RegionSpan α)) (runs : List ZoneRun)
    (collected : Collected klines (fun run => run.LongIn zones ∧ run.last + 1 < zones.length) spans runs)
    (noneEnds : ∀ run : ZoneRun, run.LongIn zones → run.last + 1 ≠ zones.length) :
    Collected klines (ZoneRun.LongIn zones) spans runs where
  drawn := collected.drawn
  exactly := fun run => (collected.exactly run).trans
    ⟨And.left, fun long => ⟨long, Nat.lt_of_le_of_ne (run_within zones run long.1) (noneEnds run long)⟩⟩
  apart := collected.apart

theorem close_collected (tracks : Tracks klines zones state) :
    ∃ runs, Collected klines (ZoneRun.LongIn zones) state.close runs := by
  obtain ⟨runs, collected⟩ := tracks.closed
  cases isOpen : state.opened with
  | none =>
      refine ⟨runs, ?_⟩
      rw [TrendZones.close, isOpen]
      refine collected_complete klines zones state.spans runs collected fun run long ends => ?_
      obtain ⟨opened, held, _⟩ := opened_run klines zones state tracks run long.1 ends
      exact absurd (held.symm.trans isOpen) (Option.some_ne_none opened)
  | some opened =>
      have openRun := tracks.opened
      rw [isOpen] at openRun
      obtain ⟨run, maximal, ends, sameZone, count, draws⟩ := openRun
      have atEnd (other : ZoneRun) (long : other.LongIn zones) (otherEnds : other.last + 1 = zones.length) : other = run :=
        runs_same zones other run long.1 maximal (Nat.succ.inj (otherEnds.trans ends.symm))
      rw [TrendZones.close, isOpen]
      dsimp only
      by_cases long : minZoneBars ≤ opened.barCount
      · refine ⟨runs ++ [run], ?_⟩
        rw [if_pos long]
        refine collected_concat klines _ _ _ _ runs run collected draws (fun other => ⟨fun otherLong => ?_, ?_⟩) ?_
        · by_cases otherEnds : other.last + 1 = zones.length
          · exact .inr (atEnd other otherLong otherEnds)
          · exact .inl ⟨otherLong, Nat.lt_of_le_of_ne (run_within zones other otherLong.1) otherEnds⟩
        · rintro (earlier | same)
          · exact earlier.1
          · rw [same]
            exact ⟨maximal, count ▸ long⟩
        · intro other earlier
          exact Runs.maximal_apart zones _ other.first other.last _ run.first run.last earlier.1.1 maximal (by omega)
      · refine ⟨runs, ?_⟩
        rw [if_neg long]
        refine collected_complete klines zones state.spans runs collected fun other otherLong otherEnds => ?_
        cases atEnd other otherLong otherEnds
        exact long (count ▸ otherLong.2)

theorem long_append (added : Option TrendZone) (run : ZoneRun) :
    run.LongIn (zones ++ [added]) ∧ run.last + 1 < (zones ++ [added]).length ↔
      run.LongIn zones ∧ (run.last + 1 = zones.length → added ≠ some run.zone) := by
  rw [List.length_append, List.length_singleton]
  constructor
  · rintro ⟨⟨maximal, long⟩, inside⟩
    have earlier := (Runs.maximal_append zones _ added run.first run.last (Nat.lt_of_succ_lt_succ inside)).mp maximal
    exact ⟨⟨earlier.1, long⟩, earlier.2⟩
  · rintro ⟨⟨maximal, long⟩, different⟩
    have within := run_within zones run maximal
    refine ⟨⟨?_, long⟩, Nat.lt_succ_of_le within⟩
    exact (Runs.maximal_append zones _ added run.first run.last within).mpr ⟨maximal, different⟩

variable (candle : MarketData α) (aligned : klines.length = zones.length)

include aligned

theorem draws_last (zone : TrendZone) :
    (ZoneRun.mk zone zones.length zones.length).Draws (klines ++ [candle])
      (OpenZone.mk zone (candleTimestamp candle) (candleTimestamp candle) 1).span := by
  have isLast : (klines ++ [candle])[zones.length]? = some candle := by rw [← aligned, List.getElem?_concat_length]
  exact ⟨candle, candle, isLast, isLast, rfl⟩

theorem continue_opened (opened : OpenZone α) (running : Opened klines zones (some opened)) :
    Opened (klines ++ [candle]) (zones ++ [some opened.zone])
      (some { opened with stop := candleTimestamp candle, barCount := opened.barCount + 1 }) := by
  obtain ⟨⟨zone, first, last⟩, maximal, ends, sameZone, count, firstBar, lastBar, isFirst, _, drawn⟩ := running
  cases sameZone
  have ordered : first ≤ last := maximal.ordered
  refine ⟨⟨opened.zone, first, last + 1⟩, Runs.maximal_extend zones _ first last maximal ends, ?_, rfl, ?_, ?_⟩
  · rw [List.length_append, List.length_singleton, ← ends]
  · have counted : last + 1 - first = opened.barCount := count
    show last + 1 + 1 - first = opened.barCount + 1
    omega
  · refine ⟨firstBar, candle, ?_, ?_, ?_⟩
    · rw [List.getElem?_append_left (List.getElem?_eq_some_iff.mp isFirst).1, isFirst]
    · dsimp only
      rw [ends, ← aligned, List.getElem?_concat_length]
    · have start : opened.start = candleTimestamp firstBar := congrArg RegionSpan.start drawn
      rw [OpenZone.span, start]

theorem start_opened (zone : TrendZone)
    (fresh : ∀ before, before + 1 = zones.length → zones[before]? ≠ some (some zone)) :
    Opened (klines ++ [candle]) (zones ++ [some zone])
      (some ⟨zone, candleTimestamp candle, candleTimestamp candle, 1⟩) := by
  refine ⟨⟨zone, zones.length, zones.length⟩, Runs.maximal_start zones _ fresh, ?_, rfl, ?_, ?_⟩
  · rw [List.length_append, List.length_singleton]
  · dsimp only [ZoneRun.bars]
    omega
  · exact draws_last klines zones candle aligned zone

theorem record_tracks (tracks : Tracks klines zones state) (zone : Option TrendZone) :
    Tracks (klines ++ [candle]) (zones ++ [zone]) (state.record (candleTimestamp candle) zone) := by
  unfold TrendZones.record
  split
  · rename_i opened continues
    obtain ⟨isOpen, same⟩ := Option.filter_eq_some_iff.mp continues
    cases of_decide_eq_true same
    obtain ⟨runs, collected⟩ := tracks.closed
    refine ⟨⟨runs, collected_append klines candle _ _ _ runs collected fun run => ?_⟩, ?_⟩
    · rw [long_append]
      refine and_congr_right fun long => ⟨fun inside ends => absurd ends (Nat.ne_of_lt inside), fun different => ?_⟩
      refine Nat.lt_of_le_of_ne (run_within zones run long.1) fun ends => different ends ?_
      obtain ⟨held, isHeld, sameZone⟩ := opened_run klines zones state tracks run long.1 ends
      cases isOpen.symm.trans isHeld
      rw [sameZone]
    · exact continue_opened klines zones candle aligned opened (isOpen ▸ tracks.opened)
  · rename_i ended
    have apart (held : TrendZone) (opened : OpenZone α) (isOpen : state.opened = some opened)
        (sameZone : held = opened.zone) : zone ≠ some held := by
      intro same
      rw [isOpen, same, sameZone, Option.filter_some, if_pos (decide_eq_true rfl)] at ended
      cases ended
    obtain ⟨runs, collected⟩ := close_collected klines zones state tracks
    refine ⟨⟨runs, collected_append klines candle _ _ _ runs collected fun run => ?_⟩, ?_⟩
    · rw [long_append]
      refine ⟨fun long => ⟨long, fun ends => ?_⟩, And.left⟩
      obtain ⟨opened, isOpen, sameZone⟩ := opened_run klines zones state tracks run long.1 ends
      exact apart run.zone opened isOpen sameZone
    · cases zone with
      | none =>
          intro held before isBefore
          rw [List.length_append, List.length_singleton] at isBefore
          rw [Nat.succ.inj isBefore, List.getElem?_concat_length]
          simp
      | some zone =>
          refine start_opened klines zones candle aligned zone fun before isBefore had => ?_
          obtain ⟨opened, isOpen, sameZone⟩ := opened_before klines zones state tracks zone before isBefore had
          exact apart zone opened isOpen sameZone rfl

end

def TrendZones.recordAll (state : TrendZones α) (bars : List (MarketData α × Option TrendZone)) : TrendZones α :=
  bars.foldl (fun state bar => state.record (candleTimestamp bar.1) bar.2) state

theorem record_all_tracks (bars : List (MarketData α × Option TrendZone)) :
    Tracks (bars.map Prod.fst) (bars.map Prod.snd) (TrendZones.recordAll {} bars) := by
  induction bars using List.reverseRecOn with
  | nil =>
      refine ⟨⟨[], .nil, fun run => ⟨fun listed => absurd listed List.not_mem_nil, fun long => ?_⟩, .nil⟩, ?_⟩
      · exact absurd long.2 (Nat.not_lt_zero _)
      · intro zone before isBefore
        cases isBefore
  | append_singleton bars bar ih =>
      rw [TrendZones.recordAll, List.foldl_concat, List.map_append, List.map_append]
      exact record_tracks _ _ _ bar.1 (by rw [List.length_map, List.length_map]) ih bar.2

section

variable (methods : BaseStrategy σ ι ρ α)

omit [PyFloat α] in
theorem zones_length (reader : ZoneReader σ ι) (klines : List (MarketData α)) (zones : List (Option TrendZone))
    (seen : methods.zonesFrom reader klines = .ok zones) : zones.length = klines.length := by
  induction klines generalizing reader zones with
  | nil =>
      cases seen
      rfl
  | cons candle rest ih =>
      obtain ⟨⟨zone, next⟩, _, later⟩ := bind_ok _ _ _ seen
      obtain ⟨others, continued, isZones⟩ := bind_ok _ _ _ later
      cases isZones
      rw [List.length_cons, List.length_cons, ih next others continued]

-- The loop is the strategy's reading of every bar and then the segmentation.
theorem replay_bars (replay : ZoneReplay σ ι α) (klines : List (MarketData α)) :
    ZoneReplay.zones <$> klines.foldlM methods.replayBar replay =
      (fun zones => replay.zones.recordAll (klines.zip zones)) <$> methods.zonesFrom replay.reader klines := by
  induction klines generalizing replay with
  | nil => rfl
  | cons candle rest ih =>
      rw [List.foldlM_cons, BaseStrategy.replayBar, BaseStrategy.zonesFrom]
      cases read : methods.readZone replay.reader candle with
      | error raised => rfl
      | ok result =>
          obtain ⟨zone, reader⟩ := result
          have continued := ih { reader, zones := replay.zones.record (candleTimestamp candle) zone }
          simp only [bind, Except.bind, pure, Except.pure] at continued ⊢
          rw [continued]
          cases methods.zonesFrom reader rest with
          | error raised => rfl
          | ok zones => rfl

theorem compute_zones (strategy : σ) (klines : List (MarketData α)) :
    methods.computeStrategyTrendZones strategy klines =
      (fun zones => (TrendZones.recordAll {} (klines.zip zones)).close) <$> methods.barZones strategy klines := by
  rw [BaseStrategy.computeStrategyTrendZones, BaseStrategy.barZones]
  cases methods.start strategy with
  | error raised => rfl
  | ok reader =>
      have replayed := congrArg (fun zones => TrendZones.close <$> zones) (replay_bars methods { reader } klines)
      dsimp only at replayed
      rw [Functor.map_map, Functor.map_map] at replayed
      rw [← bind_pure_comp] at replayed
      exact replayed

theorem computed_collected (strategy : σ) (klines : List (MarketData α)) (zones : List (Option TrendZone))
    (seen : methods.barZones strategy klines = .ok zones) :
    zones.length = klines.length ∧ ∃ runs spans, methods.computeStrategyTrendZones strategy klines = .ok spans ∧
      Collected klines (ZoneRun.LongIn zones) spans runs := by
  obtain ⟨reader, _, read⟩ := bind_ok _ _ _ seen
  have aligned := zones_length methods reader klines zones read
  have tracks := record_all_tracks (klines.zip zones)
  rw [List.map_fst_zip aligned.ge, List.map_snd_zip aligned.le] at tracks
  obtain ⟨runs, collected⟩ := close_collected klines zones _ tracks
  refine ⟨aligned, runs, (TrendZones.recordAll {} (klines.zip zones)).close, ?_, collected⟩
  rw [compute_zones, seen]
  rfl

omit [PyFloat α] in
theorem apart_precedes (klines : List (MarketData α)) (zones : List (Option TrendZone)) (a b : ZoneRun)
    (increasing : klines.Pairwise fun a b => a.closeTime < b.closeTime) (aligned : zones.length = klines.length)
    (bLong : b.LongIn zones) (apart : a.last < b.first) : a.Precedes klines b := by
  have bWithin := run_within zones b bLong.1
  have ordered := bLong.1.ordered
  have firstInside : b.first < klines.length := by omega
  have lastInside : a.last < klines.length := by omega
  refine ⟨apart, klines[a.last], klines[b.first], List.getElem?_eq_getElem _, List.getElem?_eq_getElem _, ?_⟩
  exact List.pairwise_iff_getElem.mp increasing a.last b.first lastInside firstInside apart

theorem trend_zones_are_long_runs (strategy : σ) (klines : List (MarketData α))
    (increasing : klines.Pairwise fun a b => a.closeTime < b.closeTime) :
    (∀ raised, methods.barZones strategy klines = .error raised →
        methods.computeStrategyTrendZones strategy klines = .error raised) ∧
      ∀ zones, methods.barZones strategy klines = .ok zones →
        zones.length = klines.length ∧
          ∃ runs spans, methods.computeStrategyTrendZones strategy klines = .ok spans ∧
            List.Forall₂ (Draws klines) runs spans ∧
            (∀ run, run ∈ runs ↔ run.MaximalIn zones ∧ minZoneBars ≤ run.bars) ∧
            runs.Pairwise (Precedes klines) := by
  constructor
  · intro raised seen
    rw [compute_zones, seen]
    rfl
  · intro zones seen
    obtain ⟨aligned, runs, spans, computed, collected⟩ := computed_collected methods strategy klines zones seen
    refine ⟨aligned, runs, spans, computed, collected.drawn, collected.exactly, ?_⟩
    refine collected.apart.imp_of_mem fun {a b} _ bListed apart => ?_
    exact apart_precedes klines zones a b increasing aligned ((collected.exactly b).mp bListed) apart

end

def closingBar (index : ℤ) (price : ℚ) : MarketData ℚ where
  symbol := "ETHUSDT"
  interval := "1m"
  openTime := index * 60 * 10 ^ 6
  openPrice := price
  highPrice := price
  lowPrice := price
  closePrice := price
  volume := 10
  closeTime := index * 60 * 10 ^ 6
  quoteAssetVolume := 0
  numberOfTrades := 1
  takerBuyBaseAssetVolume := 0
  takerBuyQuoteAssetVolume := 0

theorem trend_length_declared : 10 ≤ 10 ∧ 10 ≤ 500 := by decide

def trendReference : Strategy ℚ :=
  .longTermTrendZone (.setup { trendEmaLen := 10, trendEmaLenDeclared := trend_length_declared })

def risingBars : List (MarketData ℚ) :=
  [closingBar 0 100, closingBar 1 100, closingBar 2 100, closingBar 3 100, closingBar 4 100, closingBar 5 100, closingBar 6 100,
    closingBar 7 100, closingBar 8 100, closingBar 9 100, closingBar 10 90, closingBar 11 110, closingBar 12 110,
    closingBar 13 110]

theorem rising_trend_zone :
    ∃ zones runs, zones.length = 14 ∧
      registeredStrategy.computeStrategyTrendZones trendReference risingBars = .ok [⟨660, 780, bullColor, zoneOpacity⟩] ∧
      List.Forall₂ (Draws risingBars) runs [⟨660, 780, bullColor, zoneOpacity⟩] ∧
      (∀ run, run ∈ runs ↔ run.MaximalIn zones ∧ minZoneBars ≤ run.bars) ∧ runs.Pairwise (Precedes risingBars) := by
  have exactly := (trend_zones_are_long_runs registeredStrategy trendReference risingBars (by decide)).2
    (List.replicate 10 none ++ [some .down, some .up, some .up, some .up]) (by decide +kernel)
  obtain ⟨aligned, runs, spans, computed, drawn, listed, apart⟩ := exactly
  have shown : registeredStrategy.computeStrategyTrendZones trendReference risingBars =
      .ok [⟨660, 780, bullColor, zoneOpacity⟩] := by decide +kernel
  cases computed.symm.trans shown
  exact ⟨_, runs, aligned, shown, drawn, listed, apart⟩

end Sagittarius
