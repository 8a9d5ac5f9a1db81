import Mathlib.Order.Monotone.Basic
import Sagittarius.Domain.MarketData
import Sagittarius.Library.KeyedRows

set_option autoImplicit false

namespace Sagittarius

variable {α : Type}

structure KlineKey where
  symbol : String
  interval : String
  openTime : ℤ
deriving DecidableEq

def MarketData.key (kline : MarketData α) : KlineKey :=
  { symbol := kline.symbol, interval := kline.interval, openTime := kline.openTime }

-- The rows of a shard. `is_closed` is no column of it.
abbrev KlineRows (α : Type) := List (MarketData α)

namespace KlineRows

def ofPair (rows : KlineRows α) (symbol interval : String) : KlineRows α :=
  rows.filter fun row => row.key.symbol = symbol ∧ row.key.interval = interval

def saveKlines (rows : KlineRows α) (klines : List (MarketData α)) : KlineRows α :=
  klines.foldl (KeyedRows.upsert MarketData.key) rows

def getLatestKlineTime (rows : KlineRows α) (symbol interval : String) : Option ℤ :=
  ((rows.ofPair symbol interval).map (·.openTime)).max?

end KlineRows

-- `_format_time` drops what is below a second.
def formattedStart (time : ℤ) : ℤ := time / 1000000 * 1000000

-- One run for a symbol without a `start_time`, and what it meets: the clock,
-- the chunks that the exchange yields from a start on until it ends or raises,
-- the answers of the cancellation check before each save, and the saves that
-- raise.
structure SyncRun (α : Type) where
  inFlight : Bool := false
  now : ℤ
  daysBackIfEmpty : ℤ := 30
  stream : ℤ → List (List (MarketData α))
  cancellationRequested : ℕ → Bool := fun _ => false
  saveRaises : ℕ → Bool := fun _ => false

namespace SyncRun

def determineStartTime (run : SyncRun α) (rows : KlineRows α) (symbol interval : String) : ℤ :=
  (rows.getLatestKlineTime symbol interval).getD (run.now - run.daysBackIfEmpty * 86400000000)

def persist (run : SyncRun α) : ℕ → KlineRows α → List (List (MarketData α)) → List (KlineRows α)
  | _, _, [] => []
  | index, rows, chunk :: rest =>
      if run.cancellationRequested index then []
      else if run.saveRaises index then []
      else rows.saveKlines chunk :: run.persist (index + 1) (rows.saveKlines chunk) rest

-- `_sync_single_symbol`. However the stream ends, what was saved stays.
def syncSingleSymbol (run : SyncRun α) (symbol interval : String) (rows : KlineRows α) : List (KlineRows α) :=
  if run.inFlight then []
  else run.persist 0 rows (run.stream (formattedStart (run.determineStartTime rows symbol interval)))

end SyncRun

def syncHistory (symbol interval : String) : KlineRows α → List (SyncRun α) → List (KlineRows α)
  | rows, [] => [rows]
  | rows, run :: rest =>
      let saved := run.syncSingleSymbol symbol interval rows
      rows :: saved ++ syncHistory symbol interval ((saved.getLast?).getD rows) rest

-- The klines of a pair as they are once final, in their order. Every interval
-- is a number of seconds, and klines open on the second.
structure ExchangeKlines (α : Type) (symbol interval : String) where
  kline : ℕ → MarketData α
  ofPair : ∀ n, (kline n).symbol = symbol ∧ (kline n).interval = interval
  increasing : ∀ n m, n < m → (kline n).openTime < (kline m).openTime
  wholeSeconds : ∀ n, (kline n).openTime % 1000000 = 0

namespace ExchangeKlines

variable {symbol interval : String} (exchange : ExchangeKlines α symbol interval)

structure SegmentFrom (first : ℕ) (rows : List (MarketData α)) : Prop where
  keys : ∀ i row, rows[i]? = some row → row.key = (exchange.kline (first + i)).key
  final : ∀ i row, rows[i]? = some row → i + 1 < rows.length → row = exchange.kline (first + i)

def OpensFirst (requested : ℤ) (first : ℕ) : Prop := ∀ n, requested ≤ (exchange.kline n).openTime ↔ first ≤ n

def Honest (run : SyncRun α) : Prop :=
  ∀ requested first, exchange.OpensFirst requested first → exchange.SegmentFrom first (run.stream requested).flatten

def Contiguous (rows : KlineRows α) : Prop := ∃ first, exchange.SegmentFrom first (rows.ofPair symbol interval)

theorem opens_le_iff (n m : ℕ) : (exchange.kline n).openTime ≤ (exchange.kline m).openTime ↔ n ≤ m := by
  constructor
  · intro opens
    by_contra beyond
    exact absurd (exchange.increasing m n (not_le.mp beyond)) (not_lt.mpr opens)
  · intro upTo
    rcases Nat.eq_or_lt_of_le upTo with rfl | less
    · exact le_rfl
    · exact (exchange.increasing n m less).le

theorem segment_nil (first : ℕ) : exchange.SegmentFrom first [] := ⟨by simp, by simp⟩

theorem segment_prefix (first : ℕ) (rows before : List (MarketData α)) (segment : exchange.SegmentFrom first rows)
    (isPrefix : before <+: rows) : exchange.SegmentFrom first before := by
  obtain ⟨after, rfl⟩ := isPrefix
  have earlier : ∀ (i : ℕ) (row : MarketData α), before[i]? = some row → (before ++ after)[i]? = some row :=
    fun i row at_i => (List.getElem?_append_left (List.getElem?_eq_some_iff.mp at_i).1).trans at_i
  refine ⟨fun i row at_i => segment.keys i row (earlier i row at_i), fun i row at_i more => ?_⟩
  exact segment.final i row (earlier i row at_i) (by rw [List.length_append]; omega)

theorem segment_increasing (first : ℕ) (rows : List (MarketData α)) (segment : exchange.SegmentFrom first rows) :
    rows.Pairwise fun earlier later => earlier.openTime < later.openTime := by
  rw [List.pairwise_iff_getElem]
  intro i j inI inJ less
  have keyI := congrArg KlineKey.openTime (segment.keys i rows[i] (List.getElem?_eq_getElem inI))
  have keyJ := congrArg KlineKey.openTime (segment.keys j rows[j] (List.getElem?_eq_getElem inJ))
  have opens := exchange.increasing _ _ (Nat.add_lt_add_left less first)
  simp only [MarketData.key] at keyI keyJ
  rw [keyI, keyJ]
  exact opens

theorem segment_keys_nodup (first : ℕ) (rows : List (MarketData α)) (segment : exchange.SegmentFrom first rows) :
    (rows.map MarketData.key).Nodup := by
  refine List.pairwise_map.mpr ((exchange.segment_increasing first rows segment).imp fun less same => ?_)
  exact less.ne (congrArg KlineKey.openTime same)

theorem segment_of_pair (first : ℕ) (rows : List (MarketData α)) (segment : exchange.SegmentFrom first rows)
    (row : MarketData α) (listed : row ∈ rows) : row.key.symbol = symbol ∧ row.key.interval = interval := by
  obtain ⟨i, at_i⟩ := List.mem_iff_getElem?.mp listed
  rw [segment.keys i row at_i]
  exact exchange.ofPair _

theorem segment_resumed (first : ℕ) (before rest : List (MarketData α)) (last row : MarketData α)
    (segment : exchange.SegmentFrom first (before ++ [last]))
    (resumed : exchange.SegmentFrom (first + before.length) (row :: rest)) :
    exchange.SegmentFrom first (before ++ row :: rest) := by
  constructor
  · intro i held at_i
    rcases lt_or_ge i before.length with early | late
    · refine segment.keys i held ?_
      rw [List.getElem?_append_left early] at at_i ⊢
      exact at_i
    · rw [List.getElem?_append_right late] at at_i
      rw [resumed.keys (i - before.length) held at_i, Nat.add_assoc, Nat.add_sub_cancel' late]
  · intro i held at_i more
    rcases lt_or_ge i before.length with early | late
    · refine segment.final i held ?_ (by simpa using early)
      rw [List.getElem?_append_left early] at at_i ⊢
      exact at_i
    · rw [List.getElem?_append_right late] at at_i
      have further := resumed.final (i - before.length) held at_i (by rw [List.length_append] at more; omega)
      rw [further, Nat.add_assoc, Nat.add_sub_cancel' late]

theorem opens_first_exists (requested : ℤ) : ∃ first, exchange.OpensFirst requested first := by
  have climbs : ∀ n : ℕ, (exchange.kline 0).openTime + n ≤ (exchange.kline n).openTime := by
    intro n
    induction n with
    | zero => simp
    | succ n ih =>
        have next : (exchange.kline n).openTime < (exchange.kline (n + 1)).openTime :=
          exchange.increasing n (n + 1) (Nat.lt_succ_self n)
        push_cast
        omega
  have reached : ∃ n, requested ≤ (exchange.kline n).openTime :=
    ⟨(requested - (exchange.kline 0).openTime).toNat, by
      have := climbs (requested - (exchange.kline 0).openTime).toNat
      omega⟩
  refine ⟨Nat.find reached, fun n => ⟨fun opens => Nat.find_min' reached opens, fun after => ?_⟩⟩
  exact (Nat.find_spec reached).trans ((exchange.opens_le_iff _ _).mpr after)

theorem opens_first_at (n : ℕ) : exchange.OpensFirst (formattedStart (exchange.kline n).openTime) n := by
  have second := exchange.wholeSeconds n
  have same : formattedStart (exchange.kline n).openTime = (exchange.kline n).openTime := by
    unfold formattedStart
    omega
  intro m
  rw [same]
  exact exchange.opens_le_iff n m

theorem latest_of_segment (first : ℕ) (rows : KlineRows α) (before : List (MarketData α)) (last : MarketData α)
    (stored : rows.ofPair symbol interval = before ++ [last]) (segment : exchange.SegmentFrom first (before ++ [last])) :
    rows.getLatestKlineTime symbol interval = some (exchange.kline (first + before.length)).openTime := by
  have lastKey := congrArg KlineKey.openTime (segment.keys before.length last (by simp))
  simp only [MarketData.key] at lastKey
  rw [KlineRows.getLatestKlineTime, stored, ← lastKey, List.max?_eq_some_iff]
  refine ⟨by simp, fun time isTime => ?_⟩
  obtain ⟨row, listed, rfl⟩ := List.mem_map.mp isTime
  rcases List.mem_append.mp listed with earlier | isLast
  · have increasing := exchange.segment_increasing first _ segment
    exact ((List.pairwise_append.mp increasing).2.2 row earlier last (by simp)).le
  · rw [List.mem_singleton.mp isLast]

omit exchange in
theorem save_of_pair (rows : KlineRows α) (klines : List (MarketData α))
    (ofPair : ∀ kline ∈ klines, kline.key.symbol = symbol ∧ kline.key.interval = interval) :
    (rows.saveKlines klines).ofPair symbol interval = (rows.ofPair symbol interval : KlineRows α).saveKlines klines := by
  induction klines generalizing rows with
  | nil => rfl
  | cons kline rest ih =>
      have upserted := KeyedRows.upsert_filter MarketData.key
        (fun key => decide (key.symbol = symbol ∧ key.interval = interval)) rows kline
      rw [if_pos (decide_eq_true (ofPair kline (by simp)))] at upserted
      have later := ih (KeyedRows.upsert MarketData.key rows kline) fun other listed => ofPair other (by simp [listed])
      rw [KlineRows.saveKlines, List.foldl_cons]
      exact later.trans (congrArg (KlineRows.saveKlines · rest) upserted)

-- What a run saves of the stream it asks for, as far as it gets, keeps the
-- stored klines one segment.
theorem save_keeps_contiguous (run : SyncRun α) (rows : KlineRows α) (saved : List (MarketData α))
    (honest : exchange.Honest run) (contiguous : exchange.Contiguous rows)
    (delivered : saved <+: (run.stream (formattedStart (run.determineStartTime rows symbol interval))).flatten) :
    exchange.Contiguous (rows.saveKlines saved) := by
  obtain ⟨first, segment⟩ := contiguous
  rcases List.eq_nil_or_concat' (rows.ofPair symbol interval) with empty | ⟨before, last, stored⟩
  · obtain ⟨opening, opens⟩ := exchange.opens_first_exists (formattedStart (run.determineStartTime rows symbol interval))
    have fresh := exchange.segment_prefix opening _ saved (honest _ opening opens) delivered
    refine ⟨opening, ?_⟩
    rw [save_of_pair rows saved (exchange.segment_of_pair opening saved fresh), empty, KlineRows.saveKlines,
      KeyedRows.upsert_new MarketData.key [] saved (exchange.segment_keys_nodup opening saved fresh)]
    exact fresh
  · rw [stored] at segment
    have latest := exchange.latest_of_segment first rows before last stored segment
    have start : run.determineStartTime rows symbol interval = (exchange.kline (first + before.length)).openTime := by
      rw [SyncRun.determineStartTime, latest, Option.getD_some]
    rw [start] at delivered
    have resumed := exchange.segment_prefix (first + before.length) _ saved
      (honest _ _ (exchange.opens_first_at (first + before.length))) delivered
    refine ⟨first, ?_⟩
    rw [save_of_pair rows saved (exchange.segment_of_pair _ saved resumed), stored, KlineRows.saveKlines]
    cases saved with
    | nil => exact segment
    | cons row rest =>
        have whole := exchange.segment_resumed first before rest last row segment resumed
        have same : row.key = last.key :=
          (resumed.keys 0 row rfl).trans (segment.keys before.length last (by simp)).symm
        rw [KeyedRows.upsert_resumed MarketData.key before rest last row same (exchange.segment_keys_nodup first _ whole)]
        exact whole

end ExchangeKlines

theorem persist_saves_prefix (run : SyncRun α) (index : ℕ) (rows saved : KlineRows α) (chunks : List (List (MarketData α)))
    (listed : saved ∈ run.persist index rows chunks) :
    ∃ klines, klines <+: chunks.flatten ∧ saved = rows.saveKlines klines := by
  induction chunks generalizing index rows with
  | nil => cases listed
  | cons chunk rest ih =>
      rw [SyncRun.persist] at listed
      split_ifs at listed
      · cases listed
      · cases listed
      · rcases List.mem_cons.mp listed with rfl | later
        · exact ⟨chunk, List.prefix_append _ _, rfl⟩
        · obtain ⟨klines, isPrefix, same⟩ := ih (index + 1) (rows.saveKlines chunk) later
          refine ⟨chunk ++ klines, (List.prefix_append_right_inj _).mpr isPrefix, ?_⟩
          rw [same, KlineRows.saveKlines, KlineRows.saveKlines, KlineRows.saveKlines, List.foldl_append]

theorem sync_keeps_contiguous {symbol interval : String} (exchange : ExchangeKlines α symbol interval)
    (rows saved : KlineRows α) (run : SyncRun α) (honest : exchange.Honest run) (contiguous : exchange.Contiguous rows)
    (listed : saved ∈ run.syncSingleSymbol symbol interval rows) : exchange.Contiguous saved := by
  rw [SyncRun.syncSingleSymbol] at listed
  split_ifs at listed
  · cases listed
  · obtain ⟨klines, isPrefix, rfl⟩ := persist_saves_prefix run 0 rows saved _ listed
    exact exchange.save_keeps_contiguous run rows klines honest contiguous isPrefix

theorem sync_history_contiguous {symbol interval : String} (exchange : ExchangeKlines α symbol interval)
    (rows : KlineRows α) (runs : List (SyncRun α)) (honest : ∀ run ∈ runs, exchange.Honest run)
    (contiguous : exchange.Contiguous rows) :
    ∀ stored ∈ syncHistory symbol interval rows runs, exchange.Contiguous stored := by
  induction runs generalizing rows with
  | nil =>
      intro stored listed
      rw [List.mem_singleton.mp listed]
      exact contiguous
  | cons run rest ih =>
      have saves := fun saved => sync_keeps_contiguous exchange rows saved run (honest run (by simp)) contiguous
      intro stored listed
      rw [syncHistory] at listed
      rcases List.mem_append.mp listed with now | later
      · rcases List.mem_cons.mp now with rfl | saved
        · exact contiguous
        · exact saves stored saved
      · refine ih _ (fun other listed => honest other (by simp [listed])) ?_ stored later
        cases last : (run.syncSingleSymbol symbol interval rows).getLast? with
        | none => exact contiguous
        | some saved => exact saves saved (List.mem_of_getLast? last)

theorem synced_klines_contiguous {symbol interval : String} (exchange : ExchangeKlines α symbol interval)
    (rows : KlineRows α) (runs : List (SyncRun α)) (empty : rows.ofPair symbol interval = [])
    (honest : ∀ run ∈ runs, exchange.Honest run) :
    ∀ stored ∈ syncHistory symbol interval rows runs,
      exchange.Contiguous stored ∧ ((stored.ofPair symbol interval).map MarketData.key).Nodup := by
  intro stored listed
  have start : exchange.Contiguous rows := ⟨0, empty ▸ exchange.segment_nil 0⟩
  obtain ⟨first, segment⟩ := sync_history_contiguous exchange rows runs honest start stored listed
  exact ⟨⟨first, segment⟩, exchange.segment_keys_nodup first _ segment⟩

def minuteKline (price : ℚ) (minute : ℕ) : MarketData ℚ where
  symbol := "BTCUSDT"
  interval := "1m"
  openTime := minute * 60000000
  openPrice := price
  highPrice := price
  lowPrice := price
  closePrice := price
  volume := 1
  closeTime := minute * 60000000 + 59999000
  quoteAssetVolume := price
  numberOfTrades := 1
  takerBuyBaseAssetVolume := 1
  takerBuyQuoteAssetVolume := price

def minuteExchange : ExchangeKlines ℚ "BTCUSDT" "1m" where
  kline := minuteKline 100
  ofPair _ := ⟨rfl, rfl⟩
  increasing := by
    intro n m less
    simp only [minuteKline]
    omega
  wholeSeconds n := by
    simp only [minuteKline]
    omega

def minuteRun (cancelledAt : Option ℕ) : SyncRun ℚ where
  now := 2592000000000 + 60000000
  stream requested :=
    let minute := ((requested + 59999999) / 60000000).toNat
    [[minuteKline 100 minute], [minuteKline 99 (minute + 1)]]
  cancellationRequested index := cancelledAt = some index

theorem minute_run_honest (cancelledAt : Option ℕ) : minuteExchange.Honest (minuteRun cancelledAt) := by
  intro requested first opens
  have at_first := (opens first).mpr le_rfl
  have before_first : ∀ n, n < first → (n : ℤ) * 60000000 < requested := fun n earlier =>
    not_le.mp fun reached => not_le.mpr earlier ((opens n).mp reached)
  have minute : ((requested + 59999999) / 60000000).toNat = first := by
    simp only [minuteExchange, minuteKline] at at_first
    cases first with
    | zero => omega
    | succ n =>
        have := before_first n (Nat.lt_succ_self n)
        push_cast at at_first
        omega
  have firstKey : (minuteKline 100 first).key = (minuteExchange.kline first).key := rfl
  have secondKey : (minuteKline 99 (first + 1)).key = (minuteExchange.kline (first + 1)).key := rfl
  simp only [minuteRun, minute]
  refine ⟨fun i row at_i => ?_, fun i row at_i more => ?_⟩
  · rcases i with _ | _ | i
    · rw [← Option.some.inj at_i]
      exact firstKey
    · rw [← Option.some.inj at_i]
      exact secondKey
    · simp at at_i
  · rcases i with _ | i
    · exact (Option.some.inj at_i).symm
    · simp only [List.flatten_cons, List.flatten_nil, List.length_append, List.length_cons, List.length_nil] at more
      omega

theorem interrupted_sync_contiguous :
    let history := syncHistory "BTCUSDT" "1m" [] [minuteRun (some 1), minuteRun none]
    history.map (List.map fun row => row.closePrice) = [[], [100], [100], [100], [100, 99], [100, 99]] ∧
      ∀ stored ∈ history, minuteExchange.Contiguous stored ∧ ((stored.ofPair "BTCUSDT" "1m").map MarketData.key).Nodup := by
  intro history
  have contiguous := synced_klines_contiguous minuteExchange [] [minuteRun (some 1), minuteRun none] rfl
    (by simp [minute_run_honest])
  exact ⟨by decide +kernel, contiguous⟩

end Sagittarius
