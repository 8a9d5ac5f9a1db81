import Mathlib.Data.Finset.Card
import Sagittarius.Library.Dicts
import Sagittarius.Library.Responses
import Sagittarius.Market.DataGaps

set_option autoImplicit false

namespace Sagittarius

variable {σ α : Type}

namespace KlineTable

theorem same_table (first second : KlineTable α) (same : first.rows = second.rows) : first = second := by
  cases first
  cases second
  cases same
  rfl

theorem save_keys (table : KlineTable α) (klines : List (MarketData α)) :
    ((table.rows.saveKlines klines).map MarketData.key).Nodup :=
  KeyedRows.upserts_keys MarketData.key table.rows klines table.keys

def save (table : KlineTable α) (klines : List (MarketData α)) : KlineTable α where
  rows := table.rows.saveKlines klines
  keys := table.save_keys klines

theorem delete_keys (table : KlineTable α) (selects : MarketData α → Bool) :
    ((table.rows.filter fun row => !selects row).map MarketData.key).Nodup :=
  table.keys.sublist (List.filter_sublist.map _)

def delete (table : KlineTable α) (selects : MarketData α → Bool) : KlineTable α where
  rows := table.rows.filter fun row => !selects row
  keys := table.delete_keys selects

end KlineTable

structure KlineSelection where
  symbol : String
  interval : TimeFrame
  startTime : Option ℤ := none
  endTime : Option ℤ := none
  limit : Option ℤ := none
  orderByDesc : Bool := false

-- Without a limit the query is the one with `LIMIT -1`.
def KlineSelection.query (selection : KlineSelection) : GetHistoricalKlinesQuery where
  symbol := selection.symbol
  interval := selection.interval
  limit := selection.limit.getD (-1)
  startTime := selection.startTime
  endTime := selection.endTime
  orderByDesc := selection.orderByDesc

namespace KlineTable

variable (table : KlineTable α)

def selected (selection : KlineSelection) : List (MarketData α) := table.rows.filter selection.query.selects

def countKlines (selection : KlineSelection) : ℕ := (selection.query.cut (table.selected selection)).length

-- SQLite takes a negative offset for none.
def streamKlines (selection : KlineSelection) (offset : Option ℤ) : List (MarketData α) :=
  selection.query.cut ((selection.query.order (table.selected selection)).drop (offset.getD 0).toNat)

def statusForIntervals (symbol : String) (intervals : List TimeFrame) : Dicts.Dict String DatabaseStatusSnapshot :=
  .ofMembers (intervals.map fun interval => (interval.value, table.getDatabaseStatus symbol interval))

def ofSymbol (symbol : String) : List (MarketData α) := table.rows.filter fun row => row.symbol = symbol

end KlineTable

-- What the repository is asked. `raises` says for which symbols a save fails
-- before its commit.
inductive RepositoryRequest (α : Type)
  | saveKlines (klines : List (MarketData α)) (raises : String → Bool)
  | getLatestKlineTime (symbol : String) (interval : TimeFrame)
  | getKlines (selection : KlineSelection)
  | countKlines (selection : KlineSelection)
  | streamKlines (selection : KlineSelection) (offset : Option ℤ)
  | getDatabaseStatus (symbol : String) (interval : TimeFrame)
  | getDatabaseStatusForIntervals (symbol : String) (intervals : List TimeFrame)
  | getRangeCoverage (symbol : String) (interval : TimeFrame) (startTime : Option ℤ) (endTime now : ℤ)
  | clearKlines (symbol : String) (interval : Option TimeFrame)
  | purgeAll
  | listAvailableShards
  | getGaps (symbol : String) (interval : TimeFrame)
  | hasAnyKlines (symbol : String)

-- The order in which the shards are listed is the engine's.
inductive RepositoryAnswer (α : Type)
  | saved (raised : Bool)
  | time (latest : Option ℤ)
  | klines (klines : List (MarketData α))
  | count (count : ℕ)
  | status (snapshot : DatabaseStatusSnapshot)
  | statuses (snapshots : Dicts.Dict String DatabaseStatusSnapshot)
  | coverage (snapshot : RangeCoverageSnapshot)
  | gaps (gaps : List DataGap)
  | found (found : Bool)
  | shards (symbols : Finset String)

-- The engine's `SqliteShardManager`, as far as `DatabaseManager` uses it: a
-- table for each shard.
structure ShardManager (σ α : Type) where
  names : σ → List String
  table : σ → String → KlineTable α
  getRawSession : σ → String → σ
  commit : σ → String → KlineTable α → σ
  removeShard : σ → String → σ
  purgeAll : σ → ℕ × σ

-- A session makes the shard that it does not find, and what is committed to one
-- shard is seen in no other.
structure ShardManager.Lawful (manager : ShardManager σ α) : Prop where
  distinct : ∀ store, (manager.names store).Nodup
  absent : ∀ store symbol, symbol ∉ manager.names store → (manager.table store symbol).rows = []
  openedNames : ∀ store symbol other,
    other ∈ manager.names (manager.getRawSession store symbol) ↔ other = symbol ∨ other ∈ manager.names store
  openedTable : ∀ store symbol other, manager.table (manager.getRawSession store symbol) other = manager.table store other
  committedNames : ∀ store symbol table other, symbol ∈ manager.names store →
    (other ∈ manager.names (manager.commit store symbol table) ↔ other ∈ manager.names store)
  committedTable : ∀ store symbol table other, symbol ∈ manager.names store →
    manager.table (manager.commit store symbol table) other = if other = symbol then table else manager.table store other
  removedNames : ∀ store symbol other,
    other ∈ manager.names (manager.removeShard store symbol) ↔ other ≠ symbol ∧ other ∈ manager.names store
  removedTable : ∀ store symbol other, other ≠ symbol →
    manager.table (manager.removeShard store symbol) other = manager.table store other
  purgedNames : ∀ store, manager.names (manager.purgeAll store).2 = []
  purgedCount : ∀ store, (manager.purgeAll store).1 = (manager.names store).length

def groupBySymbol (klines : List (MarketData α)) : List (String × List (MarketData α)) :=
  klines.foldl (fun groups kline =>
    if kline.symbol ∈ groups.map Prod.fst then
      groups.map fun group => if group.1 = kline.symbol then (group.1, group.2 ++ [kline]) else group
    else groups ++ [(kline.symbol, [kline])]) []

def upsertChunkSize : ℕ := 5000

def executeChunkedUpsert (table : KlineTable α) (klines : List (MarketData α)) : KlineTable α :=
  (pySlices upsertChunkSize klines).foldl KlineTable.save table

namespace ShardManager

variable (manager : ShardManager σ α) (store : σ)

-- A symbol without a shard is answered for without a session.
def read {β : Type} (symbol : String) (missing : β) (query : KlineTable α → β) : β :=
  if symbol ∈ manager.names store then query (manager.table store symbol) else missing

-- One session and one commit for each symbol. What an earlier symbol has
-- committed stays when a later one raises.
def saveGroups (raises : String → Bool) : List (String × List (MarketData α)) → σ → Bool × σ
  | [], store => (false, store)
  | (symbol, klines) :: groups, store =>
      let opened := manager.getRawSession store symbol
      if raises symbol then (true, opened)
      else saveGroups raises groups
        (manager.commit opened symbol (executeChunkedUpsert (manager.table opened symbol) klines))

def clearKlines (symbol : String) (interval : Option TimeFrame) : ℕ × σ :=
  let opened := manager.getRawSession store symbol
  let table := manager.table opened symbol
  match interval with
  | none => ((table.ofSymbol symbol).length, manager.removeShard opened symbol)
  | some interval =>
      ((table.pairRows symbol interval).length, manager.commit opened symbol
        (table.delete fun row => row.symbol = symbol && row.interval = interval.value))

def noStatus : DatabaseStatusSnapshot where
  firstRecord := none
  lastRecord := none
  totalCandles := 0
  gaps := 0

def noCoverage : RangeCoverageSnapshot where
  firstRecord := none
  lastRecord := none
  totalCandles := 0
  distinctCandles := 0
  firstGapAfter := none
  unclosedCandles := 0

def answer : RepositoryRequest α → RepositoryAnswer α × σ
  | .saveKlines klines raises =>
      let (raised, next) := manager.saveGroups raises (groupBySymbol klines) store
      (.saved raised, next)
  | .getLatestKlineTime symbol interval =>
      (.time (manager.read store symbol none fun table => table.rows.getLatestKlineTime symbol interval.value), store)
  | .getKlines selection => (.klines (manager.read store selection.symbol [] fun table => table.getKlines selection.query), store)
  | .countKlines selection => (.count (manager.read store selection.symbol 0 fun table => table.countKlines selection), store)
  | .streamKlines selection offset =>
      (.klines (manager.read store selection.symbol [] fun table => table.streamKlines selection offset), store)
  | .getDatabaseStatus symbol interval =>
      (.status (manager.read store symbol noStatus fun table => table.getDatabaseStatus symbol interval), store)
  | .getDatabaseStatusForIntervals symbol intervals =>
      (.statuses (manager.read store symbol (.ofMembers (intervals.map fun interval => (interval.value, noStatus)))
        fun table => table.statusForIntervals symbol intervals), store)
  | .getRangeCoverage symbol interval startTime endTime now =>
      (.coverage (manager.read store symbol noCoverage fun table =>
        table.getRangeCoverage symbol interval startTime endTime now), store)
  | .clearKlines symbol interval =>
      let (count, next) := manager.clearKlines store symbol interval
      (.count count, next)
  | .purgeAll =>
      let (count, next) := manager.purgeAll store
      (.count count, next)
  | .listAvailableShards => (.shards (manager.names store).toFinset, store)
  | .getGaps symbol interval => (.gaps (manager.read store symbol [] fun table => table.getGaps symbol interval), store)
  | .hasAnyKlines symbol =>
      (.found (manager.read store symbol false fun table => !(table.ofSymbol symbol).isEmpty), store)

end ShardManager

-- The repository as its callers see it: one table of all klines, and the
-- symbols that there is a shard of.
structure OneTable (α : Type) where
  table : KlineTable α
  symbols : Finset String

namespace OneTable

variable (whole : OneTable α)

-- A save is kept for the symbols before the first that raises, each of which
-- has a shard then, and so has the one that raises.
def save (klines : List (MarketData α)) (raises : String → Bool) : Bool × OneTable α :=
  let symbols := (groupBySymbol klines).map Prod.fst
  let kept := symbols.takeWhile fun symbol => !raises symbol
  (symbols.any raises,
    { table := whole.table.save (klines.filter fun kline => kline.symbol ∈ kept)
      symbols := whole.symbols ∪ (symbols.take (kept.length + 1)).toFinset })

def clear (symbol : String) (interval : Option TimeFrame) : ℕ × OneTable α :=
  match interval with
  | none =>
      ((whole.table.ofSymbol symbol).length,
        { table := whole.table.delete fun row => row.symbol = symbol, symbols := whole.symbols.erase symbol })
  | some interval =>
      ((whole.table.pairRows symbol interval).length,
        { table := whole.table.delete fun row => row.symbol = symbol && row.interval = interval.value
          symbols := insert symbol whole.symbols })

def answer : RepositoryRequest α → RepositoryAnswer α × OneTable α
  | .saveKlines klines raises => ((whole.save klines raises).map .saved id)
  | .getLatestKlineTime symbol interval => (.time (whole.table.rows.getLatestKlineTime symbol interval.value), whole)
  | .getKlines selection => (.klines (whole.table.getKlines selection.query), whole)
  | .countKlines selection => (.count (whole.table.countKlines selection), whole)
  | .streamKlines selection offset => (.klines (whole.table.streamKlines selection offset), whole)
  | .getDatabaseStatus symbol interval => (.status (whole.table.getDatabaseStatus symbol interval), whole)
  | .getDatabaseStatusForIntervals symbol intervals => (.statuses (whole.table.statusForIntervals symbol intervals), whole)
  | .getRangeCoverage symbol interval startTime endTime now =>
      (.coverage (whole.table.getRangeCoverage symbol interval startTime endTime now), whole)
  | .clearKlines symbol interval => (whole.clear symbol interval).map .count id
  | .purgeAll => (.count whole.symbols.card, { table := whole.table.delete fun _ => true, symbols := ∅ })
  | .listAvailableShards => (.shards whole.symbols, whole)
  | .getGaps symbol interval => (.gaps (whole.table.getGaps symbol interval), whole)
  | .hasAnyKlines symbol => (.found (!(whole.table.ofSymbol symbol).isEmpty), whole)

end OneTable

section Grouping

theorem group_by_symbol_concat (klines : List (MarketData α)) (kline : MarketData α) :
    groupBySymbol (klines ++ [kline]) =
      if kline.symbol ∈ (groupBySymbol klines).map Prod.fst then
        (groupBySymbol klines).map fun group =>
          if group.1 = kline.symbol then (group.1, group.2 ++ [kline]) else group
      else groupBySymbol klines ++ [(kline.symbol, [kline])] := by
  rw [groupBySymbol, List.foldl_append]
  rfl

structure GroupsSymbols (klines : List (MarketData α)) (groups : List (String × List (MarketData α))) : Prop where
  distinct : (groups.map Prod.fst).Nodup
  named : ∀ symbol, symbol ∈ groups.map Prod.fst ↔ ∃ kline ∈ klines, kline.symbol = symbol
  members : ∀ group ∈ groups, group.2 = klines.filter fun kline => kline.symbol = group.1

theorem group_by_symbol_groups (klines : List (MarketData α)) : GroupsSymbols klines (groupBySymbol klines) := by
  induction klines using List.reverseRecOn with
  | nil => exact { distinct := .nil, named := by simp [groupBySymbol], members := by simp [groupBySymbol] }
  | append_singleton klines kline ih =>
      rw [group_by_symbol_concat]
      by_cases known : kline.symbol ∈ (groupBySymbol klines).map Prod.fst
      · rw [if_pos known]
        have names : ((groupBySymbol klines).map fun group =>
            if group.1 = kline.symbol then (group.1, group.2 ++ [kline]) else group).map Prod.fst =
            (groupBySymbol klines).map Prod.fst := by
          rw [List.map_map]
          refine List.map_congr_left fun group _ => ?_
          by_cases same : group.1 = kline.symbol
          · simp [same]
          · simp [same]
        refine { distinct := by rw [names]; exact ih.distinct, named := fun symbol => ?_, members := fun group isGroup => ?_ }
        · rw [names, ih.named]
          constructor
          · intro found
            obtain ⟨held, isHeld, same⟩ := found
            exact ⟨held, List.mem_append_left _ isHeld, same⟩
          · intro found
            obtain ⟨held, isHeld, same⟩ := found
            cases List.mem_append.mp isHeld with
            | inl earlier => exact ⟨held, earlier, same⟩
            | inr last =>
                rw [List.mem_singleton.mp last] at same
                exact (ih.named symbol).mp (same ▸ known)
        · obtain ⟨before, isBefore, rfl⟩ := List.mem_map.mp isGroup
          have held := ih.members before isBefore
          by_cases same : before.1 = kline.symbol
          · simp [same, held]
          · simp [same, held, Ne.symm same]
      · rw [if_neg known]
        refine { distinct := ?_, named := fun symbol => ?_, members := fun group isGroup => ?_ }
        · rw [List.map_append]
          exact List.Nodup.append ih.distinct (List.nodup_singleton _) (by simpa using known)
        · rw [List.map_append, List.mem_append, ih.named]
          simp only [List.map_cons, List.map_nil, List.mem_singleton, List.mem_append, or_and_right, exists_or,
            exists_eq_left]
          exact or_congr_right eq_comm
        · cases List.mem_append.mp isGroup with
          | inl earlier =>
              have other : kline.symbol ≠ group.1 := fun same => known (same ▸ List.mem_map_of_mem earlier)
              simp [ih.members group earlier, other]
          | inr new =>
              have none : klines.filter (fun held => held.symbol = kline.symbol) = [] := by
                refine List.filter_eq_nil_iff.mpr fun held isHeld same => known ?_
                exact (ih.named kline.symbol).mpr ⟨held, isHeld, of_decide_eq_true same⟩
              rw [List.mem_singleton.mp new]
              simp [none]

end Grouping

theorem chunked_upsert_saves (table : KlineTable α) (klines : List (MarketData α)) :
    (executeChunkedUpsert table klines).rows = table.rows.saveKlines klines := by
  have flat : ∀ chunks : List (List (MarketData α)),
      (chunks.foldl KlineTable.save table).rows = table.rows.saveKlines chunks.flatten := by
    intro chunks
    induction chunks generalizing table with
    | nil => rfl
    | cons chunk rest ih =>
        rw [List.foldl_cons, ih, List.flatten_cons, KlineRows.saveKlines, KlineRows.saveKlines, List.foldl_append]
        rfl
  rw [executeChunkedUpsert, flat, py_slices_flatten upsertChunkSize (by decide)]

namespace KlineTable

variable (table : KlineTable α)

theorem of_symbol_twice (symbol : String) (shard : KlineTable α) (held : shard.rows = table.ofSymbol symbol) :
    shard.ofSymbol symbol = table.ofSymbol symbol := by
  rw [ofSymbol, held, ofSymbol, List.filter_filter]
  simp

theorem pair_of_symbol (symbol interval : String) :
    KlineRows.ofPair (table.ofSymbol symbol) symbol interval = KlineRows.ofPair table.rows symbol interval := by
  rw [KlineRows.ofPair, ofSymbol, List.filter_filter]
  refine List.filter_congr fun row _ => ?_
  by_cases same : row.symbol = symbol
  · simp [same]
  · simp [same, MarketData.key]

theorem selected_of_symbol (selection : KlineSelection) :
    (table.ofSymbol selection.symbol).filter selection.query.selects = table.selected selection := by
  rw [selected, ofSymbol, List.filter_filter]
  refine List.filter_congr fun row _ => ?_
  by_cases same : row.symbol = selection.symbol
  · simp [same]
  · simp [same, GetHistoricalKlinesQuery.selects, KlineSelection.query]

theorem save_of_symbol (klines : List (MarketData α)) (symbol : String) :
    (table.save klines).ofSymbol symbol =
      KlineRows.saveKlines (table.ofSymbol symbol) (klines.filter fun kline => kline.symbol = symbol) :=
  KeyedRows.upserts_filter MarketData.key (fun key => decide (key.symbol = symbol)) table.rows klines

end KlineTable

namespace ShardManager

variable (manager : ShardManager σ α) (lawful : manager.Lawful)

-- Each shard holds the rows of its symbol, and each row has a shard.
structure Represents (store : σ) (whole : OneTable α) : Prop where
  rows : ∀ symbol, (manager.table store symbol).rows = whole.table.ofSymbol symbol
  symbols : ∀ symbol, symbol ∈ manager.names store ↔ symbol ∈ whole.symbols

include lawful in
theorem save_groups_kept (raises : String → Bool) (klines : List (MarketData α)) (symbols : List String)
    (distinct : symbols.Nodup) (store : σ) :
    let saved := manager.saveGroups raises
      (symbols.map fun symbol => (symbol, klines.filter fun kline => kline.symbol = symbol)) store
    let kept := symbols.takeWhile fun symbol => !raises symbol
    saved.1 = symbols.any raises ∧
      (∀ other, (manager.table saved.2 other).rows =
        KlineRows.saveKlines (manager.table store other).rows
          (if other ∈ kept then klines.filter fun kline => kline.symbol = other else [])) ∧
      ∀ other, other ∈ manager.names saved.2 ↔
        other ∈ symbols.take (kept.length + 1) ∨ other ∈ manager.names store := by
  induction symbols generalizing store with
  | nil => simp [saveGroups, KlineRows.saveKlines]
  | cons symbol rest ih =>
      obtain ⟨fresh, distinctRest⟩ := List.nodup_cons.mp distinct
      rw [List.map_cons, saveGroups]
      by_cases fails : raises symbol = true
      · simp only [fails, if_true, List.any_cons, Bool.true_or, List.takeWhile_cons, Bool.not_true]
        refine ⟨trivial, fun other => ?_, fun other => ?_⟩
        · rw [lawful.openedTable]
          simp [KlineRows.saveKlines]
        · rw [lawful.openedNames]
          simp
      · have opened : symbol ∈ manager.names (manager.getRawSession store symbol) :=
          (lawful.openedNames store symbol symbol).mpr (.inl rfl)
        obtain ⟨raised, rows, names⟩ := ih distinctRest (manager.commit (manager.getRawSession store symbol) symbol
          (executeChunkedUpsert (manager.table (manager.getRawSession store symbol) symbol)
            (klines.filter fun kline => kline.symbol = symbol)))
        simp only [fails, List.any_cons, Bool.false_or, List.takeWhile_cons, Bool.not_false, if_true]
        refine ⟨raised, fun other => ?_, fun other => ?_⟩
        · rw [if_neg Bool.false_ne_true, rows, lawful.committedTable _ _ _ _ opened]
          by_cases same : other = symbol
          · have notLater : symbol ∉ rest.takeWhile fun symbol => !raises symbol :=
              fun later => fresh ((List.takeWhile_sublist _).subset later)
            subst same
            rw [if_pos rfl, chunked_upsert_saves, lawful.openedTable, if_neg notLater,
              if_pos List.mem_cons_self]
            rfl
          · simp [same, lawful.openedTable]
        · rw [if_neg Bool.false_ne_true, names, lawful.committedNames _ _ _ _ opened, lawful.openedNames,
            List.length_cons, List.take_succ_cons, List.mem_cons]
          exact or_left_comm.trans or_assoc.symm

include lawful in
theorem save_represents (store : σ) (whole : OneTable α) (represents : manager.Represents store whole)
    (klines : List (MarketData α)) (raises : String → Bool) :
    (manager.saveGroups raises (groupBySymbol klines) store).1 = (whole.save klines raises).1 ∧
      manager.Represents (manager.saveGroups raises (groupBySymbol klines) store).2 (whole.save klines raises).2 := by
  have grouped := group_by_symbol_groups klines
  have listed : groupBySymbol klines = ((groupBySymbol klines).map Prod.fst).map fun symbol =>
      (symbol, klines.filter fun kline => kline.symbol = symbol) := by
    rw [List.map_map]
    refine ((List.map_congr_left fun group isGroup => ?_).trans (List.map_id _)).symm
    exact Prod.ext rfl (grouped.members group isGroup).symm
  obtain ⟨raised, rows, names⟩ := manager.save_groups_kept lawful raises klines _ grouped.distinct store
  rw [← listed] at raised rows names
  refine ⟨raised, { rows := fun symbol => ?_, symbols := fun symbol => ?_ }⟩
  · rw [rows, represents.rows, OneTable.save, KlineTable.save_of_symbol, List.filter_filter]
    congr 1
    by_cases kept : symbol ∈ ((groupBySymbol klines).map Prod.fst).takeWhile fun symbol => !raises symbol
    · rw [if_pos kept]
      refine List.filter_congr fun kline _ => ?_
      by_cases same : kline.symbol = symbol
      · simp [same, kept]
      · simp [same]
    · rw [if_neg kept]
      refine (List.filter_eq_nil_iff.mpr fun kline _ both => kept ?_).symm
      simp only [Bool.and_eq_true, decide_eq_true_eq] at both
      exact both.1 ▸ both.2
  · rw [names, represents.symbols, OneTable.save, Finset.mem_union, List.mem_toFinset]
    exact or_comm

include lawful in
theorem clear_represents (store : σ) (whole : OneTable α) (represents : manager.Represents store whole)
    (symbol : String) (interval : Option TimeFrame) :
    (manager.clearKlines store symbol interval).1 = (whole.clear symbol interval).1 ∧
      manager.Represents (manager.clearKlines store symbol interval).2 (whole.clear symbol interval).2 := by
  have held : (manager.table (manager.getRawSession store symbol) symbol).rows = whole.table.ofSymbol symbol := by
    rw [lawful.openedTable]
    exact represents.rows symbol
  cases interval with
  | none =>
      refine ⟨congrArg List.length (whole.table.of_symbol_twice symbol _ held),
        { rows := fun other => ?_, symbols := fun other => ?_ }⟩
      · change (manager.table (manager.removeShard (manager.getRawSession store symbol) symbol) other).rows =
          (whole.table.rows.filter fun row => !decide (row.symbol = symbol)).filter fun row => row.symbol = other
        rw [List.filter_filter]
        by_cases same : other = symbol
        · subst same
          have gone : other ∉ manager.names (manager.removeShard (manager.getRawSession store other) other) :=
            fun listed => ((lawful.removedNames _ _ _).mp listed).1 rfl
          rw [lawful.absent _ _ gone]
          simp
        · rw [lawful.removedTable _ _ _ same, lawful.openedTable, represents.rows]
          refine List.filter_congr fun row _ => ?_
          by_cases ofOther : row.symbol = other
          · simp [ofOther, same]
          · simp [ofOther]
      · change other ∈ manager.names (manager.removeShard (manager.getRawSession store symbol) symbol) ↔
          other ∈ whole.symbols.erase symbol
        rw [lawful.removedNames, lawful.openedNames, Finset.mem_erase, ← represents.symbols]
        refine and_congr_right fun different => ?_
        exact or_iff_right different
  | some interval =>
      have opened : symbol ∈ manager.names (manager.getRawSession store symbol) :=
        (lawful.openedNames store symbol symbol).mpr (.inl rfl)
      refine ⟨?_, { rows := fun other => ?_, symbols := fun other => ?_ }⟩
      · change (KlineRows.ofPair (manager.table (manager.getRawSession store symbol) symbol).rows symbol interval.value).length =
          (KlineRows.ofPair whole.table.rows symbol interval.value).length
        rw [held, KlineTable.pair_of_symbol]
      · change (manager.table (manager.commit (manager.getRawSession store symbol) symbol _) other).rows =
          (whole.table.rows.filter fun row => !(row.symbol = symbol && row.interval = interval.value)).filter
            fun row => row.symbol = other
        rw [lawful.committedTable _ _ _ _ opened, List.filter_filter]
        by_cases same : other = symbol
        · subst same
          rw [if_pos rfl]
          change (manager.table (manager.getRawSession store other) other).rows.filter _ = _
          rw [held, KlineTable.ofSymbol, List.filter_filter]
          exact List.filter_congr fun row _ => Bool.and_comm _ _
        · rw [if_neg same, lawful.openedTable, represents.rows]
          refine List.filter_congr fun row _ => ?_
          by_cases ofOther : row.symbol = other
          · simp [ofOther, same]
          · simp [ofOther]
      · change other ∈ manager.names (manager.commit (manager.getRawSession store symbol) symbol _) ↔
          other ∈ insert symbol whole.symbols
        rw [lawful.committedNames _ _ _ _ opened, lawful.openedNames, Finset.mem_insert, represents.symbols]

include lawful in
theorem read_represents {β : Type} (store : σ) (whole : OneTable α) (represents : manager.Represents store whole)
    (symbol : String) (missing : β) (query : KlineTable α → β) (readRows : List (MarketData α) → β)
    (reads : ∀ table : KlineTable α, query table = readRows (table.ofSymbol symbol)) (nothing : readRows [] = missing) :
    manager.read store symbol missing query = query whole.table := by
  have held := represents.rows symbol
  rw [read, reads whole.table]
  by_cases present : symbol ∈ manager.names store
  · rw [if_pos present, reads, whole.table.of_symbol_twice symbol _ held]
  · rw [if_neg present, ← held, lawful.absent store symbol present, nothing]

theorem names_represent (store : σ) (whole : OneTable α) (represents : manager.Represents store whole) :
    (manager.names store).toFinset = whole.symbols := by
  ext symbol
  rw [List.mem_toFinset, represents.symbols]

theorem order_none (query : GetHistoricalKlinesQuery) : query.order ([] : List (MarketData α)) = [] := by
  rw [GetHistoricalKlinesQuery.order]
  split_ifs <;> rfl

theorem cut_none (query : GetHistoricalKlinesQuery) : query.cut ([] : List (MarketData α)) = [] := by
  rw [GetHistoricalKlinesQuery.cut, List.take_nil, ite_self]

include lawful in
theorem answer_simulates :
    Responses.Simulates (fun _ => True) manager.answer OneTable.answer manager.Represents := by
  intro store whole request _ represents
  have read {β : Type} := manager.read_represents (β := β) lawful store whole represents
  cases request with
  | saveKlines klines raises =>
      obtain ⟨raised, next⟩ := manager.save_represents lawful store whole represents klines raises
      exact ⟨congrArg RepositoryAnswer.saved raised, next⟩
  | getLatestKlineTime symbol interval =>
      refine ⟨congrArg RepositoryAnswer.time ?_, represents⟩
      refine read symbol none _ (fun rows => KlineRows.getLatestKlineTime rows symbol interval.value) (fun table => ?_) rfl
      rw [KlineRows.getLatestKlineTime, KlineRows.getLatestKlineTime, table.pair_of_symbol]
  | getKlines selection =>
      refine ⟨congrArg RepositoryAnswer.klines ?_, represents⟩
      refine read selection.symbol [] _
        (fun rows => selection.query.cut (selection.query.order (rows.filter selection.query.selects))) (fun table => ?_) ?_
      · rw [table.selected_of_symbol]
        rfl
      · rw [List.filter_nil, order_none, cut_none]
  | countKlines selection =>
      refine ⟨congrArg RepositoryAnswer.count ?_, represents⟩
      refine read selection.symbol 0 _ (fun rows => (selection.query.cut (rows.filter selection.query.selects)).length)
        (fun table => ?_) ?_
      · rw [table.selected_of_symbol]
        rfl
      · rw [List.filter_nil, cut_none, List.length_nil]
  | streamKlines selection offset =>
      refine ⟨congrArg RepositoryAnswer.klines ?_, represents⟩
      refine read selection.symbol [] _ (fun rows => selection.query.cut
        ((selection.query.order (rows.filter selection.query.selects)).drop (offset.getD 0).toNat)) (fun table => ?_) ?_
      · rw [table.selected_of_symbol]
        rfl
      · rw [List.filter_nil, order_none, List.drop_nil, cut_none]
  | getDatabaseStatus symbol interval =>
      refine ⟨congrArg RepositoryAnswer.status ?_, represents⟩
      refine read symbol noStatus _ (fun rows => statusAggregate interval.toSeconds (KlineRows.ofPair rows symbol interval.value))
        (fun table => ?_) rfl
      rw [table.pair_of_symbol]
      rfl
  | getDatabaseStatusForIntervals symbol intervals =>
      refine ⟨congrArg RepositoryAnswer.statuses ?_, represents⟩
      refine read symbol _ _ (fun rows => .ofMembers (intervals.map fun interval =>
        (interval.value, statusAggregate interval.toSeconds (KlineRows.ofPair rows symbol interval.value))))
        (fun table => ?_) rfl
      simp only [table.pair_of_symbol]
      rfl
  | getRangeCoverage symbol interval startTime endTime now =>
      refine ⟨congrArg RepositoryAnswer.coverage ?_, represents⟩
      refine read symbol noCoverage _ (fun rows => rangeAggregate interval.toSeconds now
        ((KlineRows.ofPair rows symbol interval.value).filter fun row =>
          (startTime.map fun startTime => ceilOpenTime startTime interval.toSeconds).all (fun start => start ≤ row.openTime) &&
            row.openTime < floorOpenTime (min endTime now) interval.toSeconds)) (fun table => ?_) rfl
      rw [table.pair_of_symbol]
      rfl
  | clearKlines symbol interval =>
      obtain ⟨count, next⟩ := manager.clear_represents lawful store whole represents symbol interval
      exact ⟨congrArg RepositoryAnswer.count count, next⟩
  | purgeAll =>
      have named : (manager.names store).toFinset = whole.symbols := manager.names_represent store whole represents
      have none : ∀ symbol, symbol ∉ manager.names (manager.purgeAll store).2 := by
        intro symbol listed
        rw [lawful.purgedNames] at listed
        cases listed
      refine ⟨congrArg RepositoryAnswer.count ?_,
        { rows := fun symbol => ?_, symbols := fun symbol => iff_of_false (none symbol) (Finset.notMem_empty symbol) }⟩
      · change (manager.purgeAll store).1 = whole.symbols.card
        rw [lawful.purgedCount, ← named, List.toFinset_card_of_nodup (lawful.distinct store)]
      · change (manager.table (manager.purgeAll store).2 symbol).rows =
          (whole.table.rows.filter fun _ => !true).filter fun row => row.symbol = symbol
        rw [lawful.absent _ symbol (none symbol)]
        simp
  | listAvailableShards =>
      exact ⟨congrArg RepositoryAnswer.shards (manager.names_represent store whole represents), represents⟩
  | getGaps symbol interval =>
      refine ⟨congrArg RepositoryAnswer.gaps ?_, represents⟩
      refine read symbol [] _ (fun rows =>
        (gapBounds interval.toSeconds (KlineRows.ofPair rows symbol interval.value)).map fun bounds =>
          let missing := queriedMissing interval.toSeconds bounds.1 bounds.2
          { symbol, interval, startTime := bounds.1, endTime := bounds.2
            missingCandles := max 1 (if missing = 0 then 1 else missing) }) (fun table => ?_) rfl
      rw [table.pair_of_symbol]
      rfl
  | hasAnyKlines symbol =>
      refine ⟨congrArg RepositoryAnswer.found ?_, represents⟩
      exact read symbol false _ (fun rows => !rows.isEmpty) (fun _ => rfl) rfl

end ShardManager

namespace KlineTable

theorem no_keys : (([] : KlineRows α).map MarketData.key).Nodup := List.nodup_nil

def empty : KlineTable α where
  rows := []
  keys := no_keys

end KlineTable

def OneTable.empty : OneTable α where
  table := .empty
  symbols := ∅

theorem ShardManager.fresh_represents (manager : ShardManager σ α) (lawful : manager.Lawful) (start : σ)
    (fresh : manager.names start = []) : manager.Represents start .empty where
  rows := fun symbol => lawful.absent start symbol (by rw [fresh]; exact List.not_mem_nil)
  symbols := fun symbol => by rw [fresh]; exact iff_of_false List.not_mem_nil (Finset.notMem_empty symbol)

-- A repository of shards answers every run of requests, saves that fail half
-- way included, as one table of all klines would.
theorem sharded_repository_refines (manager : ShardManager σ α) (lawful : manager.Lawful) (start : σ)
    (fresh : manager.names start = []) (requests : List (RepositoryRequest α)) :
    let served := Responses.serve manager.answer start requests
    let whole := Responses.serve OneTable.answer .empty requests
    served.1 = whole.1 ∧ ∀ symbol, (symbol ∈ manager.names served.2 ↔ symbol ∈ whole.2.symbols) ∧
      (manager.table served.2 symbol).rows = whole.2.table.rows.filter fun row => row.symbol = symbol := by
  intro served whole
  obtain ⟨same, represents⟩ := Responses.serve_refines (fun _ => True) manager.answer OneTable.answer
    manager.Represents (manager.answer_simulates lawful) requests start .empty
    (manager.fresh_represents lawful start fresh) fun _ _ => trivial
  exact ⟨same, fun symbol => ⟨represents.symbols symbol, represents.rows symbol⟩⟩

def shardDirectory : ShardManager (Dicts.Dict String (KlineTable α)) α where
  names := fun store => store.members.map Prod.fst
  table := fun store symbol => (store.get? symbol).getD .empty
  getRawSession := fun store symbol => if (store.get? symbol).isSome then store else store.set symbol .empty
  commit := Dicts.Dict.set
  removeShard := Dicts.Dict.pop
  purgeAll := fun store => (store.members.length, .empty)

theorem directory_names (store : Dicts.Dict String (KlineTable α)) (symbol : String) :
    symbol ∈ shardDirectory.names store ↔ (store.get? symbol).isSome := by
  rw [← not_iff_not, Option.not_isSome_iff_eq_none, Dicts.Dict.get_eq_none_iff]
  rfl

theorem directory_opened (store : Dicts.Dict String (KlineTable α)) (symbol other : String) :
    (shardDirectory.getRawSession store symbol).get? other =
      if other = symbol then some (shardDirectory.table store symbol) else store.get? other := by
  change (if (store.get? symbol).isSome then store else store.set symbol .empty).get? other =
    if other = symbol then some ((store.get? symbol).getD .empty) else store.get? other
  cases found : store.get? symbol with
  | none => simp [Dicts.Dict.get_set]
  | some table =>
      by_cases same : other = symbol
      · simp [same, found]
      · simp [same]

theorem directory_lawful : ShardManager.Lawful (shardDirectory : ShardManager (Dicts.Dict String (KlineTable α)) α) where
  distinct := fun store => store.keys
  absent := by
    intro store symbol missing
    rw [directory_names, Option.not_isSome_iff_eq_none] at missing
    change ((store.get? symbol).getD .empty).rows = []
    rw [missing]
    rfl
  openedNames := by
    intro store symbol other
    rw [directory_names, directory_names, directory_opened]
    by_cases same : other = symbol
    · simp [same]
    · simp [same]
  openedTable := by
    intro store symbol other
    change ((shardDirectory.getRawSession store symbol).get? other).getD .empty = (store.get? other).getD .empty
    rw [directory_opened]
    by_cases same : other = symbol
    · rw [if_pos same, same]
      rfl
    · rw [if_neg same]
  committedNames := by
    intro store symbol table other listed
    rw [directory_names] at listed
    rw [directory_names, directory_names]
    change ((store.set symbol table).get? other).isSome = true ↔ _
    rw [Dicts.Dict.get_set]
    by_cases same : other = symbol
    · simp [same, listed]
    · simp [same]
  committedTable := by
    intro store symbol table other _
    change ((store.set symbol table).get? other).getD .empty = if other = symbol then table else (store.get? other).getD .empty
    rw [Dicts.Dict.get_set]
    by_cases same : other = symbol
    · simp [same]
    · simp [same]
  removedNames := by
    intro store symbol other
    rw [directory_names, directory_names]
    change ((store.pop symbol).get? other).isSome = true ↔ _
    rw [Dicts.Dict.get_pop]
    by_cases same : other = symbol
    · simp [same]
    · simp [same]
  removedTable := by
    intro store symbol other different
    change ((store.pop symbol).get? other).getD .empty = (store.get? other).getD .empty
    rw [Dicts.Dict.get_pop, if_neg different]
  purgedNames := fun _ => rfl
  purgedCount := fun store => (List.length_map ..).symm

def interruptedRequests : List (RepositoryRequest ℚ) :=
  [.saveKlines [minuteKline 100 0, { minuteKline 90 0 with symbol := "ETHUSDT" }, minuteKline 101 1]
      (fun symbol => symbol = "ETHUSDT"),
    .countKlines { symbol := "BTCUSDT", interval := .oneMinute }, .clearKlines "ETHUSDT" none,
    .clearKlines "BTCUSDT" (some .oneMinute), .listAvailableShards]

theorem interrupted_requests_refine :
    (Responses.serve shardDirectory.answer Dicts.Dict.empty interruptedRequests).1 =
      (Responses.serve OneTable.answer .empty interruptedRequests).1 :=
  (sharded_repository_refines shardDirectory directory_lawful Dicts.Dict.empty rfl interruptedRequests).1

structure PruneEmptyShardsResult where
  removedSymbols : List String
  scannedCount : ℕ

namespace ShardManager

variable (manager : ShardManager σ α) (cancelled : ℕ → Bool)

-- The loop of `PruneEmptyShardsCommandHandler.execute`, whose cancellation
-- checks are numbered from 0.
def pruneShards : ℕ → List String → σ → List String × σ
  | _, [], store => ([], store)
  | number, symbol :: rest, store =>
      if cancelled number then ([], store)
      else if manager.read store symbol false fun table => !(table.ofSymbol symbol).isEmpty then
        pruneShards (number + 1) rest store
      else
        let (removed, final) := pruneShards (number + 1) rest (manager.clearKlines store symbol none).2
        (symbol :: removed, final)

def pruneEmptyShards (store : σ) : PruneEmptyShardsResult × σ :=
  let shards := manager.names store
  let (removed, final) := manager.pruneShards cancelled 0 shards store
  ({ removedSymbols := removed, scannedCount := shards.length }, final)

theorem clear_nothing (whole : OneTable α) (symbol : String) (empty : whole.table.ofSymbol symbol = []) :
    (whole.clear symbol none).2 = { whole with symbols := whole.symbols.erase symbol } := by
  have kept : (whole.table.delete fun row => row.symbol = symbol) = whole.table := by
    refine KlineTable.same_table _ _ (List.filter_eq_self.mpr fun row isRow => ?_)
    simpa using List.filter_eq_nil_iff.mp empty row isRow
  rw [OneTable.clear, kept]

variable (lawful : manager.Lawful)

include lawful in
theorem prune_represents (number : ℕ) (symbols : List String) (store : σ) (whole : OneTable α)
    (represents : manager.Represents store whole) :
    let pruned := manager.pruneShards cancelled number symbols store
    manager.Represents pruned.2 { whole with symbols := whole.symbols \ pruned.1.toFinset } ∧
      (∀ symbol ∈ pruned.1, symbol ∈ symbols ∧ whole.table.ofSymbol symbol = []) ∧
      ((∀ check, cancelled check = false) →
        ∀ symbol ∈ symbols, whole.table.ofSymbol symbol = [] → symbol ∈ pruned.1) := by
  induction symbols generalizing number store whole with
  | nil => exact ⟨by simpa [pruneShards] using represents, nofun, fun _ => nofun⟩
  | cons symbol rest ih =>
      rw [pruneShards]
      by_cases stopped : cancelled number = true
      · rw [if_pos stopped]
        refine ⟨by simpa using represents, nofun, fun never => ?_⟩
        rw [never number] at stopped
        cases stopped
      · have found : manager.read store symbol false (fun table => !(table.ofSymbol symbol).isEmpty) =
            !(whole.table.ofSymbol symbol).isEmpty :=
          manager.read_represents lawful store whole represents symbol false _ (fun rows => !rows.isEmpty) (fun _ => rfl) rfl
        rw [if_neg stopped, found]
        cases held : whole.table.ofSymbol symbol with
        | cons row more =>
            obtain ⟨kept, removed, all⟩ := ih (number + 1) store whole represents
            refine ⟨kept, fun other isRemoved => ?_, fun never other isListed empty => ?_⟩
            · exact ⟨List.mem_cons_of_mem _ (removed other isRemoved).1, (removed other isRemoved).2⟩
            · cases List.mem_cons.mp isListed with
              | inl same =>
                  rw [same, held] at empty
                  cases empty
              | inr later => exact all never other later empty
        | nil =>
            have cleared := (manager.clear_represents lawful store whole represents symbol none).2
            rw [clear_nothing whole symbol held] at cleared
            obtain ⟨kept, removed, all⟩ := ih (number + 1) _ _ cleared
            refine ⟨?_, fun other isRemoved => ?_, fun never other isListed empty => ?_⟩
            · rw [List.isEmpty_nil, Bool.not_true, if_neg Bool.false_ne_true, List.toFinset_cons, Finset.sdiff_insert,
                ← Finset.erase_sdiff_comm]
              exact kept
            · cases List.mem_cons.mp isRemoved with
              | inl same => exact ⟨same ▸ List.mem_cons_self, same ▸ held⟩
              | inr later => exact ⟨List.mem_cons_of_mem _ (removed other later).1, (removed other later).2⟩
            · cases List.mem_cons.mp isListed with
              | inl same => exact same ▸ List.mem_cons_self
              | inr later => exact List.mem_cons_of_mem _ (all never other later empty)

end ShardManager

-- A prune loses no kline: whatever is asked after it is answered as if only
-- empty shards were gone. One that is not cancelled leaves no empty shard.
theorem prune_keeps_klines (manager : ShardManager σ α) (lawful : manager.Lawful) (start : σ)
    (fresh : manager.names start = []) (requests : List (RepositoryRequest α)) (cancelled : ℕ → Bool) :
    let store := (Responses.serve manager.answer start requests).2
    let whole := (Responses.serve OneTable.answer .empty requests).2
    let pruned := manager.pruneEmptyShards cancelled store
    (∀ later, (Responses.serve manager.answer pruned.2 later).1 =
        (Responses.serve OneTable.answer { whole with symbols := whole.symbols \ pruned.1.removedSymbols.toFinset } later).1) ∧
      (∀ symbol ∈ pruned.1.removedSymbols, whole.table.ofSymbol symbol = []) ∧
      ((∀ check, cancelled check = false) →
        ∀ symbol, symbol ∈ manager.names pruned.2 ↔ whole.table.ofSymbol symbol ≠ []) := by
  intro store whole pruned
  have represents := (Responses.serve_refines (fun _ => True) manager.answer OneTable.answer manager.Represents
    (manager.answer_simulates lawful) requests start .empty (manager.fresh_represents lawful start fresh)
    fun _ _ => trivial).2
  obtain ⟨kept, removed, all⟩ := manager.prune_represents cancelled lawful 0 (manager.names store) store whole represents
  refine ⟨fun later => ?_, fun symbol isRemoved => (removed symbol isRemoved).2, fun never symbol => ?_⟩
  · exact (Responses.serve_refines (fun _ => True) manager.answer OneTable.answer manager.Represents
      (manager.answer_simulates lawful) later _ _ kept fun _ _ => trivial).1
  · have listed : symbol ∈ manager.names pruned.2 ↔ symbol ∈ whole.symbols \ pruned.1.removedSymbols.toFinset :=
      kept.symbols symbol
    rw [listed, Finset.mem_sdiff, List.mem_toFinset, ← represents.symbols]
    constructor
    · intro both empty
      exact both.2 (all never symbol both.1 empty)
    · intro held
      refine ⟨?_, fun isRemoved => held (removed symbol isRemoved).2⟩
      by_contra missing
      exact held ((represents.rows symbol).symm.trans (lawful.absent _ symbol missing))

theorem interrupted_requests_pruned :
    (shardDirectory.pruneEmptyShards (fun _ => false)
        (Responses.serve shardDirectory.answer Dicts.Dict.empty interruptedRequests).2).1.removedSymbols = ["BTCUSDT"] ∧
      ∀ symbol ∈ (shardDirectory.pruneEmptyShards (fun _ => false)
          (Responses.serve shardDirectory.answer Dicts.Dict.empty interruptedRequests).2).1.removedSymbols,
        (Responses.serve OneTable.answer .empty interruptedRequests).2.table.ofSymbol symbol = [] :=
  ⟨by decide +kernel, (prune_keeps_klines shardDirectory directory_lawful Dicts.Dict.empty rfl interruptedRequests
    fun _ => false).2.1⟩

end Sagittarius
