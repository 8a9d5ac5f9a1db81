import Sagittarius.Domain.TimeFrame
import Sagittarius.Market.SyncMarketData

set_option autoImplicit false

namespace Sagittarius

variable {α : Type}

-- The primary key of the table keeps two rows from having the same.
structure KlineTable (α : Type) where
  rows : KlineRows α
  keys : (rows.map MarketData.key).Nodup

structure GetHistoricalKlinesQuery where
  symbol : String
  interval : TimeFrame
  limit : ℤ := 1000
  startTime : Option ℤ := none
  endTime : Option ℤ := none
  orderByDesc : Bool := false

namespace GetHistoricalKlinesQuery

def selects (query : GetHistoricalKlinesQuery) (row : MarketData α) : Bool :=
  row.symbol = query.symbol && row.interval = query.interval.value &&
    query.startTime.all (fun start => start ≤ row.openTime) && query.endTime.all fun limit => row.openTime ≤ limit

def order (query : GetHistoricalKlinesQuery) (rows : List (MarketData α)) : List (MarketData α) :=
  if query.orderByDesc then KeyedRows.newest MarketData.openTime rows
  else rows.insertionSort fun first second => first.openTime ≤ second.openTime

-- `LIMIT` with a negative number is no limit.
def cut (query : GetHistoricalKlinesQuery) (rows : List (MarketData α)) : List (MarketData α) :=
  if query.limit < 0 then rows else rows.take query.limit.toNat

end GetHistoricalKlinesQuery

-- `get_klines` as the handler calls it. A symbol without a shard has no rows.
def KlineTable.getKlines (table : KlineTable α) (query : GetHistoricalKlinesQuery) : List (MarketData α) :=
  query.cut (query.order (table.rows.filter query.selects))

namespace KlineTable

variable (table : KlineTable α) (query : GetHistoricalKlinesQuery)

theorem selected_times_distinct : ((table.rows.filter query.selects).map (·.openTime)).Nodup := by
  have distinct : ((table.rows.filter query.selects).map MarketData.key).Nodup :=
    table.keys.sublist (List.filter_sublist.map _)
  refine List.pairwise_map.mpr ((List.pairwise_map.mp distinct).imp_of_mem ?_)
  intro first second listedFirst listedSecond different same
  have firstOf := (List.mem_filter.mp listedFirst).2
  have secondOf := (List.mem_filter.mp listedSecond).2
  simp only [GetHistoricalKlinesQuery.selects, Bool.and_eq_true, decide_eq_true_eq] at firstOf secondOf
  refine different ?_
  simp only [MarketData.key, KlineKey.mk.injEq]
  exact ⟨firstOf.1.1.1.trans secondOf.1.1.1.symm, firstOf.1.1.2.trans secondOf.1.1.2.symm, same⟩

theorem selects_iff (row : MarketData α) : query.selects row = true ↔
    row.symbol = query.symbol ∧ row.interval = query.interval.value ∧
      (∀ start ∈ query.startTime, start ≤ row.openTime) ∧ ∀ limit ∈ query.endTime, row.openTime ≤ limit := by
  simp [GetHistoricalKlinesQuery.selects, Option.all_eq_true, and_assoc]

theorem cut_sublist (rows : List (MarketData α)) : (query.cut rows).Sublist rows := by
  by_cases unlimited : query.limit < 0
  · rw [GetHistoricalKlinesQuery.cut, if_pos unlimited]
  · rw [GetHistoricalKlinesQuery.cut, if_neg unlimited]
    exact List.take_sublist _ rows

theorem order_mem (rows : List (MarketData α)) (row : MarketData α) : row ∈ query.order rows ↔ row ∈ rows := by
  by_cases descending : query.orderByDesc = true
  · rw [GetHistoricalKlinesQuery.order, if_pos descending]
    exact KeyedRows.newest_mem MarketData.openTime rows row
  · rw [GetHistoricalKlinesQuery.order, if_neg descending]
    exact List.mem_insertionSort _

theorem get_klines_mem (row : MarketData α) (found : row ∈ table.getKlines query) :
    row ∈ table.rows ∧ query.selects row = true :=
  List.mem_filter.mp ((order_mem query _ row).mp ((cut_sublist query _).subset found))

theorem get_klines_descending (descending : query.orderByDesc = true) :
    (table.getKlines query).Pairwise fun first second => second.openTime < first.openTime := by
  refine List.Pairwise.sublist (cut_sublist query _) ?_
  rw [GetHistoricalKlinesQuery.order, if_pos descending]
  exact KeyedRows.newest_descending MarketData.openTime _ (selected_times_distinct table query)

theorem get_klines_cut (descending : query.orderByDesc = true) (row taken : MarketData α) (stored : row ∈ table.rows)
    (selected : query.selects row = true) (missed : row ∉ table.getKlines query)
    (found : taken ∈ table.getKlines query) : row.openTime ≤ taken.openTime := by
  have stays := List.mem_filter.mpr ⟨stored, selected⟩
  rw [getKlines, GetHistoricalKlinesQuery.cut] at missed found
  split_ifs at missed found with unlimited
  · exact absurd ((order_mem query _ row).mpr stays) missed
  · rw [GetHistoricalKlinesQuery.order, if_pos descending] at missed found
    exact KeyedRows.newest_cut MarketData.openTime _ _ row taken stays missed found

end KlineTable

end Sagittarius
