import Sagittarius.Backtest.ReplayEvents
import Sagittarius.Market.RangeCoverage

set_option autoImplicit false

namespace Sagittarius

variable {α : Type}

structure BacktestState where
  isRunning : Bool := false
deriving DecidableEq

namespace RunBacktestCommandHandler

def fetchHistoricalData [PyFloat α] (table : KlineTable α) (command : RunBacktestCommand) : Option (List (MarketData α)) :=
  let klines := getKlines table.rows command.symbol command.interval command.limit
  if klines.isEmpty then none else some klines

-- The klines of the events published, and the flag after the loop. It is read
-- before every kline, and nobody else writes it here.
def simulationLoop : BacktestState → List (MarketData α) → List (MarketData α) × BacktestState
  | _, [] => ([], { isRunning := false })
  | state, kline :: rest =>
      if state.isRunning then
        let (published, after) := simulationLoop state rest
        (kline :: published, after)
      else ([], { isRunning := false })

def runSimulationLoop (klines : List (MarketData α)) : List (MarketData α) × BacktestState :=
  simulationLoop { isRunning := true } klines

def execute [PyFloat α] (state : BacktestState) (table : KlineTable α) (command : RunBacktestCommand) :
    List (MarketData α) × BacktestState :=
  if state.isRunning then ([], state)
  else
    match fetchHistoricalData table command with
    | none => ([], state)
    | some klines => runSimulationLoop klines

theorem run_simulation_loop_eq (klines : List (MarketData α)) :
    runSimulationLoop klines = (klines, { isRunning := false }) := by
  rw [runSimulationLoop]
  induction klines with
  | nil => rfl
  | cons kline rest ih => rw [simulationLoop, if_pos rfl, ih]

theorem execute_fetched [PyFloat α] (table : KlineTable α) (command : RunBacktestCommand) :
    execute {} table command =
      (getKlines table.rows command.symbol command.interval command.limit, { isRunning := false }) := by
  rw [execute, if_neg (by decide), fetchHistoricalData]
  by_cases empty : (getKlines table.rows command.symbol command.interval command.limit).isEmpty = true
  · rw [if_pos empty, List.isEmpty_iff.mp empty]
  · rw [if_neg empty]
    exact run_simulation_loop_eq _

end RunBacktestCommandHandler

def RunBacktestCommand.rows (command : RunBacktestCommand) (table : KlineTable α) : List (MarketData α) :=
  KlineRows.ofPair table.rows command.symbol command.interval

theorem command_rows_distinct (command : RunBacktestCommand) (table : KlineTable α) :
    ((command.rows table).map MarketData.openTime).Nodup := by
  have distinct : ((command.rows table).map MarketData.key).Nodup := table.keys.sublist (List.filter_sublist.map _)
  refine List.pairwise_map.mpr ((List.pairwise_map.mp distinct).imp_of_mem ?_)
  intro first second isFirst isSecond different same
  have firstOf := of_decide_eq_true (List.mem_filter.mp isFirst).2
  have secondOf := of_decide_eq_true (List.mem_filter.mp isSecond).2
  simp only [MarketData.key] at firstOf secondOf
  refine different ?_
  rw [MarketData.key, MarketData.key, firstOf.1, firstOf.2, secondOf.1, secondOf.2, same]

theorem latest_rows (command : RunBacktestCommand) (table : KlineTable α) (limit : ℕ) :
    (KeyedRows.latest MarketData.openTime limit (command.rows table)).length = min limit (command.rows table).length ∧
      ∀ row ∈ command.rows table, row ∉ KeyedRows.latest MarketData.openTime limit (command.rows table) →
        ∀ taken ∈ KeyedRows.latest MarketData.openTime limit (command.rows table), row.openTime < taken.openTime :=
  ⟨KeyedRows.latest_length MarketData.openTime limit _, fun row stored missed taken listed =>
    KeyedRows.latest_recent MarketData.openTime limit _ (command_rows_distinct command table) row taken stored missed listed⟩

def toMarketDataEntity (row : MarketData α) : MarketData α := { row with isClosed := true }

theorem get_klines_first [PyFloat α] (table : KlineTable α) (command : RunBacktestCommand) (positive : 0 < command.limit) :
    getKlines table.rows command.symbol command.interval command.limit =
      ((chronological (command.rows table)).take command.limit.toNat).map toMarketDataEntity := by
  rw [getKlines, if_neg (by omega)]
  rfl

theorem replays_most_recent_iff [PyFloat α] (table : KlineTable α) (command : RunBacktestCommand)
    (positive : 0 < command.limit) :
    (RunBacktestCommandHandler.execute {} table command).1 =
        (KeyedRows.latest MarketData.openTime command.limit.toNat (command.rows table)).map toMarketDataEntity ↔
      (command.rows table).length ≤ command.limit := by
  rw [RunBacktestCommandHandler.execute_fetched, get_klines_first table command positive]
  constructor
  · intro same
    have times := congrArg (List.map MarketData.openTime) same
    rw [List.map_map, List.map_map] at times
    have fits := KeyedRows.first_latest_fits MarketData.openTime command.limit.toNat (command.rows table)
      (command_rows_distinct command table) (by omega) times
    omega
  · intro fits
    rw [chronological, KeyedRows.first_latest_all MarketData.openTime command.limit.toNat (command.rows table) (by omega)]

theorem replays_whole_store :
    (RunBacktestCommandHandler.execute {} holedTable { symbol := "BTCUSDT", interval := "1m", limit := 4 }).1 =
        (KeyedRows.latest MarketData.openTime 4
          (RunBacktestCommand.rows { symbol := "BTCUSDT", interval := "1m", limit := 4 } holedTable)).map
            toMarketDataEntity ↔
      ((RunBacktestCommand.rows { symbol := "BTCUSDT", interval := "1m", limit := 4 } holedTable).length : ℤ) ≤ 4 :=
  replays_most_recent_iff holedTable { symbol := "BTCUSDT", interval := "1m", limit := 4 } (by decide)

theorem replay_starts_oldest :
    ¬ ∀ (table : KlineTable ℚ) (command : RunBacktestCommand), 0 < command.limit →
      (RunBacktestCommandHandler.execute {} table command).1 =
        (KeyedRows.latest MarketData.openTime command.limit.toNat (command.rows table)).map toMarketDataEntity := by
  intro claimed
  have latest := claimed holedTable { symbol := "BTCUSDT", interval := "1m", limit := 1 } (by decide)
  revert latest
  decide +kernel

end Sagittarius
