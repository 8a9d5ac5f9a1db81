import Mathlib.Tactic.Ring
import Mathlib.Algebra.BigOperators.Group.List.Basic
import Sagittarius.Backtest.BacktestResult

set_option autoImplicit false

namespace Sagittarius

namespace PaperExchange

def margins (exchange : PaperExchange ℚ) : ℚ := (exchange.positions.map (·.balanceBeforeEntry)).sum

def realizedProfit (exchange : PaperExchange ℚ) : ℚ := (exchange.trades.map (·.pnl)).sum

structure Conserves (exchange : PaperExchange ℚ) : Prop where
  money : exchange.balance + exchange.margins = exchange.initialBalance + exchange.realizedProfit
  sided : ∀ first ∈ exchange.positions, ∀ second ∈ exchange.positions, first.side = second.side
  limited : (exchange.positions.length : ℤ) ≤ exchange.brokerConfig.pyramiding

theorem release_realized (side : PositionSide)
    (leverage quantity entryPrice exitPrice balanceBeforeEntry entryFee exitFee : ℚ) :
    (calculateRealizedPnl side leverage quantity entryPrice exitPrice balanceBeforeEntry entryFee exitFee).2.2 =
      balanceBeforeEntry +
        (calculateRealizedPnl side leverage quantity entryPrice exitPrice balanceBeforeEntry entryFee exitFee).1 := by
  simp only [calculateRealizedPnl, realized]
  cases side with
  | short => rfl
  | long =>
      dsimp only
      split_ifs <;> ring

theorem foldl_add (initial : ℚ) (values : List ℚ) : values.foldl (· + ·) initial = initial + values.sum := by
  calc values.foldl (· + ·) initial = values.foldl (· + ·) (initial + 0) := by rw [add_zero]
    _ = initial + values.foldl (· + ·) 0 := List.foldl_assoc
    _ = initial + values.sum := by rw [List.sum_eq_foldl]

theorem settle_balance (exchange : PaperExchange ℚ) (time : ℤ) (closings : List (Closing ℚ))
    (kept : List (OpenPosition ℚ)) :
    (exchange.settle time closings kept).balance =
      exchange.balance + (closings.map fun closing => (exchange.realizedPnl closing.1 closing.2.1).2.2).sum :=
  foldl_add _ _

theorem settle_realized (exchange : PaperExchange ℚ) (time : ℤ) (closings : List (Closing ℚ))
    (kept : List (OpenPosition ℚ)) :
    (exchange.settle time closings kept).realizedProfit =
      exchange.realizedProfit + (closings.map fun closing => (exchange.realizedPnl closing.1 closing.2.1).1).sum := by
  simp [realizedProfit, settle, closeOnePosition, Function.comp_def]

theorem opened_conserves (exchange : PaperExchange ℚ) (side : PositionSide) (price : ℚ) (time : ℤ) (reason : String)
    (metadata : Metadata ℚ) (position : OpenPosition ℚ) (conserves : exchange.Conserves)
    (entered : exchange.Entered side price time reason metadata position) : (exchange.opened position).Conserves where
  money := by
    have before := conserves.money
    simp only [margins, realizedProfit, opened, List.map_append, List.map_cons, List.map_nil, List.sum_append,
      List.sum_cons, List.sum_nil] at before ⊢
    rw [← before]
    ring
  sided := by
    have all : ∀ held ∈ exchange.positions ++ [position], held.side = side := by
      intro held member
      rcases List.mem_append.mp member with earlier | new
      · exact entered.agrees held earlier
      · rw [List.mem_singleton.mp new]
        exact entered.sided
    intro first firstHeld second secondHeld
    exact (all first firstHeld).trans (all second secondHeld).symm
  limited := by
    have below := entered.below
    simp only [opened, List.length_append, List.length_cons, List.length_nil]
    omega

theorem settle_conserves (exchange : PaperExchange ℚ) (time : ℤ) (closings : List (Closing ℚ))
    (kept : List (OpenPosition ℚ)) (conserves : exchange.Conserves)
    (split : (closings.map Prod.fst ++ kept).Perm exchange.positions) :
    (exchange.settle time closings kept).Conserves where
  money := by
    have divided : exchange.margins = (closings.map (·.1.balanceBeforeEntry)).sum + (kept.map (·.balanceBeforeEntry)).sum := by
      have same := (split.map (·.balanceBeforeEntry)).sum_eq
      simpa [margins, Function.comp_def] using same.symm
    have released : (closings.map fun closing => (exchange.realizedPnl closing.1 closing.2.1).2.2).sum =
        (closings.map (·.1.balanceBeforeEntry)).sum +
          (closings.map fun closing => (exchange.realizedPnl closing.1 closing.2.1).1).sum := by
      simp only [realizedPnl, release_realized]
      exact List.sum_map_add
    have before := conserves.money
    calc (exchange.settle time closings kept).balance + (exchange.settle time closings kept).margins
        = exchange.balance + (closings.map fun closing => (exchange.realizedPnl closing.1 closing.2.1).2.2).sum +
            (kept.map (·.balanceBeforeEntry)).sum := by rw [settle_balance]; rfl
      _ = exchange.balance + exchange.margins +
            (closings.map fun closing => (exchange.realizedPnl closing.1 closing.2.1).1).sum := by
          rw [released, divided]
          ring
      _ = (exchange.settle time closings kept).initialBalance + (exchange.settle time closings kept).realizedProfit := by
          rw [before, settle_realized, add_assoc]
          rfl
  sided := by
    intro first firstHeld second secondHeld
    have held : ∀ position ∈ kept, position ∈ exchange.positions :=
      fun position member => split.subset (List.mem_append_right _ member)
    exact conserves.sided first (held first firstHeld) second (held second secondHeld)
  limited := by
    have counted := split.length_eq
    have before := conserves.limited
    simp only [List.length_append] at counted
    simp only [settle]
    omega

theorem perform_conserves (exchange : PaperExchange ℚ) (call : ExchangeCall ℚ) (conserves : exchange.Conserves) :
    (exchange.perform call).Conserves :=
  perform_invariant Conserves opened_conserves settle_conserves exchange call conserves

end PaperExchange

namespace PaperExchange

variable {α : Type} [PyFloat α]

def acceptedEntries : PaperExchange α → List (ExchangeCall α) → List (OpenPosition α)
  | _, [] => []
  | exchange, call :: rest => (exchange.accepts call).toList ++ acceptedEntries (exchange.perform call) rest

def records (exchange : PaperExchange α) : List (EntryRecord α) :=
  exchange.trades.map Trade.record ++ exchange.positions.map OpenPosition.record

theorem settle_records (exchange : PaperExchange α) (time : ℤ) (closings : List (Closing α))
    (kept : List (OpenPosition α)) (split : (closings.map Prod.fst ++ kept).Perm exchange.positions) :
    (exchange.settle time closings kept).records.Perm exchange.records := by
  have closed : (exchange.settle time closings kept).trades.map Trade.record =
      exchange.trades.map Trade.record ++ (closings.map Prod.fst).map OpenPosition.record := by
    simp [settle, closeOnePosition, Function.comp_def, Trade.record, OpenPosition.record]
  unfold records
  rw [closed, List.append_assoc]
  refine List.Perm.append_left _ ?_
  simpa [settle] using split.map OpenPosition.record

theorem perform_records (exchange : PaperExchange α) (call : ExchangeCall α) :
    (exchange.perform call).records.Perm
      (exchange.records ++ (exchange.accepts call).toList.map OpenPosition.record) := by
  rcases exchange.perform_cases call with
    ⟨position, _, _, _, _, _, accepted, _, performed⟩ | ⟨refused, kept, split, performed⟩
  · rw [performed, accepted]
    simp [records, opened]
  · rw [performed, refused]
    simpa using exchange.settle_records call.time _ kept split

theorem run_records (exchange : PaperExchange α) (calls : List (ExchangeCall α)) :
    (exchange.run calls).records.Perm
      (exchange.records ++ (exchange.acceptedEntries calls).map OpenPosition.record) := by
  induction calls generalizing exchange with
  | nil => simp [run, acceptedEntries]
  | cons call rest ih =>
      have later := ih (exchange.perform call)
      refine later.trans ?_
      simp only [acceptedEntries, List.map_append, ← List.append_assoc]
      exact (exchange.perform_records call).append_right _

theorem force_close_records (exchange : PaperExchange α) (price : α) (time : ℤ) :
    (exchange.forceClose price time).2.records = (exchange.forceClose price time).2.trades.map Trade.record := by
  simp [records, exchange.force_close_flat price time]

end PaperExchange

theorem winners_losers_sum (trades : List (Trade ℚ)) :
    ((BacktestMetrics.winners trades).map (·.pnl)).sum + ((BacktestMetrics.losers trades).map (·.pnl)).sum =
      (trades.map (·.pnl)).sum := by
  induction trades with
  | nil => simp [BacktestMetrics.winners, BacktestMetrics.losers]
  | cons trade rest ih =>
      simp only [BacktestMetrics.winners, BacktestMetrics.losers, rat_of_int, Int.cast_zero] at ih ⊢
      rcases lt_trichotomy trade.pnl 0 with lost | even | won
      · simp [lost, lost.not_gt, ← ih]
        ring
      · simp [even, ← ih]
      · simp [won, won.not_gt, ← ih]
        ring

theorem net_profit_sums (trades : List (Trade ℚ)) (equityCurve : EquityCurve ℚ) (initialBalance : ℚ) :
    (BacktestMetrics.compute trades equityCurve initialBalance).netProfit = (trades.map (·.pnl)).sum := by
  cases trades with
  | nil => rfl
  | cons trade rest => exact winners_losers_sum (trade :: rest)

theorem paper_exchange_conserves (symbol : String) (initialBalance feePercent : ℚ)
    (sizing : Option { sizing : PositionSizing ℚ // sizing.Accepted }) (config : Option (BrokerSimulationConfig ℚ))
    (exchange : PaperExchange ℚ)
    (created : PaperExchange.create symbol initialBalance feePercent sizing config = some exchange)
    (calls : List (ExchangeCall ℚ)) :
    let reached := exchange.run calls
    reached.balance + (reached.positions.map (·.balanceBeforeEntry)).sum =
        initialBalance + (reached.trades.map (·.pnl)).sum ∧
      (∀ first ∈ reached.positions, ∀ second ∈ reached.positions, first.side = second.side) ∧
      (reached.positions.length : ℤ) ≤ exchange.brokerConfig.pyramiding ∧
      ∀ price time,
        let closed := (reached.forceClose price time).2
        closed.positions = [] ∧
          (closed.trades.map Trade.record).Perm ((exchange.acceptedEntries calls).map OpenPosition.record) ∧
          ∀ equityCurve, closed.balance =
            initialBalance + (BacktestMetrics.compute closed.trades equityCurve initialBalance).netProfit := by
  obtain ⟨initial, balance, positions, trades⟩ :=
    PaperExchange.create_fresh symbol initialBalance feePercent sizing config exchange created
  have fresh : exchange.Conserves := by
    have positive := exchange.brokerConfig.pyramiding_positive
    refine ⟨?_, by simp [positions], by simp only [positions, List.length_nil]; omega⟩
    simp [PaperExchange.margins, PaperExchange.realizedProfit, initial, balance, positions, trades]
  have reached := PaperExchange.run_invariant _ PaperExchange.perform_conserves exchange calls fresh
  obtain ⟨sameInitial, sameConfig⟩ := exchange.run_fixed calls
  have money := reached.money
  rw [sameInitial, initial] at money
  refine ⟨money, reached.sided, sameConfig ▸ reached.limited, fun price time => ?_⟩
  have flat := (exchange.run calls).force_close_flat price time
  refine ⟨flat, ?_, fun equityCurve => ?_⟩
  · have all := (exchange.run calls).perform_records (.forceClose price time)
    have earlier := exchange.run_records calls
    rw [PaperExchange.perform, PaperExchange.force_close_records] at all
    simpa [PaperExchange.accepts, PaperExchange.records, positions, trades] using all.trans (earlier.append_right _)
  · have closed := (PaperExchange.perform_conserves _ (.forceClose price time) reached).money
    have fixed := ((exchange.run calls).perform_fixed (.forceClose price time)).1
    simp only [PaperExchange.margins, PaperExchange.realizedProfit, fixed, sameInitial, initial] at closed
    simp only [PaperExchange.perform, flat, List.map_nil, List.sum_nil, add_zero] at closed
    rw [closed, net_profit_sums]

def spotConfig : BrokerSimulationConfig ℚ where
  commissionValue := 1 / 10
  slippage_nonnegative := default_slippage
  tick_positive := by decide +kernel
  commission_nonnegative := by decide +kernel
  pyramiding_positive := default_pyramiding
  leverage_positive := by decide +kernel
  stop_in_range := by simp
  target_positive := by simp

def fundedExchange (brokerConfig : BrokerSimulationConfig ℚ) : PaperExchange ℚ where
  symbol := "BTCUSDT"
  initialBalance := 1000
  brokerConfig := brokerConfig
  positionSizing := .percentOfEquity 100
  balance := 1000
  positions := []
  trades := []
  initial_positive := by decide +kernel
  sizing_accepted := by decide +kernel

def spotExchange : PaperExchange ℚ := fundedExchange spotConfig

def entrySignal (action : SignalAction) : Signal ℚ where
  symbol := "BTCUSDT"
  action := action
  reason := "crossed"
  price := 100
  time := 0

theorem paper_exchange_conserves_spot :
    let calls := [.fill (entrySignal .buy) 100 0, .checkIntrabarStops 120 90 1, .fill (entrySignal .sell) 110 2]
    let reached := spotExchange.run calls
    reached.balance + (reached.positions.map (·.balanceBeforeEntry)).sum = 1000 + (reached.trades.map (·.pnl)).sum ∧
      reached.trades.length = 1 :=
  ⟨(paper_exchange_conserves "BTCUSDT" 1000 (1 / 10) none none spotExchange (by with_unfolding_all rfl) _).1,
    by decide +kernel⟩

end Sagittarius
