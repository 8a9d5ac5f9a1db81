import Sagittarius.Backtest.Conservation
import Sagittarius.Backtest.EntryCapital

set_option autoImplicit false

namespace Sagittarius

-- The entry fee a close still charges. An unleveraged long has paid it with a
-- smaller quantity.
def OpenPosition.chargedAtClose (position : OpenPosition ℚ) : ℚ :=
  if position.side = .long ∧ position.leverage = 1 then 0 else position.entryFee

namespace PaperExchange

theorem release_marked (exchange : PaperExchange ℚ) (position : OpenPosition ℚ) (price : ℚ) :
    (exchange.realizedPnl position price).2.2 =
      position.marked price - exchange.exitFee position price - position.chargedAtClose := by
  simp only [realizedPnl, calculateRealizedPnl, realized, OpenPosition.marked, markToMarket,
    OpenPosition.chargedAtClose, rat_equal, rat_literal]
  cases position.side with
  | long =>
      by_cases spot : position.leverage = 1
      · simp [spot]
      · simp only [spot, if_false, and_false]
        ring
  | short =>
      simp only [reduceCtorEq, false_and, if_false]
      ring

theorem equity_sum (exchange : PaperExchange ℚ) (markPrice : ℚ) :
    exchange.equity markPrice = exchange.balance + (exchange.positions.map (·.marked markPrice)).sum := by
  unfold equity
  cases exchange.positions with
  | nil => simp
  | cons first rest => rfl

theorem force_close_balance (exchange : PaperExchange ℚ) (price : ℚ) (time : ℤ) :
    (exchange.forceClose price time).2.balance = exchange.balance +
      (exchange.positions.map fun position =>
        (exchange.realizedPnl position (exchange.exitEffectivePrice position.side price)).2.2).sum := by
  rw [force_close_settles, settle_balance]
  congr 1
  simpa [Function.comp_def] using ((exchange.force_closings_perm price).map
    fun closing => (exchange.realizedPnl closing.1 closing.2.1).2.2).sum_eq

theorem exit_unslipped (exchange : PaperExchange ℚ) (side : PositionSide) (price : ℚ)
    (unslipped : exchange.brokerConfig.slippageTicks = 0) (positive : 0 < price) :
    exchange.exitEffectivePrice side price = price := by
  simp only [exitEffectivePrice, slippageDelta, calculateSlippageDelta, unslipped]
  cases side with
  | long => simp [calculateExitEffectivePrice, rat_larger, positive.le]
  | short => simp [calculateExitEffectivePrice]

def exitFees (exchange : PaperExchange ℚ) (price : ℚ) : ℚ :=
  (exchange.positions.map fun position =>
    exchange.exitFee position (exchange.exitEffectivePrice position.side price)).sum

-- Closing pays the equity and the exit fees, less the entry fees it still
-- charges.
theorem force_close_pays (exchange : PaperExchange ℚ) (price : ℚ) (time : ℤ)
    (unslipped : exchange.brokerConfig.slippageTicks = 0) (positive : 0 < price) :
    (exchange.forceClose price time).2.balance =
      exchange.equity price - exchange.exitFees price - (exchange.positions.map (·.chargedAtClose)).sum := by
  have exits : ∀ side, exchange.exitEffectivePrice side price = price :=
    fun side => exchange.exit_unslipped side price unslipped positive
  have marked : (exchange.positions.map fun position => (exchange.realizedPnl position price).2.2).sum +
      (exchange.positions.map fun position => exchange.exitFee position price).sum +
        (exchange.positions.map (·.chargedAtClose)).sum = (exchange.positions.map (·.marked price)).sum := by
    rw [← List.sum_map_add, ← List.sum_map_add]
    congr 2
    funext position
    rw [release_marked]
    ring
  rw [force_close_balance, equity_sum, exitFees]
  simp only [exits, ← marked]
  ring

theorem charged_nothing_iff (exchange : PaperExchange ℚ) (sound : exchange.Sound) :
    (exchange.positions.map (·.chargedAtClose)).sum = 0 ↔
      exchange.brokerConfig.commissionValue = 0 ∨
        ∀ position ∈ exchange.positions, position.side = .long ∧ position.leverage = 1 := by
  have nonnegative : ∀ fee ∈ exchange.positions.map (·.chargedAtClose), 0 ≤ fee := by
    intro fee member
    obtain ⟨position, held, rfl⟩ := List.mem_map.mp member
    unfold OpenPosition.chargedAtClose
    split_ifs
    · exact le_refl 0
    · exact (sound position held).fee_nonnegative
  constructor
  · intro empty
    by_cases free : exchange.brokerConfig.commissionValue = 0
    · exact .inl free
    · right
      intro position held
      have uncharged := List.all_zero_of_le_zero_le_of_sum_eq_zero nonnegative empty (List.mem_map_of_mem held)
      by_contra charged
      rw [OpenPosition.chargedAtClose, if_neg charged, (sound position held).fee_zero_iff] at uncharged
      exact free uncharged
  · intro spared
    refine List.sum_eq_zero fun fee member => ?_
    obtain ⟨position, held, rfl⟩ := List.mem_map.mp member
    unfold OpenPosition.chargedAtClose
    split_ifs with spot
    · rfl
    · rcases spared with free | spots
      · exact (sound position held).fee_zero_iff.mpr free
      · exact absurd (spots position held) spot

end PaperExchange

theorem equity_agrees_with_closing_iff (symbol : String) (initialBalance feePercent : ℚ)
    (sizing : Option { sizing : PositionSizing ℚ // sizing.Accepted }) (config : Option (BrokerSimulationConfig ℚ))
    (exchange : PaperExchange ℚ)
    (created : PaperExchange.create symbol initialBalance feePercent sizing config = some exchange)
    (unslipped : exchange.brokerConfig.slippageTicks = 0)
    (calls : List (ExchangeCall ℚ)) (price : ℚ) (positive : 0 < price) (time : ℤ) :
    let reached := exchange.run calls
    (reached.forceClose price time).2.balance = reached.equity price - reached.exitFees price ↔
      exchange.brokerConfig.commissionValue = 0 ∨
        ∀ position ∈ reached.positions, position.side = .long ∧ position.leverage = 1 := by
  intro reached
  obtain ⟨_, _, positions, _⟩ :=
    PaperExchange.create_fresh symbol initialBalance feePercent sizing config exchange created
  have fresh : exchange.Sound := by simp [PaperExchange.Sound, positions]
  have sound : reached.Sound := PaperExchange.run_invariant _ PaperExchange.perform_sound exchange calls fresh
  have fixed : reached.brokerConfig = exchange.brokerConfig := (exchange.run_fixed calls).2
  rw [reached.force_close_pays price time (fixed ▸ unslipped) positive, sub_eq_self, reached.charged_nothing_iff sound,
    fixed]

theorem equity_agrees_with_closing_spot :
    let reached := spotExchange.run [.fill (entrySignal .buy) 100 0]
    (reached.forceClose 110 1).2.balance = reached.equity 110 - reached.exitFees 110 :=
  (equity_agrees_with_closing_iff "BTCUSDT" 1000 (1 / 10) none none spotExchange (by with_unfolding_all rfl) rfl
    [.fill (entrySignal .buy) 100 0] 110 (by norm_num) 1).mpr (.inr (by decide +kernel))

-- A short held at its entry price is worth its margin until it is closed,
-- which takes the entry fee from it.
theorem equity_short_overstated :
    PaperExchange.create "BTCUSDT" 1000 (1 / 10) = some spotExchange ∧ spotExchange.brokerConfig.slippageTicks = 0 ∧
      let reached := spotExchange.run [.fill (entrySignal .short) 100 0]
      reached.equity 100 = 1000 ∧ reached.exitFees 100 = 999 / 1000 ∧
        (reached.forceClose 100 1).2.balance = 1000 - 999 / 1000 - 1 ∧
        (reached.forceClose 100 1).2.balance ≠ reached.equity 100 - reached.exitFees 100 :=
  ⟨by with_unfolding_all rfl, rfl, by decide +kernel⟩

end Sagittarius
