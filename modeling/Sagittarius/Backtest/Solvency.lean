import Sagittarius.Library.Machine
import Sagittarius.Backtest.Valuation

set_option autoImplicit false

namespace Sagittarius

def OpenPosition.lossAt (position : OpenPosition ℚ) (price : ℚ) : ℚ :=
  match position.side with
  | .long => (position.entryPrice - price) * position.quantity
  | .short => (price - position.entryPrice) * position.quantity

namespace PaperExchange

-- The margin pays for the loss and for both fees.
def CoversExit (exchange : PaperExchange ℚ) (position : OpenPosition ℚ) (exitPrice : ℚ) : Prop :=
  position.lossAt exitPrice + position.entryFee + exchange.exitFee position exitPrice ≤ position.balanceBeforeEntry

def CoversClosings (exchange : PaperExchange ℚ) (call : ExchangeCall ℚ) : Prop :=
  ∀ closing ∈ exchange.closings call, exchange.CoversExit closing.1 closing.2.1

def CoversMark (exchange : PaperExchange ℚ) (markPrice : ℚ) : Prop :=
  ∀ position ∈ exchange.positions, position.lossAt markPrice ≤ position.balanceBeforeEntry

instance (exchange : PaperExchange ℚ) (call : ExchangeCall ℚ) : Decidable (exchange.CoversClosings call) :=
  inferInstanceAs (Decidable (∀ closing ∈ exchange.closings call, _ + _ ≤ _))

theorem release_nonnegative (exchange : PaperExchange ℚ) (position : OpenPosition ℚ) (exitPrice : ℚ)
    (sound : position.Sound exchange.brokerConfig) (covered : exchange.CoversExit position exitPrice) :
    0 ≤ (exchange.realizedPnl position exitPrice).2.2 := by
  have spent := sound.spent
  unfold CoversExit OpenPosition.lossAt at covered
  simp only [realizedPnl, calculateRealizedPnl, realized, rat_equal, rat_literal]
  cases side : position.side with
  | long =>
      simp only [side] at covered ⊢
      by_cases spot : position.leverage = 1
      · simp only [spot, if_true]
        rw [spot, mul_one] at spent
        nlinarith
      · simp only [spot, if_false]
        nlinarith
  | short =>
      simp only [side] at covered ⊢
      nlinarith

theorem marked_nonnegative (config : BrokerSimulationConfig ℚ) (position : OpenPosition ℚ) (markPrice : ℚ)
    (sound : position.Sound config) (priced : 0 ≤ markPrice)
    (covered : position.lossAt markPrice ≤ position.balanceBeforeEntry) : 0 ≤ position.marked markPrice := by
  have quantity := sound.quantity_positive
  unfold OpenPosition.lossAt at covered
  simp only [OpenPosition.marked, markToMarket, rat_equal, rat_literal]
  cases side : position.side with
  | long =>
      simp only [side] at covered ⊢
      split_ifs
      · positivity
      · linarith
  | short =>
      simp only [side] at covered ⊢
      linarith

structure Solvent (exchange : PaperExchange ℚ) : Prop where
  sound : exchange.Sound
  cash : 0 ≤ exchange.balance

theorem perform_solvent (exchange : PaperExchange ℚ) (call : ExchangeCall ℚ) (solvent : exchange.Solvent)
    (covered : exchange.CoversClosings call) : (exchange.perform call).Solvent where
  sound := exchange.perform_sound call solvent.sound
  cash := by
    rcases exchange.perform_cases call with
      ⟨position, side, price, reason, metadata, accepted, _, _, performed⟩ | ⟨_, kept, split, performed⟩
    · have entered := entry_entered exchange side price call.time reason metadata position accepted
      have affordable := (exchange.entered_sound side price call.time reason metadata position entered).2
      rw [performed]
      exact sub_nonneg.mpr affordable
    · rw [performed, settle_balance]
      refine add_nonneg solvent.cash (List.sum_nonneg fun release member => ?_)
      obtain ⟨closing, closed, rfl⟩ := List.mem_map.mp member
      have held : closing.1 ∈ exchange.positions :=
        split.subset (List.mem_append_left _ (List.mem_map_of_mem closed))
      exact exchange.release_nonnegative closing.1 closing.2.1 (solvent.sound closing.1 held) (covered closing closed)

theorem equity_nonnegative (exchange : PaperExchange ℚ) (markPrice : ℚ) (solvent : exchange.Solvent)
    (priced : 0 ≤ markPrice) (covered : exchange.CoversMark markPrice) : 0 ≤ exchange.equity markPrice := by
  rw [equity_sum]
  refine add_nonneg solvent.cash (List.sum_nonneg fun value member => ?_)
  obtain ⟨position, held, rfl⟩ := List.mem_map.mp member
  exact marked_nonnegative exchange.brokerConfig position markPrice (solvent.sound position held) priced
    (covered position held)

def call {α : Type} [PyFloat α] (exchange : PaperExchange α) (call : ExchangeCall α) : Option (PaperExchange α) :=
  some (exchange.perform call)

theorem run_calls {α : Type} [PyFloat α] (exchange : PaperExchange α) (calls : List (ExchangeCall α)) :
    Interleaving.run PaperExchange.call exchange calls = some (exchange.run calls) := by
  induction calls generalizing exchange with
  | nil => rfl
  | cons next rest ih => exact ih (exchange.perform next)

end PaperExchange

def leveragedConfig : BrokerSimulationConfig ℚ :=
  { spotConfig with longLeverage := 10, leverage_positive := by decide +kernel }

def leveragedExchange : PaperExchange ℚ := fundedExchange leveragedConfig

end Sagittarius
