import Mathlib.Tactic.FieldSimp
import Mathlib.Tactic.Ring
import Mathlib.Tactic.Positivity
import Sagittarius.Backtest.PaperExchange

set_option autoImplicit false

namespace Sagittarius

theorem nothing_positive {first second : ℚ} (nothing : ((0 : ℚ), (0 : ℚ)) = (first, second)) :
    ¬ 0 < first ∧ ¬ 0 < second := by
  cases nothing
  exact ⟨lt_irrefl 0, lt_irrefl 0⟩

theorem requested_leveraged (sizing : PositionSizing ℚ) (effectivePrice currentEquity leverage : ℚ)
    (stopLossPct : Option ℚ) (margin notional : ℚ) (positive : 0 < leverage)
    (asked : sizing.requested effectivePrice currentEquity leverage stopLossPct = some (margin, notional)) :
    notional = margin * leverage := by
  have nonzero : leverage ≠ 0 := ne_of_gt positive
  cases sizing with
  | percentOfEquity value =>
      cases asked
      rfl
  | fixedCash value =>
      cases asked
      rfl
  | fixedContracts value =>
      cases asked
      exact (div_mul_cancel₀ _ nonzero).symm
  | riskPercent value =>
      cases stopLossPct with
      | none => cases asked
      | some stop =>
          simp only [PositionSizing.requested] at asked
          split_ifs at asked
          cases asked
          exact (div_mul_cancel₀ _ nonzero).symm

theorem margin_clamped (effectivePrice currentEquity availableBalance : ℚ) (sizing : PositionSizing ℚ) (leverage : ℚ)
    (stopLossPct : Option ℚ) (margin notional : ℚ)
    (calculated : calculateMarginAndNotional effectivePrice currentEquity availableBalance sizing leverage stopLossPct =
      (margin, notional))
    (positive : 0 < margin) : margin ≤ availableBalance ∧ notional = margin * leverage := by
  unfold calculateMarginAndNotional at calculated
  simp only [rat_of_int, Int.cast_zero] at calculated
  split_ifs at calculated with refused
  · exact absurd positive (nothing_positive calculated).1
  have leveraged : 0 < leverage := not_le.mp fun nonpositive => refused (.inr nonpositive)
  cases asked : sizing.requested effectivePrice currentEquity leverage stopLossPct with
  | none =>
      rw [asked] at calculated
      exact absurd positive (nothing_positive calculated).1
  | some request =>
      obtain ⟨wanted, notionalCapital⟩ := request
      have ratio := requested_leveraged sizing effectivePrice currentEquity leverage stopLossPct wanted notionalCapital
        leveraged asked
      simp only [asked] at calculated
      by_cases clamped : availableBalance < wanted
      · simp only [if_pos clamped] at calculated
        split_ifs at calculated with wantedPositive empty empty
        · exact absurd positive (nothing_positive calculated).1
        · cases calculated
          refine ⟨le_refl _, ?_⟩
          rw [ratio]
          field_simp
        · exact absurd positive (nothing_positive calculated).1
        · simp at empty
      · simp only [if_neg clamped] at calculated
        split_ifs at calculated with empty
        · exact absurd positive (nothing_positive calculated).1
        · cases calculated
          exact ⟨not_lt.mp clamped, ratio⟩

-- Whatever the commission, it and the cost of the quantity are the notional.
theorem entry_fee_splits (notionalCapital effectivePrice commissionValue : ℚ) (commissionType : CommissionType)
    (entryFee quantity : ℚ) (charged : 0 ≤ commissionValue)
    (calculated : calculateEntryFeeAndQuantity notionalCapital effectivePrice commissionType commissionValue =
      (entryFee, quantity))
    (positive : 0 < quantity) :
    0 ≤ entryFee ∧ (entryFee = 0 ↔ commissionValue = 0) ∧ entryFee + quantity * effectivePrice = notionalCapital := by
  unfold calculateEntryFeeAndQuantity at calculated
  simp only [rat_of_int, rat_literal, Int.cast_zero] at calculated
  by_cases refused : notionalCapital ≤ 0 ∨ effectivePrice ≤ 0
  · rw [if_pos refused] at calculated
    exact absurd positive (nothing_positive calculated).2
  rw [if_neg refused] at calculated
  have notional : 0 < notionalCapital := not_le.mp fun nonpositive => refused (.inl nonpositive)
  have price : 0 < effectivePrice := not_le.mp fun nonpositive => refused (.inr nonpositive)
  cases commissionType with
  | percent =>
      dsimp only at calculated
      split_ifs at calculated with consumed
      · exact absurd positive (nothing_positive calculated).2
      · cases calculated
        refine ⟨by positivity, ?_, ?_⟩
        · simp [notional.ne']
        · rw [div_mul_cancel₀ _ price.ne']
          ring
  | cashPerOrder =>
      dsimp only at calculated
      split_ifs at calculated with consumed
      · exact absurd positive (nothing_positive calculated).2
      · cases calculated
        refine ⟨charged, Iff.rfl, ?_⟩
        rw [div_mul_cancel₀ _ price.ne']
        ring
  | cashPerContract =>
      dsimp only at calculated
      split_ifs at calculated with consumed
      · exact absurd positive (nothing_positive calculated).2
      · cases calculated
        have unit : 0 < effectivePrice + commissionValue := by positivity
        refine ⟨mul_nonneg positive.le charged, by simp [positive.ne'], ?_⟩
        rw [← mul_add, add_comm commissionValue, div_mul_cancel₀ _ unit.ne']

-- What the entry checks leave true of a position for as long as it is open.
structure OpenPosition.Sound (config : BrokerSimulationConfig ℚ) (position : OpenPosition ℚ) : Prop where
  margin_positive : 0 < position.balanceBeforeEntry
  quantity_positive : 0 < position.quantity
  price_positive : 0 < position.entryPrice
  leverage_positive : 0 < position.leverage
  fee_nonnegative : 0 ≤ position.entryFee
  fee_zero_iff : position.entryFee = 0 ↔ config.commissionValue = 0
  spent : position.entryFee + position.quantity * position.entryPrice =
    position.balanceBeforeEntry * position.leverage

namespace PaperExchange

theorem commission_nonnegative (config : BrokerSimulationConfig ℚ) : 0 ≤ config.commissionValue := by
  simpa using config.commission_nonnegative

theorem leverage_positive (exchange : PaperExchange ℚ) (side : PositionSide) : 0 < exchange.leverageFor side := by
  have checked := exchange.brokerConfig.leverage_positive
  simp only [rat_of_int, Int.cast_zero, not_or, not_le] at checked
  cases side with
  | long => exact checked.1
  | short => exact checked.2

theorem entered_parts (exchange : PaperExchange ℚ) (side : PositionSide) (price : ℚ) (time : ℤ) (reason : String)
    (metadata : Metadata ℚ) (position : OpenPosition ℚ)
    (entered : exchange.Entered side price time reason metadata position) :
    0 < position.balanceBeforeEntry ∧ 0 < position.quantity ∧ 0 < position.entryPrice ∧ ∃ notional,
      calculateMarginAndNotional position.entryPrice (exchange.equity price) exchange.balance exchange.positionSizing
          position.leverage exchange.brokerConfig.stopLossPct = (position.balanceBeforeEntry, notional) ∧
        calculateEntryFeeAndQuantity notional position.entryPrice exchange.brokerConfig.commissionType
          exchange.brokerConfig.commissionValue = (position.entryFee, position.quantity) := by
  have sized := entered.sized
  simp only [rat_of_int, Int.cast_zero, not_or, not_le] at sized
  obtain ⟨quantityPositive, marginPositive⟩ := sized
  have capital := entered.funded
  unfold calculateEntryCapital at capital
  simp only [rat_of_int, rat_literal, Int.cast_zero, ← entered.priced, ← entered.leveraged] at capital
  split_ifs at capital with unpriced unfunded unsized
  · simp only [Prod.mk.injEq] at capital
    exact absurd capital.1 marginPositive.ne
  · simp only [Prod.mk.injEq] at capital
    exact absurd capital.1 marginPositive.ne
  · simp only [Prod.mk.injEq] at capital
    exact absurd capital.1 marginPositive.ne
  · simp only [Prod.mk.injEq] at capital
    obtain ⟨margin, quantity, fee⟩ := capital
    exact ⟨marginPositive, quantityPositive, not_le.mp unpriced, _, Prod.ext margin rfl, Prod.ext fee quantity⟩

theorem entered_sound (exchange : PaperExchange ℚ) (side : PositionSide) (price : ℚ) (time : ℤ) (reason : String)
    (metadata : Metadata ℚ) (position : OpenPosition ℚ)
    (entered : exchange.Entered side price time reason metadata position) :
    position.Sound exchange.brokerConfig ∧ position.balanceBeforeEntry ≤ exchange.balance := by
  obtain ⟨marginPositive, quantityPositive, priced, notional, calculated, split⟩ :=
    entered_parts exchange side price time reason metadata position entered
  obtain ⟨affordable, leveraged⟩ := margin_clamped _ _ _ _ _ _ _ _ calculated marginPositive
  obtain ⟨nonnegative, zero, spent⟩ := entry_fee_splits _ _ _ _ _ _ (commission_nonnegative exchange.brokerConfig)
    split quantityPositive
  have leverage : 0 < position.leverage := entered.leveraged ▸ exchange.leverage_positive side
  exact ⟨⟨marginPositive, quantityPositive, priced, leverage, nonnegative, zero, spent.trans leveraged⟩, affordable⟩

def Sound (exchange : PaperExchange ℚ) : Prop :=
  ∀ position ∈ exchange.positions, position.Sound exchange.brokerConfig

theorem opened_sound (exchange : PaperExchange ℚ) (side : PositionSide) (price : ℚ) (time : ℤ) (reason : String)
    (metadata : Metadata ℚ) (position : OpenPosition ℚ) (sound : exchange.Sound)
    (entered : exchange.Entered side price time reason metadata position) : (exchange.opened position).Sound := by
  intro held member
  rcases List.mem_append.mp member with earlier | new
  · exact sound held earlier
  · rw [List.mem_singleton.mp new]
    exact (exchange.entered_sound side price time reason metadata position entered).1

theorem settle_sound (exchange : PaperExchange ℚ) (time : ℤ) (closings : List (Closing ℚ))
    (kept : List (OpenPosition ℚ)) (sound : exchange.Sound)
    (split : (closings.map Prod.fst ++ kept).Perm exchange.positions) : (exchange.settle time closings kept).Sound :=
  fun position member => sound position (split.subset (List.mem_append_right _ member))

theorem perform_sound (exchange : PaperExchange ℚ) (call : ExchangeCall ℚ) (sound : exchange.Sound) :
    (exchange.perform call).Sound :=
  perform_invariant Sound opened_sound settle_sound exchange call sound

end PaperExchange

end Sagittarius
