import Mathlib.Order.Bounds.Basic
import Sagittarius.Trading.FuturesParams

set_option autoImplicit false

namespace Sagittarius

open DecimalArithmetic
open Decimals (Direction Trap)

def Multiple (size amount : ℚ) : Prop := ∃ steps : ℤ, amount = steps * size

theorem floor_greatest_multiple (amount size : ℚ) (positive : 0 < size) :
    IsGreatest {candidate | Multiple size candidate ∧ candidate ≤ amount} (⌊amount / size⌋ * size) := by
  refine ⟨⟨⟨_, rfl⟩, ?_⟩, ?_⟩
  · rw [← le_div_iff₀ positive]
    exact Int.floor_le _
  · rintro candidate ⟨⟨steps, rfl⟩, within⟩
    rw [← le_div_iff₀ positive] at within
    have floored : steps ≤ ⌊amount / size⌋ := Int.le_floor.mpr within
    exact mul_le_mul_of_nonneg_right (by exact_mod_cast floored) positive.le

theorem ceil_least_multiple (amount size : ℚ) (positive : 0 < size) :
    IsLeast {candidate | Multiple size candidate ∧ amount ≤ candidate} (⌈amount / size⌉ * size) := by
  refine ⟨⟨⟨_, rfl⟩, ?_⟩, ?_⟩
  · rw [← div_le_iff₀ positive]
    exact Int.le_ceil _
  · rintro candidate ⟨⟨steps, rfl⟩, beyond⟩
    rw [← div_le_iff₀ positive] at beyond
    have lifted : ⌈amount / size⌉ ≤ steps := Int.ceil_le.mpr beyond
    exact mul_le_mul_of_nonneg_right (by exact_mod_cast lifted) positive.le

namespace OrderQuantityRoundingPolicy

theorem exact_rounds (direction : Direction) (amount size : ℚ) (positive : 0 < size) :
    toMultiple direction amount size = .ok (direction.round (amount / size) * size) := by
  rw [exact_to_multiple, if_neg (not_le.mpr positive)]

theorem exact_fixed (direction : Direction) (amount size : ℚ) (positive : 0 < size) (aligned : Multiple size amount) :
    toMultiple direction amount size = .ok amount := by
  obtain ⟨steps, rfl⟩ := aligned
  rw [exact_rounds direction _ size positive, mul_div_cancel_right₀ _ positive.ne']
  cases direction with
  | floor => rw [Direction.round, Int.floor_intCast]
  | ceiling => rw [Direction.round, Int.ceil_intCast]

theorem exact_multiple (direction : Direction) (amount size rounded : ℚ) (positive : 0 < size)
    (done : toMultiple direction amount size = .ok rounded) : Multiple size rounded := by
  rw [exact_rounds direction amount size positive] at done
  cases done
  exact ⟨_, rfl⟩

end OrderQuantityRoundingPolicy

-- The check divides as the rounding does, with another convention for
-- negative amounts.
theorem exact_step_aligned (str : ℚ → String) (amount size : ℚ) (label : String) (positive : 0 < size)
    (aligned : Multiple size amount) : requireStepAligned str amount size label = .ok () := by
  obtain ⟨steps, rfl⟩ := aligned
  have quotient : (steps * size) / size = steps := mul_div_cancel_right₀ _ positive.ne'
  have rest : (remainder (steps * size) size : Except Trap ℚ) = .ok 0 := by
    change (if size = 0 then _ else _) = _
    rw [if_neg positive.ne', quotient, Int.floor_intCast, Int.ceil_intCast, ite_self, sub_self]
  unfold requireStepAligned
  rw [exact_at_most, decide_eq_false (not_le.mpr positive), rest]
  rfl

theorem exact_preview_aligned (str : ℚ → String) (query : PreviewRequest ℚ) (metadata : SymbolFilters ℚ)
    (clientOrderId : String) (previewed : PreviewedOrder ℚ) (step : 0 < metadata.stepSize) (tick : 0 < metadata.tickSize)
    (executed : query.execute (some metadata) clientOrderId = .ok previewed) :
    requireStepAligned str previewed.order.quantity metadata.stepSize "quantity" = .ok () ∧
      (∀ price ∈ previewed.order.price, requireStepAligned str price metadata.tickSize "price" = .ok ()) ∧
      (isStopOrder query.orderType = false → ∃ params, mapOrderToFuturesParams str previewed.order metadata = .ok params) := by
  obtain ⟨quantity, price, roundedQuantity, roundedPrice, built⟩ :=
    executed_order query metadata clientOrderId previewed executed
  have quantityAligned := exact_step_aligned str quantity metadata.stepSize "quantity" step
    (OrderQuantityRoundingPolicy.exact_multiple _ _ _ _ step roundedQuantity)
  have priceAligned := exact_step_aligned str price metadata.tickSize "price" tick
    (OrderQuantityRoundingPolicy.exact_multiple _ _ _ _ tick roundedPrice)
  rw [built]
  refine ⟨quantityAligned, ?_, fun unstopped => ?_⟩
  · intro sent member
    cases limit : isLimit query.orderType with
    | false => simp [limit] at member
    | true =>
        simp only [limit, if_true, Option.mem_def, Option.some.injEq] at member
        rw [← member]
        exact priceAligned
  · unfold mapOrderToFuturesParams
    dsimp only
    rw [quantityAligned]
    cases limit : isLimit query.orderType with
    | false => exact ⟨_, by simp [unstopped, bind, Except.bind]; rfl⟩
    | true => exact ⟨_, by simp [unstopped, limitParams, priceAligned, bind, Except.bind, pure, Except.pure]; rfl⟩

theorem live_quantity_margined (sizing : PositionSizing ℚ)
    (availableBalance referencePrice leverage stepSize : ℚ) (stopLossPct : Option ℚ) :
    let quantity := calculateLiveOrderQuantity sizing availableBalance referencePrice leverage stepSize stopLossPct
    let margin :=
      (calculateMarginAndNotional referencePrice availableBalance availableBalance sizing leverage stopLossPct).1
    quantity * referencePrice ≤ margin * leverage ∧
      (margin ≤ availableBalance ∨ (availableBalance < 0 ∧ quantity = 0)) := by
  intro quantity margin
  have bought : quantity = if referencePrice ≤ 0 then 0
      else if (calculateMarginAndNotional referencePrice availableBalance availableBalance sizing leverage
          stopLossPct).2 ≤ 0 then 0
        else roundQuantityDown ((calculateMarginAndNotional referencePrice availableBalance availableBalance sizing
          leverage stopLossPct).2 / referencePrice) stepSize := rfl
  have margined := margin_within_balance referencePrice availableBalance availableBalance sizing leverage stopLossPct
  change calculateMarginAndNotional referencePrice availableBalance availableBalance sizing leverage stopLossPct = (0, 0) ∨
    (0 < margin ∧ margin ≤ availableBalance ∧ _ = margin * leverage) at margined
  rcases margined with refused | ⟨positive, within, notional⟩
  · have nothing : margin = 0 := congrArg Prod.fst refused
    have unbought : quantity = 0 := by simp [bought, refused]
    rw [nothing, unbought, zero_mul, zero_mul]
    refine ⟨le_refl _, ?_⟩
    rcases le_or_gt 0 availableBalance with funded | owing
    · exact .inl funded
    · exact .inr ⟨owing, rfl⟩
  · refine ⟨?_, .inl within⟩
    have priced : 0 < referencePrice ∧ 0 < leverage := by
      by_contra gated
      have zero : margin = 0 := by
        have refused : referencePrice ≤ 0 ∨ leverage ≤ 0 := by
          rw [not_and_or, not_lt, not_lt] at gated
          exact gated
        change (calculateMarginAndNotional referencePrice availableBalance availableBalance sizing leverage stopLossPct).1 = 0
        rw [calculateMarginAndNotional]
        simp [refused]
      exact positive.ne' zero
    have spent : 0 < margin * leverage := mul_pos positive priced.2
    rw [bought, if_neg (not_le.mpr priced.1), notional, if_neg (not_le.mpr spent), ← le_div_iff₀ priced.1]
    exact ((le_round_quantity_down _ _ stepSize).mp (le_refl _) |> (le_round_quantity_up _ stepSize).trans)

theorem order_normalisation_optimal :
    (∀ quantity stepSize : ℚ, 0 < stepSize → ∃ rounded,
      OrderQuantityRoundingPolicy.roundQuantityDown quantity stepSize = .ok rounded ∧
      IsGreatest {candidate | Multiple stepSize candidate ∧ candidate ≤ quantity} rounded ∧
      OrderQuantityRoundingPolicy.roundQuantityDown rounded stepSize = .ok rounded) ∧
    (∀ price tickSize : ℚ, 0 < tickSize →
      (∃ rounded, OrderQuantityRoundingPolicy.roundPriceToTick price tickSize .buy = .ok rounded ∧
        IsGreatest {candidate | Multiple tickSize candidate ∧ candidate ≤ price} rounded ∧
        OrderQuantityRoundingPolicy.roundPriceToTick rounded tickSize .buy = .ok rounded) ∧
      (∃ rounded, OrderQuantityRoundingPolicy.roundPriceToTick price tickSize .sell = .ok rounded ∧
        IsLeast {candidate | Multiple tickSize candidate ∧ price ≤ candidate} rounded ∧
        OrderQuantityRoundingPolicy.roundPriceToTick rounded tickSize .sell = .ok rounded)) ∧
    (∀ (str : ℚ → String) (query : PreviewRequest ℚ) (metadata : SymbolFilters ℚ) (clientOrderId : String)
      (previewed : PreviewedOrder ℚ), 0 < metadata.stepSize → 0 < metadata.tickSize →
      query.execute (some metadata) clientOrderId = .ok previewed →
      requireStepAligned str previewed.order.quantity metadata.stepSize "quantity" = .ok () ∧
      (∀ price ∈ previewed.order.price, requireStepAligned str price metadata.tickSize "price" = .ok ()) ∧
      (isStopOrder query.orderType = false →
        ∃ params, mapOrderToFuturesParams str previewed.order metadata = .ok params)) ∧
    (∀ (sizing : PositionSizing ℚ) (availableBalance referencePrice leverage stepSize : ℚ) (stopLossPct : Option ℚ),
      let quantity := calculateLiveOrderQuantity sizing availableBalance referencePrice leverage stepSize stopLossPct
      let margin :=
        (calculateMarginAndNotional referencePrice availableBalance availableBalance sizing leverage stopLossPct).1
      quantity * referencePrice ≤ margin * leverage ∧
        (margin ≤ availableBalance ∨ (availableBalance < 0 ∧ quantity = 0))) := by
  refine ⟨fun quantity stepSize step => ?_, fun price tickSize tick => ⟨?_, ?_⟩, ?_, live_quantity_margined⟩
  · exact ⟨_, OrderQuantityRoundingPolicy.exact_rounds .floor quantity stepSize step,
      floor_greatest_multiple quantity stepSize step,
      OrderQuantityRoundingPolicy.exact_fixed .floor _ stepSize step ⟨_, rfl⟩⟩
  · exact ⟨_, OrderQuantityRoundingPolicy.exact_rounds .floor price tickSize tick,
      floor_greatest_multiple price tickSize tick,
      OrderQuantityRoundingPolicy.exact_fixed .floor _ tickSize tick ⟨_, rfl⟩⟩
  · exact ⟨_, OrderQuantityRoundingPolicy.exact_rounds .ceiling price tickSize tick,
      ceil_least_multiple price tickSize tick,
      OrderQuantityRoundingPolicy.exact_fixed .ceiling _ tickSize tick ⟨_, rfl⟩⟩
  · exact exact_preview_aligned

def thousandthFilters : SymbolFilters ℚ where
  stepSize := 1 / 1000
  tickSize := 1 / 10
  minNotional := 5

def limitSale : PreviewRequest ℚ where
  symbol := "BTCUSDT"
  side := .sell
  orderType := .limit
  quantity := 123456 / 1000000
  referencePrice := 10006 / 100

theorem limit_sale_normalised :
    ∃ previewed, limitSale.execute (some thousandthFilters) "SEW-1" = .ok previewed ∧
      previewed.order.quantity = 123 / 1000 ∧ previewed.order.price = some (1001 / 10) ∧
      IsGreatest {candidate | Multiple (1 / 1000) candidate ∧ candidate ≤ 123456 / 1000000} previewed.order.quantity ∧
      (∀ price ∈ previewed.order.price,
        IsLeast {candidate | Multiple (1 / 10) candidate ∧ (10006 / 100 : ℚ) ≤ candidate} price) ∧
      ∃ params, mapOrderToFuturesParams toString previewed.order thousandthFilters = .ok params := by
  obtain ⟨quantities, prices, accepted, _⟩ := order_normalisation_optimal
  have positive : (0 : ℚ) < 1 / 1000 ∧ (0 : ℚ) < 1 / 10 := by norm_num
  obtain ⟨rounded, isRounded, greatest, _⟩ := quantities (123456 / 1000000) (1 / 1000) positive.1
  obtain ⟨_, ticked, isTicked, least, _⟩ := prices (10006 / 100) (1 / 10) positive.2
  have quantity : OrderQuantityRoundingPolicy.roundQuantityDown (123456 / 1000000 : ℚ) (1 / 1000) = .ok (123 / 1000) := by
    decide +kernel
  have price : OrderQuantityRoundingPolicy.roundPriceToTick (10006 / 100 : ℚ) (1 / 10) .sell = .ok (1001 / 10) := by
    decide +kernel
  cases isRounded.symm.trans quantity
  cases isTicked.symm.trans price
  have evaluated : (limitSale.execute (some thousandthFilters) "SEW-1").toOption.map (fun previewed =>
      (previewed.order.quantity, previewed.order.price)) = some (123 / 1000, some (1001 / 10)) := by decide +kernel
  cases executed : limitSale.execute (some thousandthFilters) "SEW-1" with
  | error raised =>
      rw [executed] at evaluated
      cases evaluated
  | ok previewed =>
      rw [executed] at evaluated
      obtain ⟨sold, priced⟩ := Prod.mk.inj (Option.some.inj evaluated)
      refine ⟨previewed, rfl, sold, priced, sold ▸ greatest, fun limit isLimit => ?_, ?_⟩
      · cases isLimit.symm.trans priced
        exact least
      · exact (accepted toString limitSale thousandthFilters "SEW-1" previewed positive.1 positive.2 executed).2.2 rfl

end Sagittarius
