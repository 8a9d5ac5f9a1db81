import Sagittarius.Backtest.Solvency

set_option autoImplicit false

namespace Sagittarius

theorem calculated_or_refused (effectivePrice currentEquity availableBalance : ℚ) (sizing : PositionSizing ℚ)
    (leverage : ℚ) (stopLossPct : Option ℚ) :
    let calculated := calculateMarginAndNotional effectivePrice currentEquity availableBalance sizing leverage stopLossPct
    calculated = (0, 0) ∨ 0 < calculated.1 := by
  rw [calculateMarginAndNotional]
  simp only [rat_of_int, Int.cast_zero]
  split_ifs with refused
  · exact .inl rfl
  cases sizing.requested effectivePrice currentEquity leverage stopLossPct with
  | none => exact .inl rfl
  | some request =>
      obtain ⟨margin, notional⟩ := request
      dsimp only
      by_cases empty : (if availableBalance < margin then availableBalance else margin) ≤ 0 ∨
          (if availableBalance < margin then notional * (if 0 < margin then availableBalance / margin else 0)
            else notional) ≤ 0
      · rw [if_pos empty]
        exact .inl rfl
      · rw [if_neg empty]
        exact .inr (not_le.mp (not_or.mp empty).1)

theorem margin_within_balance (effectivePrice currentEquity availableBalance : ℚ) (sizing : PositionSizing ℚ)
    (leverage : ℚ) (stopLossPct : Option ℚ) :
    let calculated := calculateMarginAndNotional effectivePrice currentEquity availableBalance sizing leverage stopLossPct
    calculated = (0, 0) ∨
      (0 < calculated.1 ∧ calculated.1 ≤ availableBalance ∧ calculated.2 = calculated.1 * leverage) := by
  rcases calculated_or_refused effectivePrice currentEquity availableBalance sizing leverage stopLossPct with
    refused | positive
  · exact .inl refused
  · exact .inr ⟨positive, margin_clamped effectivePrice currentEquity availableBalance sizing leverage stopLossPct _ _
      rfl positive⟩

theorem open_position_affordable (exchange : PaperExchange ℚ) (side : PositionSide) (price : ℚ) (time : ℤ)
    (reason : String) (metadata : Metadata ℚ) :
    exchange.openPosition side price time reason metadata = exchange ∨
      0 ≤ (exchange.openPosition side price time reason metadata).balance := by
  rw [PaperExchange.openPosition]
  cases accepted : exchange.entry side price time reason metadata with
  | none => exact .inl rfl
  | some position =>
      have entered := PaperExchange.entry_entered exchange side price time reason metadata position accepted
      have affordable := (exchange.entered_sound side price time reason metadata position entered).2
      exact .inr (sub_nonneg.mpr affordable)

theorem sizing_never_overcommits :
    (∀ (effectivePrice currentEquity availableBalance : ℚ) (sizing : PositionSizing ℚ) (leverage : ℚ)
      (stopLossPct : Option ℚ),
      let (margin, notional) :=
        calculateMarginAndNotional effectivePrice currentEquity availableBalance sizing leverage stopLossPct
      (margin, notional) = (0, 0) ∨ (0 < margin ∧ margin ≤ availableBalance ∧ notional = margin * leverage)) ∧
    (∀ (exchange : PaperExchange ℚ) (side : PositionSide) (price : ℚ) (time : ℤ) (reason : String)
      (metadata : Metadata ℚ),
      exchange.openPosition side price time reason metadata = exchange ∨
        0 ≤ (exchange.openPosition side price time reason metadata).balance) :=
  ⟨margin_within_balance, open_position_affordable⟩

namespace PaperExchange

theorem realized_generic (position : OpenPosition ℚ) (exitPrice exitFee : ℚ)
    (spent : position.entryFee + position.quantity * position.entryPrice = position.balanceBeforeEntry * position.leverage) :
    realized position.side position.leverage position.quantity position.entryPrice exitPrice position.balanceBeforeEntry
        position.entryFee exitFee =
      (-(position.lossAt exitPrice + position.entryFee + exitFee),
        position.balanceBeforeEntry - (position.lossAt exitPrice + position.entryFee + exitFee)) := by
  unfold realized OpenPosition.lossAt
  cases position.side with
  | long =>
      simp only [rat_equal, rat_literal]
      split_ifs with unleveraged
      · rw [unleveraged, mul_one] at spent
        rw [Prod.mk.injEq, ← spent]
        constructor
        · ring
        · ring
      · rw [Prod.mk.injEq]
        constructor
        · ring
        · ring
  | short =>
      rw [Prod.mk.injEq]
      constructor
      · ring
      · ring

end PaperExchange

theorem unleveraged_long_is_generic (exchange : PaperExchange ℚ) (price : ℚ) (time : ℤ) (reason : String)
    (metadata : Metadata ℚ) (position : OpenPosition ℚ)
    (accepted : exchange.entry .long price time reason metadata = some position) (unleveraged : position.leverage = 1)
    (exitPrice exitFee : ℚ) :
    let (pnl, _, balanceRelease) := calculateRealizedPnl .long position.leverage position.quantity position.entryPrice
      exitPrice position.balanceBeforeEntry position.entryFee exitFee
    let generic := (exitPrice - position.entryPrice) * position.quantity - position.entryFee - exitFee
    pnl = exitPrice * position.quantity - exitFee - position.balanceBeforeEntry ∧
      pnl = generic ∧ balanceRelease = position.balanceBeforeEntry + generic := by
  have entered := PaperExchange.entry_entered exchange .long price time reason metadata position accepted
  have sound := (exchange.entered_sound .long price time reason metadata position entered).1
  have spent := sound.spent
  have realizing := PaperExchange.realized_generic position exitPrice exitFee spent
  rw [entered.sided] at realizing
  rw [OpenPosition.lossAt] at realizing
  rw [entered.sided] at realizing
  rw [unleveraged, mul_one] at spent
  simp only [calculateRealizedPnl, realizing]
  refine ⟨?_, ?_, ?_⟩
  · rw [← spent]
    ring
  · ring
  · ring

theorem unleveraged_long_is_generic_spot :
    ∃ position, spotExchange.entry .long 100 0 "crossed" [] = some position ∧
      (calculateRealizedPnl .long position.leverage position.quantity position.entryPrice 110 position.balanceBeforeEntry
        position.entryFee 1).1 = (110 - position.entryPrice) * position.quantity - position.entryFee - 1 := by
  obtain ⟨position, accepted⟩ :=
    Option.isSome_iff_exists.mp (by decide +kernel : (spotExchange.entry .long 100 0 "crossed" []).isSome = true)
  have leverage : (spotExchange.entry .long 100 0 "crossed" []).map (·.leverage) = some 1 := by decide +kernel
  rw [accepted] at leverage
  exact ⟨position, accepted, (unleveraged_long_is_generic spotExchange 100 0 "crossed" [] position accepted
    (Option.some.inj leverage) 110 1).2.1⟩

theorem stop_loss_at (position : OpenPosition ℚ) (stopPct stop : ℚ)
    (stopped : calculateStopLossPrice position.side position.entryPrice (some stopPct) = some stop) :
    position.lossAt stop = position.quantity * position.entryPrice * (stopPct / 100) := by
  rw [calculateStopLossPrice] at stopped
  rw [OpenPosition.lossAt]
  simp only [Option.map_some, Option.some.injEq, rat_literal] at stopped
  cases side : position.side with
  | long =>
      simp only [side] at stopped
      rw [← stopped]
      ring
  | short =>
      simp only [side] at stopped
      rw [← stopped]
      ring

def adverse (side : PositionSide) (fraction : ℚ) : ℚ :=
  match side with
  | .long => 1 - fraction
  | .short => 1 + fraction

theorem adverse_positive (side : PositionSide) (fraction : ℚ) (positive : 0 < fraction) (below : fraction < 1) :
    0 < adverse side fraction := by
  unfold adverse
  cases side with
  | long => exact sub_pos.mpr below
  | short => exact add_pos one_pos positive

-- What the commission adds to the loss at the stop of an entry of this
-- notional, `fraction` of the price away.
def commissionDrag (commissionType : CommissionType) (commissionValue : ℚ) (side : PositionSide)
    (effectivePrice fraction notional : ℚ) : ℚ :=
  match commissionType with
  | .percent =>
      let rate := commissionValue / 100
      notional * rate * ((1 - fraction) + (1 - rate) * adverse side fraction)
  | .cashPerOrder => commissionValue * (2 - fraction)
  | .cashPerContract => notional / (effectivePrice + commissionValue) * commissionValue * (2 - fraction)

theorem fees_are_drag (commissionType : CommissionType) (commissionValue : ℚ) (side : PositionSide)
    (effectivePrice fraction notional entryFee quantity : ℚ) (charged : 0 ≤ commissionValue)
    (inside : 0 < fraction ∧ fraction < 1) (priced : 0 < effectivePrice) (positive : 0 < quantity)
    (calculated : calculateEntryFeeAndQuantity notional effectivePrice commissionType commissionValue =
      (entryFee, quantity)) :
    quantity * effectivePrice * fraction + entryFee +
        calculateExitFee quantity (effectivePrice * adverse side fraction) commissionType commissionValue =
      notional * fraction + commissionDrag commissionType commissionValue side effectivePrice fraction notional := by
  have exitPositive := mul_pos priced (adverse_positive side fraction inside.1 inside.2)
  have charges : ¬ (quantity ≤ 0 ∨ effectivePrice * adverse side fraction ≤ 0) :=
    not_or.mpr ⟨not_le.mpr positive, not_le.mpr exitPositive⟩
  have nonzero : effectivePrice ≠ 0 := priced.ne'
  unfold calculateEntryFeeAndQuantity at calculated
  unfold calculateExitFee commissionDrag
  simp only [rat_of_int, rat_literal, Int.cast_zero] at calculated ⊢
  rw [if_neg charges]
  by_cases refused : notional ≤ 0 ∨ effectivePrice ≤ 0
  · rw [if_pos refused] at calculated
    exact absurd positive (nothing_positive calculated).2
  rw [if_neg refused] at calculated
  cases commissionType with
  | percent =>
      dsimp only at calculated ⊢
      split_ifs at calculated with consumed
      · exact absurd positive (nothing_positive calculated).2
      · cases calculated
        field_simp
        ring
  | cashPerOrder =>
      dsimp only at calculated ⊢
      split_ifs at calculated with consumed
      · exact absurd positive (nothing_positive calculated).2
      · cases calculated
        field_simp
        ring
  | cashPerContract =>
      dsimp only at calculated ⊢
      split_ifs at calculated with consumed
      · exact absurd positive (nothing_positive calculated).2
      · cases calculated
        have unit : effectivePrice + commissionValue ≠ 0 := by positivity
        field_simp
        ring

theorem exit_fee_nonnegative (quantity exitPrice commissionValue : ℚ) (commissionType : CommissionType)
    (charged : 0 ≤ commissionValue) : 0 ≤ calculateExitFee quantity exitPrice commissionType commissionValue := by
  rw [calculateExitFee]
  simp only [rat_of_int, rat_literal, Int.cast_zero]
  split_ifs with nothing
  · exact le_refl 0
  obtain ⟨positive, priced⟩ := not_or.mp nothing
  have quantityPositive := not_le.mp positive
  have pricePositive := not_le.mp priced
  cases commissionType with
  | percent => positivity
  | cashPerOrder => exact charged
  | cashPerContract => positivity

theorem free_exit (quantity exitPrice : ℚ) (commissionType : CommissionType) :
    calculateExitFee quantity exitPrice commissionType 0 = 0 := by
  rw [calculateExitFee]
  cases commissionType <;> simp

theorem no_drag_iff_free (commissionType : CommissionType) (commissionValue : ℚ) (side : PositionSide)
    (effectivePrice fraction notional entryFee quantity : ℚ) (charged : 0 ≤ commissionValue)
    (inside : 0 < fraction ∧ fraction < 1) (priced : 0 < effectivePrice) (positive : 0 < quantity)
    (calculated : calculateEntryFeeAndQuantity notional effectivePrice commissionType commissionValue =
      (entryFee, quantity)) :
    commissionDrag commissionType commissionValue side effectivePrice fraction notional ≤ 0 ↔ commissionValue = 0 := by
  have drag := fees_are_drag commissionType commissionValue side effectivePrice fraction notional entryFee quantity charged
    inside priced positive calculated
  obtain ⟨nonnegative, zero, spent⟩ :=
    entry_fee_splits notional effectivePrice commissionValue commissionType entryFee quantity charged calculated positive
  have exitNonnegative :=
    exit_fee_nonnegative quantity (effectivePrice * adverse side fraction) commissionValue commissionType charged
  have saved : 0 ≤ entryFee * (1 - fraction) := mul_nonneg nonnegative (sub_nonneg.mpr inside.2.le)
  have split : notional * fraction = entryFee * fraction + quantity * effectivePrice * fraction := by
    rw [← spent]
    ring
  constructor
  · intro dragless
    have vanishes : entryFee * (1 - fraction) = 0 := by linarith
    exact zero.mp ((mul_eq_zero.mp vanishes).resolve_right (sub_pos.mpr inside.2).ne')
  · intro free
    have unpaid := zero.mpr free
    rw [free, free_exit] at drag
    rw [free]
    rw [unpaid] at drag split
    linarith

-- RISK_PERCENT asks for the notional that loses the risked share at the stop,
-- and gets what the cash can carry of it.
theorem risk_notional_funded (effectivePrice currentEquity availableBalance value leverage stopPct margin notional : ℚ)
    (positive : 0 < margin)
    (calculated : calculateMarginAndNotional effectivePrice currentEquity availableBalance (.riskPercent value) leverage
      (some stopPct) = (margin, notional)) :
    notional = min (currentEquity * (value / stopPct)) (availableBalance * leverage) := by
  rw [calculateMarginAndNotional, PositionSizing.requested] at calculated
  simp only [rat_of_int, rat_literal, Int.cast_zero] at calculated
  by_cases refused : effectivePrice ≤ 0 ∨ leverage ≤ 0
  · rw [if_pos refused] at calculated
    exact absurd positive (nothing_positive calculated).1
  rw [if_neg refused] at calculated
  obtain ⟨priced, leveraged⟩ := not_or.mp refused
  have price : 0 < effectivePrice := not_le.mp priced
  have lever : 0 < leverage := not_le.mp leveraged
  by_cases unstopped : stopPct ≤ 0 ∨ effectivePrice * (stopPct / 100) ≤ 0
  · rw [if_pos unstopped] at calculated
    exact absurd positive (nothing_positive calculated).1
  rw [if_neg unstopped] at calculated
  have stop : 0 < stopPct := not_le.mp (not_or.mp unstopped).1
  have asked : currentEquity * (value / 100) * (effectivePrice / (effectivePrice * (stopPct / 100))) =
      currentEquity * (value / stopPct) := by
    field_simp
  simp only [asked] at calculated
  by_cases clamped : availableBalance < currentEquity * (value / stopPct) / leverage
  · have beyond : availableBalance * leverage < currentEquity * (value / stopPct) := (lt_div_iff₀ lever).mp clamped
    simp only [if_pos clamped] at calculated
    split_ifs at calculated with wanted empty empty
    · exact absurd positive (nothing_positive calculated).1
    · cases calculated
      rw [min_eq_right beyond.le]
      have nonzero : currentEquity * (value / stopPct) ≠ 0 := by
        intro vanished
        rw [vanished, zero_div] at wanted
        exact lt_irrefl 0 wanted
      generalize currentEquity * (value / stopPct) = asked at nonzero
      field_simp
    · exact absurd positive (nothing_positive calculated).1
    · simp at empty
  · have affordable : currentEquity * (value / stopPct) ≤ availableBalance * leverage :=
      (div_le_iff₀ lever).mp (not_lt.mp clamped)
    simp only [if_neg clamped] at calculated
    split_ifs at calculated with empty
    · exact absurd positive (nothing_positive calculated).1
    · cases calculated
      exact (min_eq_left affordable).symm

namespace PaperExchange

def riskNotional (exchange : PaperExchange ℚ) (price value stopPct : ℚ) : ℚ := exchange.equity price * (value / stopPct)

def cashNotional (exchange : PaperExchange ℚ) (side : PositionSide) : ℚ := exchange.balance * exchange.leverageFor side

def dragAtStop (exchange : PaperExchange ℚ) (side : PositionSide) (price stopPct notional : ℚ) : ℚ :=
  commissionDrag exchange.brokerConfig.commissionType exchange.brokerConfig.commissionValue side
    (exchange.entryEffectivePrice side price) (stopPct / 100) notional

-- Trading is free, or the clamp to the cash leaves room for the commission.
def CommissionCovered (exchange : PaperExchange ℚ) (side : PositionSide) (price value stopPct : ℚ) : Prop :=
  exchange.brokerConfig.commissionValue = 0 ∨
    (exchange.cashNotional side < exchange.riskNotional price value stopPct ∧
      exchange.dragAtStop side price stopPct (exchange.cashNotional side) ≤
        (exchange.riskNotional price value stopPct - exchange.cashNotional side) * (stopPct / 100))

theorem risk_entry_parts (exchange : PaperExchange ℚ) (side : PositionSide) (price : ℚ) (time : ℤ) (reason : String)
    (metadata : Metadata ℚ) (position : OpenPosition ℚ) (value stopPct : ℚ)
    (risk : exchange.positionSizing = .riskPercent value) (configured : exchange.brokerConfig.stopLossPct = some stopPct)
    (entered : exchange.Entered side price time reason metadata position) :
    calculateEntryFeeAndQuantity (min (exchange.riskNotional price value stopPct) (exchange.cashNotional side))
        position.entryPrice exchange.brokerConfig.commissionType exchange.brokerConfig.commissionValue =
      (position.entryFee, position.quantity) := by
  obtain ⟨marginPositive, _, _, notional, calculated, split⟩ :=
    entered_parts exchange side price time reason metadata position entered
  rw [entered.priced, entered.leveraged, risk, configured] at calculated
  have funded := risk_notional_funded _ _ _ _ _ _ _ _ marginPositive calculated
  rw [riskNotional, cashNotional, ← funded]
  exact split

theorem stopped_at_own_price (exchange : PaperExchange ℚ) (high low : ℚ) (time : ℤ) (position : OpenPosition ℚ)
    (exitPrice : ℚ)
    (closed : (position, exitPrice, .stopLoss) ∈ exchange.closings (.checkIntrabarStops high low time)) :
    position ∈ exchange.positions ∧ position.stopLossPrice = some exitPrice := by
  obtain ⟨held, member, exits⟩ := List.mem_filterMap.mp closed
  obtain ⟨exit, decided, same⟩ := Option.map_eq_some_iff.mp exits
  cases same
  refine ⟨member, ?_⟩
  rw [OpenPosition.intrabarExit] at decided
  split at decided
  · rename_i stop reached
    cases decided
    exact (Option.filter_eq_some_iff.mp reached).1
  · obtain ⟨target, _, impossible⟩ := Option.map_eq_some_iff.mp decided
    cases impossible

end PaperExchange

theorem risk_percent_bounds_loss_iff (exchange : PaperExchange ℚ) (side : PositionSide) (price : ℚ) (time : ℤ)
    (reason : String) (metadata : Metadata ℚ) (position : OpenPosition ℚ) (value stopPct : ℚ)
    (risk : exchange.positionSizing = .riskPercent value) (configured : exchange.brokerConfig.stopLossPct = some stopPct)
    (accepted : exchange.entry side price time reason metadata = some position) (calls : List (ExchangeCall ℚ))
    (high low : ℚ) (closeTime : ℤ) (exitPrice : ℚ)
    (closed : (position, exitPrice, .stopLoss) ∈
      ((exchange.opened position).run calls).closings (.checkIntrabarStops high low closeTime)) :
    let later := (exchange.opened position).run calls
    let trade := later.closingTrade closeTime (position, exitPrice, .stopLoss)
    trade ∈ (later.checkIntrabarStops high low closeTime).2.trades ∧ trade.exitReason = .stopLoss ∧
      (-trade.pnl ≤ value / 100 * exchange.equity price ↔ exchange.CommissionCovered side price value stopPct) := by
  intro later trade
  have entered := PaperExchange.entry_entered exchange side price time reason metadata position accepted
  have sound := (exchange.entered_sound side price time reason metadata position entered).1
  have charged := PaperExchange.commission_nonnegative exchange.brokerConfig
  have parts := exchange.risk_entry_parts side price time reason metadata position value stopPct risk configured entered
  have range := exchange.brokerConfig.stop_in_range stopPct configured
  simp only [rat_of_int, rat_literal, Int.cast_zero] at range
  have inside : 0 < stopPct / 100 ∧ stopPct / 100 < 1 := by
    constructor
    · linarith [range.1]
    · linarith [range.2]
  have config : later.brokerConfig = exchange.brokerConfig := ((exchange.opened position).run_fixed calls).2
  have stopped := (later.stopped_at_own_price high low closeTime position exitPrice closed).2
  rw [entered.stopped, configured] at stopped
  have level : exitPrice = position.entryPrice * adverse side (stopPct / 100) := by
    rw [calculateStopLossPrice] at stopped
    simp only [Option.map_some, Option.some.injEq, rat_literal] at stopped
    rw [← stopped]
    cases side with
    | long => rfl
    | short => rfl
  have loss := stop_loss_at position stopPct exitPrice (by rw [entered.sided, stopped])
  have fee : later.exitFee position exitPrice = calculateExitFee position.quantity
      (position.entryPrice * adverse side (stopPct / 100)) exchange.brokerConfig.commissionType
      exchange.brokerConfig.commissionValue := by
    rw [PaperExchange.exitFee]
    rw [config, level]
  have lost : -trade.pnl = position.lossAt exitPrice + position.entryFee + later.exitFee position exitPrice := by
    have realizing := PaperExchange.realized_generic position exitPrice (later.exitFee position exitPrice) sound.spent
    change -(realized _ _ _ _ _ _ _ _).1 = _
    rw [realizing, neg_neg]
  have drag := fees_are_drag _ _ side position.entryPrice (stopPct / 100) _ _ _ charged inside sound.price_positive
    sound.quantity_positive parts
  have free := no_drag_iff_free _ _ side position.entryPrice (stopPct / 100) _ _ _ charged inside sound.price_positive
    sound.quantity_positive parts
  rw [entered.priced] at drag free
  change _ = _ + exchange.dragAtStop side price stopPct _ at drag
  change exchange.dragAtStop side price stopPct _ ≤ 0 ↔ _ at free
  have risked : value / 100 * exchange.equity price = exchange.riskNotional price value stopPct * (stopPct / 100) := by
    have nonzero : stopPct ≠ 0 := range.1.ne'
    rw [PaperExchange.riskNotional]
    field_simp
  refine ⟨?_, rfl, ?_⟩
  · have grown := later.perform_trades (.checkIntrabarStops high low closeTime)
    change _ ∈ (later.perform (.checkIntrabarStops high low closeTime)).trades
    rw [grown]
    exact List.mem_append_right _ (List.mem_map_of_mem closed)
  · rw [lost, loss, fee, entered.priced, drag, risked]
    rw [PaperExchange.CommissionCovered]
    generalize exchange.riskNotional price value stopPct = asked at *
    generalize exchange.cashNotional side = carried at *
    by_cases clamped : carried < asked
    · rw [min_eq_right clamped.le] at free ⊢
      have kept : (asked - carried) * (stopPct / 100) = asked * (stopPct / 100) - carried * (stopPct / 100) := by ring
      have room : 0 ≤ (asked - carried) * (stopPct / 100) := mul_nonneg (sub_nonneg.mpr clamped.le) inside.1.le
      constructor
      · intro bounded
        exact .inr ⟨clamped, by linarith⟩
      · rintro (unpaid | ⟨_, covered⟩)
        · have dragless := free.mpr unpaid
          linarith
        · linarith
    · rw [min_eq_left (not_lt.mp clamped)] at free ⊢
      constructor
      · intro bounded
        exact .inl (free.mp (by linarith))
      · rintro (unpaid | ⟨beyond, _⟩)
        · have dragless := free.mpr unpaid
          linarith
        · exact absurd beyond clamped

def riskExchange (brokerConfig : BrokerSimulationConfig ℚ) : PaperExchange ℚ :=
  { fundedExchange brokerConfig with
    positionSizing := .riskPercent 2
    sizing_accepted := by decide +kernel }

theorem free_nonnegative : ¬ (0 : ℚ) < PyFloat.ofInt 0 := by decide +kernel

theorem five_in_range (pct : ℚ) (five : some 5 = some pct) : PyFloat.ofInt 0 < pct ∧ pct < PyFloat.literal 100 := by
  cases five
  decide +kernel

def freeConfig : BrokerSimulationConfig ℚ :=
  { spotConfig with
    commissionValue := 0
    stopLossPct := some 5
    commission_nonnegative := free_nonnegative
    stop_in_range := five_in_range }

def riskPosition : OpenPosition ℚ where
  quantity := 4
  entryPrice := 100
  entryTime := 0
  balanceBeforeEntry := 400
  entryFee := 0
  entryReason := "crossed"
  entryMetadata := []
  stopLossPrice := some 95
  takeProfitPrice := none
  side := .long
  leverage := 1

theorem risk_percent_bounds_loss_free :
    let held := (riskExchange freeConfig).opened riskPosition
    (riskExchange freeConfig).entry .long 100 0 "crossed" [] = some riskPosition ∧
      -(held.closingTrade 1 (riskPosition, 95, .stopLoss)).pnl ≤ 2 / 100 * (riskExchange freeConfig).equity 100 :=
  ⟨by decide +kernel, (risk_percent_bounds_loss_iff (riskExchange freeConfig) .long 100 0 "crossed" [] riskPosition 2 5 rfl
    rfl (by decide +kernel) [] 101 94 1 95 (by decide +kernel)).2.2.mpr (.inl rfl)⟩

def chargedConfig : BrokerSimulationConfig ℚ :=
  { spotConfig with stopLossPct := some 5, stop_in_range := five_in_range }

theorem risk_percent_overrun :
    let exchange := riskExchange chargedConfig
    exchange.brokerConfig.slippageTicks = 0 ∧
      ∃ trade ∈ (exchange.run [.fill (entrySignal .buy) 100 0, .checkIntrabarStops 101 94 1]).trades,
        trade.exitReason = .stopLoss ∧ ¬ -trade.pnl ≤ 2 / 100 * exchange.equity 100 :=
  ⟨rfl, by decide +kernel⟩

end Sagittarius
