import Mathlib.Algebra.Order.Floor.Ring
import Mathlib.Tactic.FieldSimp
import Mathlib.Tactic.Linarith
import Mathlib.Tactic.Positivity
import Sagittarius.Trading.ExecuteOrder
import Sagittarius.Trading.LiveTradingCoordinator

set_option autoImplicit false

namespace Sagittarius

def roundQuantityUp (quantity stepSize : ℚ) : ℚ :=
  if stepSize ≤ 0 then quantity else ⌈quantity / stepSize⌉ * stepSize

theorem le_round_quantity_down (quantity limit stepSize : ℚ) :
    quantity ≤ roundQuantityDown limit stepSize ↔ roundQuantityUp quantity stepSize ≤ limit := by
  unfold roundQuantityDown roundQuantityUp
  by_cases unrounded : stepSize ≤ 0
  · rw [if_pos unrounded, if_pos unrounded]
  · have positive : 0 < stepSize := not_le.mp unrounded
    rw [if_neg unrounded, if_neg unrounded, ← div_le_iff₀ positive, ← le_div_iff₀ positive, ← Int.ceil_le, Int.le_floor]

theorem le_round_quantity_up (quantity stepSize : ℚ) : quantity ≤ roundQuantityUp quantity stepSize := by
  unfold roundQuantityUp
  by_cases unrounded : stepSize ≤ 0
  · rw [if_pos unrounded]
  · rw [if_neg unrounded, ← div_le_iff₀ (not_le.mp unrounded)]
    exact Int.le_ceil _

theorem round_quantity_down_idempotent (quantity stepSize : ℚ) :
    roundQuantityDown (roundQuantityDown quantity stepSize) stepSize = roundQuantityDown quantity stepSize := by
  unfold roundQuantityDown
  by_cases unrounded : stepSize ≤ 0
  · simp only [if_pos unrounded]
  · have nonzero : stepSize ≠ 0 := fun zero => unrounded zero.le
    simp only [if_neg unrounded, mul_div_cancel_right₀ _ nonzero, Int.floor_intCast]

theorem percent_of_equity_notional (price balance percent leverage : ℚ) :
    (calculateMarginAndNotional price balance balance (.percentOfEquity percent) leverage).2 =
      if price ≤ 0 ∨ leverage ≤ 0 then 0
      else
        let margin := balance * (percent / 100)
        let scale := if 0 < margin then balance / margin else 0
        let clamped := if balance < margin then balance else margin
        let notional := if balance < margin then margin * leverage * scale else margin * leverage
        if clamped ≤ 0 ∨ notional ≤ 0 then 0 else notional := by
  change (if price ≤ 0 ∨ leverage ≤ 0 then ((0 : ℚ), (0 : ℚ))
      else
        let margin := balance * (percent / 100)
        let scale := if 0 < margin then balance / margin else 0
        let clamped := if balance < margin then balance else margin
        let notional := if balance < margin then margin * leverage * scale else margin * leverage
        if clamped ≤ 0 ∨ notional ≤ 0 then (0, 0) else (clamped, notional)).2 = _
  by_cases gated : price ≤ 0 ∨ leverage ≤ 0
  · rw [if_pos gated, if_pos gated]
  · rw [if_neg gated, if_neg gated]
    dsimp only
    split_ifs <;> rfl

theorem percent_of_equity_unclamped (price balance percent leverage : ℚ) (priced : 0 < price) (levered : 0 < leverage)
    (share : 0 < percent) (atMost : percent ≤ 100) :
    (calculateMarginAndNotional price balance balance (.percentOfEquity percent) leverage).2 =
      if balance ≤ 0 then 0 else balance * (percent / 100) * leverage := by
  have fraction : 0 < percent / 100 := by positivity
  have atMostOne : percent / 100 ≤ 1 := by linarith
  rw [percent_of_equity_notional, if_neg (not_or.mpr ⟨not_le.mpr priced, not_le.mpr levered⟩)]
  dsimp only
  by_cases broke : balance ≤ 0
  · have margin : balance * (percent / 100) ≤ 0 := mul_nonpos_of_nonpos_of_nonneg broke fraction.le
    have clamped : (if balance < balance * (percent / 100) then balance else balance * (percent / 100)) ≤ 0 := by
      split_ifs <;> assumption
    rw [if_pos broke, if_pos (.inl clamped)]
  · have funded : 0 < balance := not_le.mp broke
    have margin : 0 < balance * (percent / 100) := mul_pos funded fraction
    have within : ¬ balance < balance * (percent / 100) := not_lt.mpr (mul_le_of_le_one_right funded.le atMostOne)
    have notional : 0 < balance * (percent / 100) * leverage := mul_pos margin levered
    rw [if_neg broke, if_neg within, if_neg within, if_neg (not_or.mpr ⟨not_le.mpr margin, not_le.mpr notional⟩)]

theorem live_order_quantity_covers (quantity price balance percent leverage stepSize : ℚ) (positive : 0 < quantity)
    (levered : 0 < leverage) (share : 0 < percent) (atMost : percent ≤ 100) :
    quantity ≤ calculateLiveOrderQuantity (.percentOfEquity percent) balance price leverage stepSize ↔
      0 < price ∧ roundQuantityUp quantity stepSize * price ≤ balance * (percent / 100) * leverage := by
  have rounded : 0 < roundQuantityUp quantity stepSize := positive.trans_le (le_round_quantity_up quantity stepSize)
  by_cases unpriced : price ≤ 0
  · rw [calculateLiveOrderQuantity, if_pos unpriced]
    exact iff_of_false (not_le.mpr positive) (fun covers => not_lt.mpr unpriced covers.1)
  · have priced : 0 < price := not_le.mp unpriced
    have notional := percent_of_equity_unclamped price balance percent leverage priced levered share atMost
    change quantity ≤ (if price ≤ 0 then 0
      else
        let notional := (calculateMarginAndNotional price balance balance (.percentOfEquity percent) leverage).2
        if notional ≤ 0 then 0 else roundQuantityDown (notional / price) stepSize) ↔ _
    rw [if_neg unpriced, notional]
    dsimp only
    by_cases broke : balance ≤ 0
    · have fraction : 0 ≤ percent / 100 * leverage := by positivity
      have reach : balance * (percent / 100) * leverage ≤ 0 := by
        rw [mul_assoc]
        exact mul_nonpos_of_nonpos_of_nonneg broke fraction
      rw [if_pos broke, if_pos le_rfl]
      exact iff_of_false (not_le.mpr positive) (fun covers => not_lt.mpr (covers.2.trans reach) (mul_pos rounded priced))
    · have reach : 0 < balance * (percent / 100) * leverage :=
        mul_pos (mul_pos (not_le.mp broke) (by positivity)) levered
      rw [if_neg broke, if_neg (not_le.mpr reach), le_round_quantity_down, le_div_iff₀ priced]
      exact (and_iff_right priced).symm

theorem live_order_quantity_rounded (sizing : PositionSizing ℚ) (balance price leverage stepSize : ℚ) :
    roundQuantityDown (calculateLiveOrderQuantity sizing balance price leverage stepSize) stepSize =
      calculateLiveOrderQuantity sizing balance price leverage stepSize := by
  have zero : roundQuantityDown 0 stepSize = 0 := by simp [roundQuantityDown]
  unfold calculateLiveOrderQuantity
  by_cases unpriced : price ≤ 0
  · rw [if_pos unpriced, zero]
  · rw [if_neg unpriced]
    dsimp only
    split_ifs
    · exact zero
    · exact round_quantity_down_idempotent _ stepSize

def exitAction : PositionSide → SignalAction
  | .long => .sell
  | .short => .cover

def exitSide : PositionSide → OrderSide
  | .long => .sell
  | .short => .buy

def exitRequest (side : PositionSide) (symbol : String) (quantity referencePrice : ℚ) : PreviewOrderQuery where
  symbol := symbol
  side := exitSide side
  orderType := .market
  quantity := quantity
  referencePrice := referencePrice
  reduceOnly := true

theorem exit_request_intent (side : PositionSide) (symbol : String) (quantity referencePrice : ℚ) :
    orderIntentFor (exitAction side) =
      some { side := (exitRequest side symbol quantity referencePrice).side
             reduceOnly := (exitRequest side symbol quantity referencePrice).reduceOnly } := by
  cases side <;> rfl

theorem live_order_quantity_bought (price balance percent leverage stepSize : ℚ) (priced : 0 < price)
    (levered : 0 < leverage) (share : 0 < percent) (atMost : percent ≤ 100)
    (funded : 0 < balance * (percent / 100) * leverage) :
    calculateLiveOrderQuantity (.percentOfEquity percent) balance price leverage stepSize =
      roundQuantityDown (balance * (percent / 100) * leverage / price) stepSize := by
  have balanced : 0 < balance := by
    rw [mul_assoc] at funded
    exact pos_of_mul_pos_left funded (by positivity)
  have notional := percent_of_equity_unclamped price balance percent leverage priced levered share atMost
  rw [if_neg (not_le.mpr balanced)] at notional
  change (if price ≤ 0 then 0
    else
      let notional := (calculateMarginAndNotional price balance balance (.percentOfEquity percent) leverage).2
      if notional ≤ 0 then 0 else roundQuantityDown (notional / price) stepSize) = _
  rw [if_neg (not_le.mpr priced), notional]
  exact if_neg (not_le.mpr funded)

section Exit

variable (setup : TradingSetup) (session : TradingSessionState) (status : ExchangeConnectionStatus) (now : ℤ)
  (config : LiveStrategyConfig ℚ) (signal : Signal ℚ) (metadata : FuturesSymbolMetadata) (usdtBalance openQuantity : ℚ)

-- What closes of the open quantity: the exchange accepts what is sent of the
-- handled signal, and clips the reduce-only order to the position.
def executedQuantity : ℚ :=
  match config.handle signal (some metadata) (some usdtBalance) with
  | .ok (.dispatch command) =>
      match (Dispatch.undisturbed setup session status (some metadata) now command).submitted with
      | some order => min order.quantity openQuantity
      | none => 0
  | _ => 0

def exitShare : ℚ := usdtBalance * (config.sizingPercent / 100) * config.leverage

-- What the share buys at the price, at the price on the tick.
def exitNotional (side : PositionSide) : ℚ :=
  roundQuantityDown (exitShare config usdtBalance / signal.price) metadata.stepSize *
    roundPriceToTick signal.price metadata.tickSize (exitSide side)

structure ExitCovered (side : PositionSide) : Prop where
  venue : setup.venue = .futuresTestnet
  enabled : session.enabled = true
  connected : status.ready = true
  orders : (session.ordersSentThisSession : ℤ) < setup.limits.maxOrdersPerSession
  positions : (session.openPositionCount signal.symbol : ℤ) < setup.limits.maxPositionsPerSymbol
  interval : ∀ elapsed, session.timeSinceLastOrder signal.symbol now = some elapsed →
    setup.limits.minOrderInterval ≤ elapsed
  priced : 0 < signal.price
  covered : roundQuantityUp openQuantity metadata.stepSize * signal.price ≤ exitShare config usdtBalance
  notMinor : metadata.minNotional ≤ exitNotional config signal metadata usdtBalance side
  notional : exitNotional config signal metadata usdtBalance side ≤ setup.limits.maxNotionalPerOrder

variable (side : PositionSide) (own : signal.symbol = config.symbol) (exits : signal.action = exitAction side)
  (opened : 0 < openQuantity)

include own exits opened

theorem executed_quantity_exit (quantity : ℚ)
    (sized : calculateLiveOrderQuantity (.percentOfEquity config.sizingPercent) usdtBalance signal.price config.leverage
      metadata.stepSize = quantity) :
    executedQuantity setup session status now config signal metadata usdtBalance openQuantity = openQuantity ↔
      openQuantity ≤ quantity ∧
        setup.Admits session status (.build (exitRequest side signal.symbol quantity signal.price) metadata)
          signal.symbol now := by
  have rounded : roundQuantityDown quantity metadata.stepSize = quantity :=
    sized ▸ live_order_quantity_rounded (.percentOfEquity config.sizingPercent) usdtBalance signal.price config.leverage
      metadata.stepSize
  have handled : config.handle signal (some metadata) (some usdtBalance) =
      .ok (if quantity ≤ 0 then .blocked usdtBalance config.sizingPercent
        else .dispatch { orderRequest := exitRequest side signal.symbol quantity signal.price, live := true }) := by
    rw [LiveStrategyConfig.handle, if_neg (not_not.mpr own), exits,
      exit_request_intent side signal.symbol quantity signal.price, ← sized]
    rfl
  rw [executedQuantity, handled]
  by_cases empty : quantity ≤ 0
  · rw [if_pos empty]
    exact iff_of_false opened.ne fun both => not_lt.mpr (both.1.trans empty) opened
  · rw [if_neg empty]
    dsimp only
    have submits := undisturbed_submits setup session status metadata now (exitRequest side signal.symbol quantity signal.price)
    cases sent : (Dispatch.undisturbed setup session status (some metadata) now
        { orderRequest := exitRequest side signal.symbol quantity signal.price, live := true }).submitted with
    | none =>
        refine iff_of_false opened.ne fun both => ?_
        have submitted := (submits _).mpr ⟨both.2, rfl⟩
        exact Option.some_ne_none _ (submitted.symm.trans sent)
    | some order =>
        obtain ⟨admits, rfl⟩ := (submits order).mp sent
        have previewed : (OrderPreview.build (exitRequest side signal.symbol quantity signal.price) metadata).order.quantity =
            quantity := rounded
        dsimp only
        rw [previewed]
        exact min_eq_right_iff.trans (iff_self_and.mpr fun _ => admits)

omit own exits opened in
theorem exit_admitted_iff (quantity : ℚ)
    (priced : quantity * roundPriceToTick signal.price metadata.tickSize (exitSide side) =
      exitNotional config signal metadata usdtBalance side)
    (rounded : roundQuantityDown quantity metadata.stepSize = quantity) :
    setup.Admits session status (.build (exitRequest side signal.symbol quantity signal.price) metadata) signal.symbol now ↔
      setup.venue = .futuresTestnet ∧ session.enabled = true ∧ status.ready = true ∧
        metadata.minNotional ≤ exitNotional config signal metadata usdtBalance side ∧
        setup.limits.Within
          { ordersSentThisSession := session.ordersSentThisSession
            orderNotional := exitNotional config signal metadata usdtBalance side
            openPositionCountForSymbol := session.openPositionCount signal.symbol
            timeSinceLastOrderForSymbol := session.timeSinceLastOrder signal.symbol now } := by
  let preview := OrderPreview.build (exitRequest side signal.symbol quantity signal.price) metadata
  have estimated : preview.estimatedNotional = exitNotional config signal metadata usdtBalance side := by
    rw [← priced, ← congrArg (· * roundPriceToTick signal.price metadata.tickSize (exitSide side)) rounded]
    rfl
  have checked : preview.notionalCheck = .sufficient ↔
      metadata.minNotional ≤ exitNotional config signal metadata usdtBalance side := by
    change (if metadata.minNotional ≤ preview.estimatedNotional then NotionalCheck.sufficient else .insufficient) = _ ↔ _
    rw [estimated]
    split_ifs with enough <;> simp [enough]
  have context : session.limitContext preview signal.symbol now =
      { ordersSentThisSession := session.ordersSentThisSession
        orderNotional := exitNotional config signal metadata usdtBalance side
        openPositionCountForSymbol := session.openPositionCount signal.symbol
        timeSinceLastOrderForSymbol := session.timeSinceLastOrder signal.symbol now } := by
    rw [TradingSessionState.limitContext, estimated]
  rw [← checked, ← context]
  exact ⟨fun admits => ⟨admits.venue, admits.enabled, admits.connected, admits.notional, admits.limits⟩,
    fun ⟨venue, enabled, connected, notional, limits⟩ => ⟨venue, enabled, connected, notional, limits⟩⟩

end Exit

def exitAt (price : ℚ) : Signal ℚ where
  symbol := "BTCUSDT"
  action := .sell
  reason := "EMA Crossover 1/2 crossed below"
  price := price
  time := 0

def exitSetup : TradingSetup where
  limits := { TradingLimits.configured with maxPositionsPerSymbol := 2 }

def longSession : TradingSessionState where
  enabled := true
  ordersSentThisSession := 1
  knownOpenSymbols := {"BTCUSDT"}

def connectedStatus : ExchangeConnectionStatus := { reachable := true, failed := false }

end Sagittarius
