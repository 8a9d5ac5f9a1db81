import Sagittarius.Backtest.BrokerSimulation

set_option autoImplicit false

namespace Sagittarius

abbrev Metadata (α : Type) := List (String × MetadataValue α)

structure OpenPosition (α : Type) where
  quantity : α
  entryPrice : α
  entryTime : ℤ
  balanceBeforeEntry : α
  entryFee : α
  entryReason : String
  entryMetadata : Metadata α
  stopLossPrice : Option α
  takeProfitPrice : Option α
  side : PositionSide
  leverage : α
deriving DecidableEq

structure Trade (α : Type) where
  symbol : String
  entryTime : ℤ
  entryPrice : α
  exitTime : ℤ
  exitPrice : α
  quantity : α
  pnl : α
  pnlPercent : α
  feesPaid : α
  entryReason : String
  exitReason : ExitReason
  metadata : Metadata α
  side : PositionSide
deriving DecidableEq

structure EntryRecord (α : Type) where
  side : PositionSide
  entryTime : ℤ
  entryPrice : α
  quantity : α
  entryReason : String
  metadata : Metadata α
deriving DecidableEq

def OpenPosition.record {α : Type} (position : OpenPosition α) : EntryRecord α where
  side := position.side
  entryTime := position.entryTime
  entryPrice := position.entryPrice
  quantity := position.quantity
  entryReason := position.entryReason
  metadata := position.entryMetadata

def Trade.record {α : Type} (trade : Trade α) : EntryRecord α where
  side := trade.side
  entryTime := trade.entryTime
  entryPrice := trade.entryPrice
  quantity := trade.quantity
  entryReason := trade.entryReason
  metadata := trade.metadata

abbrev Closing (α : Type) := OpenPosition α × α × ExitReason

variable {α : Type} [PyFloat α]

namespace OpenPosition

def stopHit (position : OpenPosition α) (high low stop : α) : Bool :=
  match position.side with
  | .long => low ≤ stop
  | .short => stop ≤ high

def targetHit (position : OpenPosition α) (high low target : α) : Bool :=
  match position.side with
  | .long => target ≤ high
  | .short => low ≤ target

-- A range that touches both prices stops the position out.
def intrabarExit (position : OpenPosition α) (high low : α) : Option (α × ExitReason) :=
  match position.stopLossPrice.filter (position.stopHit high low) with
  | some stop => some (stop, .stopLoss)
  | none => (position.takeProfitPrice.filter (position.targetHit high low)).map (·, .takeProfit)

def marked (position : OpenPosition α) (markPrice : α) : α :=
  markToMarket position.side position.leverage position.quantity position.entryPrice position.balanceBeforeEntry
    markPrice

end OpenPosition

def evaluateIntrabarStops (positions : List (OpenPosition α)) (high low : α) :
    List (Closing α) × List (OpenPosition α) :=
  (positions.filterMap fun position => (position.intrabarExit high low).map (Prod.mk position),
    positions.filter fun position => (position.intrabarExit high low).isNone)

-- The checks of `__init__` on its own arguments are fields.
structure PaperExchange (α : Type) [PyFloat α] where
  symbol : String
  initialBalance : α
  brokerConfig : BrokerSimulationConfig α
  positionSizing : PositionSizing α
  balance : α
  positions : List (OpenPosition α)
  trades : List (Trade α)
  initial_positive : ¬ initialBalance ≤ PyFloat.ofInt 0
  sizing_accepted : positionSizing.Accepted

namespace PaperExchange

def create (symbol : String) (initialBalance : α) (feePercent : α := PyFloat.literal (1 / 10))
    (positionSizing : Option { sizing : PositionSizing α // sizing.Accepted } := none)
    (brokerConfig : Option (BrokerSimulationConfig α) := none) : Option (PaperExchange α) :=
  if positive : initialBalance ≤ PyFloat.ofInt 0 then none
  else if feePercent < PyFloat.ofInt 0 then none
  else
    let wholeEquity : PositionSizing α := .percentOfEquity (PyFloat.literal 100)
    let sizing := positionSizing.orElse fun _ => if accepted : wholeEquity.Accepted then some ⟨wholeEquity, accepted⟩ else none
    match brokerConfig.orElse fun _ => BrokerSimulationConfig.percentFee feePercent, sizing with
    | some brokerConfig, some ⟨positionSizing, accepted⟩ =>
        some {
          symbol, initialBalance, brokerConfig, positionSizing
          balance := initialBalance
          positions := []
          trades := []
          initial_positive := positive
          sizing_accepted := accepted }
    | _, _ => none

def currentSide (exchange : PaperExchange α) : Option PositionSide := exchange.positions.head?.map (·.side)

def equity (exchange : PaperExchange α) (markPrice : α) : α :=
  if exchange.positions.isEmpty then exchange.balance
  else exchange.balance + PyFloat.total (exchange.positions.map (·.marked markPrice))

def slippageDelta (exchange : PaperExchange α) : α :=
  calculateSlippageDelta exchange.brokerConfig.slippageTicks exchange.brokerConfig.tickSize

def entryEffectivePrice (exchange : PaperExchange α) (side : PositionSide) (price : α) : α :=
  calculateEntryEffectivePrice side price exchange.slippageDelta

def exitEffectivePrice (exchange : PaperExchange α) (side : PositionSide) (price : α) : α :=
  calculateExitEffectivePrice side price exchange.slippageDelta

def leverageFor (exchange : PaperExchange α) (side : PositionSide) : α :=
  getLeverage side exchange.brokerConfig.longLeverage exchange.brokerConfig.shortLeverage

def calculateEntryCapital (exchange : PaperExchange α) (side : PositionSide) (price currentEquity : α) : α × α × α :=
  let refused : α × α × α := (PyFloat.literal 0, PyFloat.literal 0, PyFloat.literal 0)
  let effectivePrice := exchange.entryEffectivePrice side price
  if effectivePrice ≤ PyFloat.ofInt 0 then refused
  else
    let (margin, notionalCapital) :=
      calculateMarginAndNotional effectivePrice currentEquity exchange.balance exchange.positionSizing
        (exchange.leverageFor side) exchange.brokerConfig.stopLossPct
    if margin ≤ PyFloat.ofInt 0 ∨ notionalCapital ≤ PyFloat.ofInt 0 then refused
    else
      let (entryFee, quantity) :=
        calculateEntryFeeAndQuantity notionalCapital effectivePrice exchange.brokerConfig.commissionType
          exchange.brokerConfig.commissionValue
      if quantity ≤ PyFloat.ofInt 0 then refused else (margin, quantity, entryFee)

def entry (exchange : PaperExchange α) (side : PositionSide) (price : α) (time : ℤ) (reason : String)
    (metadata : Metadata α) : Option (OpenPosition α) :=
  if exchange.positions.any (·.side = side.opposite) then none
  else if exchange.brokerConfig.pyramiding ≤ exchange.positions.length then none
  else
    let (capitalDeployed, quantity, entryFee) := exchange.calculateEntryCapital side price (exchange.equity price)
    if quantity ≤ PyFloat.ofInt 0 ∨ capitalDeployed ≤ PyFloat.ofInt 0 then none
    else
      let effectivePrice := exchange.entryEffectivePrice side price
      some {
        quantity, entryFee, side
        entryPrice := effectivePrice
        entryTime := time
        balanceBeforeEntry := capitalDeployed
        entryReason := reason
        entryMetadata := metadata
        stopLossPrice := calculateStopLossPrice side effectivePrice exchange.brokerConfig.stopLossPct
        takeProfitPrice := calculateTakeProfitPrice side effectivePrice exchange.brokerConfig.takeProfitPct
        leverage := exchange.leverageFor side }

def opened (exchange : PaperExchange α) (position : OpenPosition α) : PaperExchange α :=
  { exchange with
    balance := exchange.balance - position.balanceBeforeEntry
    positions := exchange.positions ++ [position] }

def openPosition (exchange : PaperExchange α) (side : PositionSide) (price : α) (time : ℤ) (reason : String)
    (metadata : Metadata α) : PaperExchange α :=
  match exchange.entry side price time reason metadata with
  | none => exchange
  | some position => exchange.opened position

def exitFee (exchange : PaperExchange α) (position : OpenPosition α) (exitPrice : α) : α :=
  calculateExitFee position.quantity exitPrice exchange.brokerConfig.commissionType
    exchange.brokerConfig.commissionValue

def realizedPnl (exchange : PaperExchange α) (position : OpenPosition α) (exitPrice : α) : α × α × α :=
  calculateRealizedPnl position.side position.leverage position.quantity position.entryPrice exitPrice
    position.balanceBeforeEntry position.entryFee (exchange.exitFee position exitPrice)

def closeOnePosition (exchange : PaperExchange α) (position : OpenPosition α) (exitPrice : α) (time : ℤ)
    (exitReason : ExitReason) : Trade α × PaperExchange α :=
  let (pnl, pnlPercent, balanceRelease) := exchange.realizedPnl position exitPrice
  let trade : Trade α := {
    symbol := exchange.symbol
    entryTime := position.entryTime
    entryPrice := position.entryPrice
    exitTime := time
    quantity := position.quantity
    feesPaid := position.entryFee + exchange.exitFee position exitPrice
    entryReason := position.entryReason
    metadata := position.entryMetadata
    side := position.side
    exitPrice, pnl, pnlPercent, exitReason }
  (trade, { exchange with balance := exchange.balance + balanceRelease, trades := exchange.trades ++ [trade] })

def closeEach (time : ℤ) : PaperExchange α → List (Closing α) → List (Trade α) × PaperExchange α
  | exchange, [] => ([], exchange)
  | exchange, (position, exitPrice, exitReason) :: rest =>
      let (trade, next) := exchange.closeOnePosition position exitPrice time exitReason
      let (trades, final) := closeEach time next rest
      (trade :: trades, final)

def close (exchange : PaperExchange α) (side : PositionSide) (price : α) (time : ℤ) (exitReason : ExitReason) :
    List (Trade α) × PaperExchange α :=
  let matching := exchange.positions.filter (·.side = side)
  if matching.isEmpty then ([], exchange)
  else
    let effectivePrice := exchange.exitEffectivePrice side price
    let (closed, settled) := closeEach time exchange (matching.map (·, effectivePrice, exitReason))
    (closed, { settled with positions := settled.positions.filter (·.side ≠ side) })

def checkIntrabarStops (exchange : PaperExchange α) (high low : α) (time : ℤ) : List (Trade α) × PaperExchange α :=
  if exchange.positions.isEmpty then ([], exchange)
  else
    let (triggered, stillOpen) := evaluateIntrabarStops exchange.positions high low
    if triggered.isEmpty then ([], exchange)
    else closeEach time { exchange with positions := stillOpen } triggered

def fill (exchange : PaperExchange α) (signal : Signal α) (price : α) (time : ℤ) : Option (Trade α) × PaperExchange α :=
  match signal.action with
  | .buy => (none, exchange.openPosition .long price time signal.reason signal.metadata)
  | .sell =>
      let (closed, next) := exchange.close .long price time .strategySignal
      (closed.getLast?, next)
  | .short => (none, exchange.openPosition .short price time signal.reason signal.metadata)
  | .cover =>
      let (closed, next) := exchange.close .short price time .strategySignal
      (closed.getLast?, next)
  | .hold => (none, exchange)

def fillAny (exchange : PaperExchange α) (signal : Option (Signal α)) (price : α) (time : ℤ) :
    PaperExchange α :=
  match signal with
  | none => exchange
  | some signal => (exchange.fill signal price time).2

def forceClose (exchange : PaperExchange α) (price : α) (time : ℤ) : Option (Trade α) × PaperExchange α :=
  let (longs, flatLong) := exchange.close .long price time .endOfBacktest
  let (shorts, flat) := flatLong.close .short price time .endOfBacktest
  ((longs ++ shorts).getLast?, flat)

end PaperExchange

inductive ExchangeCall (α : Type)
  | fill (signal : Signal α) (price : α) (time : ℤ)
  | checkIntrabarStops (high low : α) (time : ℤ)
  | forceClose (price : α) (time : ℤ)

def ExchangeCall.time : ExchangeCall α → ℤ
  | .fill _ _ time => time
  | .checkIntrabarStops _ _ time => time
  | .forceClose _ time => time

namespace PaperExchange

def perform (exchange : PaperExchange α) : ExchangeCall α → PaperExchange α
  | .fill signal price time => (exchange.fill signal price time).2
  | .checkIntrabarStops high low time => (exchange.checkIntrabarStops high low time).2
  | .forceClose price time => (exchange.forceClose price time).2

def run (exchange : PaperExchange α) (calls : List (ExchangeCall α)) : PaperExchange α :=
  calls.foldl perform exchange

-- What an accepted entry was checked for and what it records.
structure Entered (exchange : PaperExchange α) (side : PositionSide) (price : α) (time : ℤ) (reason : String)
    (metadata : Metadata α) (position : OpenPosition α) : Prop where
  sided : position.side = side
  agrees : ∀ held ∈ exchange.positions, held.side = side
  below : (exchange.positions.length : ℤ) < exchange.brokerConfig.pyramiding
  priced : position.entryPrice = exchange.entryEffectivePrice side price
  timed : position.entryTime = time
  reasoned : position.entryReason = reason
  described : position.entryMetadata = metadata
  leveraged : position.leverage = exchange.leverageFor side
  funded : exchange.calculateEntryCapital side price (exchange.equity price) =
    (position.balanceBeforeEntry, position.quantity, position.entryFee)
  stopped : position.stopLossPrice = calculateStopLossPrice side position.entryPrice exchange.brokerConfig.stopLossPct
  targeted : position.takeProfitPrice =
    calculateTakeProfitPrice side position.entryPrice exchange.brokerConfig.takeProfitPct
  sized : ¬ (position.quantity ≤ PyFloat.ofInt 0 ∨ position.balanceBeforeEntry ≤ PyFloat.ofInt 0)

theorem entry_entered (exchange : PaperExchange α) (side : PositionSide) (price : α) (time : ℤ) (reason : String)
    (metadata : Metadata α) (position : OpenPosition α)
    (accepted : exchange.entry side price time reason metadata = some position) :
    exchange.Entered side price time reason metadata position := by
  obtain ⟨⟨capitalDeployed, quantity, entryFee⟩, capital⟩ :
      ∃ capital, exchange.calculateEntryCapital side price (exchange.equity price) = capital := ⟨_, rfl⟩
  simp only [entry, capital] at accepted
  split_ifs at accepted with opposed full refused
  cases accepted
  have agrees : ∀ held ∈ exchange.positions, held.side = side := by
    intro held member
    have same : held.side ≠ side.opposite := by
      intro opposite
      exact opposed (List.any_eq_true.mpr ⟨held, member, by simpa using opposite⟩)
    cases side <;> cases sideEq : held.side <;> simp_all [PositionSide.opposite]
  exact ⟨rfl, agrees, not_le.mp full, rfl, rfl, rfl, rfl, rfl, capital, rfl, rfl, refused⟩

-- What a batch of closings does in one go: the positions it keeps stay open.
def settle (exchange : PaperExchange α) (time : ℤ) (closings : List (Closing α)) (kept : List (OpenPosition α)) :
    PaperExchange α :=
  { exchange with
    balance := (closings.map fun closing => (exchange.realizedPnl closing.1 closing.2.1).2.2).foldl (· + ·) exchange.balance
    positions := kept
    trades := exchange.trades ++
      closings.map fun closing => (exchange.closeOnePosition closing.1 closing.2.1 time closing.2.2).1 }

def sideClosings (exchange : PaperExchange α) (side : PositionSide) (price : α) (exitReason : ExitReason) :
    List (Closing α) :=
  (exchange.positions.filter (·.side = side)).map (·, exchange.exitEffectivePrice side price, exitReason)

theorem close_each_settles (time : ℤ) (exchange : PaperExchange α) (closings : List (Closing α)) :
    (closeEach time exchange closings).2 = exchange.settle time closings exchange.positions := by
  induction closings generalizing exchange with
  | nil => simp [closeEach, settle]
  | cons closing rest ih =>
      obtain ⟨position, exitPrice, exitReason⟩ := closing
      simp only [closeEach, ih]
      simp [settle, closeOnePosition, realizedPnl, exitFee]

theorem close_settles (exchange : PaperExchange α) (side : PositionSide) (price : α) (time : ℤ)
    (exitReason : ExitReason) :
    (exchange.close side price time exitReason).2 =
      exchange.settle time (exchange.sideClosings side price exitReason) (exchange.positions.filter (·.side ≠ side)) := by
  unfold close sideClosings
  cases matching : exchange.positions.filter (·.side = side) with
  | nil =>
      have others : exchange.positions.filter (·.side ≠ side) = exchange.positions := by
        rw [List.filter_eq_self]
        intro position held
        simpa using List.filter_eq_nil_iff.mp matching position held
      rw [others]
      simp [settle]
  | cons first rest =>
      simp only [List.isEmpty_cons, Bool.false_eq_true, if_false, close_each_settles]
      rfl

theorem check_intrabar_stops_settles (exchange : PaperExchange α) (high low : α) (time : ℤ) :
    (exchange.checkIntrabarStops high low time).2 =
      exchange.settle time (evaluateIntrabarStops exchange.positions high low).1
        (evaluateIntrabarStops exchange.positions high low).2 := by
  unfold checkIntrabarStops
  cases triggered : (evaluateIntrabarStops exchange.positions high low).1 with
  | nil =>
      have untouched : (evaluateIntrabarStops exchange.positions high low).2 = exchange.positions := by
        simp only [evaluateIntrabarStops, List.filterMap_eq_nil_iff, Option.map_eq_none_iff] at triggered
        simpa [evaluateIntrabarStops, List.filter_eq_self] using triggered
      simp [settle, untouched, triggered]
  | cons first rest =>
      have holding : exchange.positions.isEmpty = false := by
        cases held : exchange.positions with
        | nil => simp [held, evaluateIntrabarStops] at triggered
        | cons position others => rfl
      simp only [holding, Bool.false_eq_true, if_false, triggered, List.isEmpty_cons, close_each_settles]
      rfl

theorem settle_settle (exchange : PaperExchange α) (time : ℤ) (first second : List (Closing α))
    (between kept : List (OpenPosition α)) :
    (exchange.settle time first between).settle time second kept = exchange.settle time (first ++ second) kept := by
  simp [settle, closeOnePosition, realizedPnl, exitFee]

def forceClosings (exchange : PaperExchange α) (price : α) : List (Closing α) :=
  exchange.sideClosings .long price .endOfBacktest ++ exchange.sideClosings .short price .endOfBacktest

theorem force_close_settles (exchange : PaperExchange α) (price : α) (time : ℤ) :
    (exchange.forceClose price time).2 = exchange.settle time (exchange.forceClosings price) [] := by
  have shorts : (exchange.close .long price time .endOfBacktest).2.sideClosings .short price .endOfBacktest =
      exchange.sideClosings .short price .endOfBacktest := by
    rw [close_settles]
    simp only [sideClosings, settle, List.filter_filter, exitEffectivePrice, slippageDelta]
    congr 2
    funext position
    cases position.side <;> rfl
  have none_left : (exchange.close .long price time .endOfBacktest).2.positions.filter (·.side ≠ .short) = [] := by
    rw [close_settles]
    simp only [settle, List.filter_filter, List.filter_eq_nil_iff]
    intro position _
    cases position.side <;> simp
  calc (exchange.forceClose price time).2
      = ((exchange.close .long price time .endOfBacktest).2.close .short price time .endOfBacktest).2 := rfl
    _ = (exchange.close .long price time .endOfBacktest).2.settle time
          (exchange.sideClosings .short price .endOfBacktest) [] := by rw [close_settles, shorts, none_left]
    _ = exchange.settle time (exchange.forceClosings price) [] := by
          rw [close_settles, settle_settle]
          rfl

theorem close_partitions (exchange : PaperExchange α) (side : PositionSide) (price : α) (exitReason : ExitReason) :
    ((exchange.sideClosings side price exitReason).map Prod.fst ++ exchange.positions.filter (·.side ≠ side)).Perm
      exchange.positions := by
  have closing : (exchange.sideClosings side price exitReason).map Prod.fst =
      exchange.positions.filter (·.side = side) := by
    simp [sideClosings, Function.comp_def]
  rw [closing]
  simpa using List.filter_append_perm (fun position : OpenPosition α => decide (position.side = side)) exchange.positions

theorem stops_partition (positions : List (OpenPosition α)) (high low : α) :
    ((evaluateIntrabarStops positions high low).1.map Prod.fst ++ (evaluateIntrabarStops positions high low).2).Perm
      positions := by
  have triggered : (evaluateIntrabarStops positions high low).1.map Prod.fst =
      positions.filter fun position => !(position.intrabarExit high low).isNone := by
    induction positions with
    | nil => rfl
    | cons position rest ih =>
        cases exits : position.intrabarExit high low <;> simp_all [evaluateIntrabarStops]
  rw [triggered]
  exact (List.perm_append_comm).trans (List.filter_append_perm _ positions)

theorem side_closings_map (exchange : PaperExchange α) (side : PositionSide) (price : α) (exitReason : ExitReason) :
    exchange.sideClosings side price exitReason =
      (exchange.positions.filter (·.side = side)).map fun position =>
        (position, exchange.exitEffectivePrice position.side price, exitReason) := by
  refine List.map_congr_left fun position member => ?_
  have sided : position.side = side := by simpa using (List.mem_filter.mp member).2
  rw [sided]

theorem force_closings_perm (exchange : PaperExchange α) (price : α) :
    (exchange.forceClosings price).Perm (exchange.positions.map fun position =>
      (position, exchange.exitEffectivePrice position.side price, .endOfBacktest)) := by
  have complement : exchange.positions.filter (·.side = .short) =
      exchange.positions.filter fun position => !decide (position.side = .long) := by
    congr 1
    funext position
    cases position.side <;> rfl
  rw [forceClosings, side_closings_map, side_closings_map, complement, ← List.map_append]
  exact (List.filter_append_perm _ exchange.positions).map _

theorem force_close_partitions (exchange : PaperExchange α) (price : α) :
    ((exchange.forceClosings price).map Prod.fst).Perm exchange.positions := by
  simpa [Function.comp_def] using (exchange.force_closings_perm price).map Prod.fst

def accepts (exchange : PaperExchange α) : ExchangeCall α → Option (OpenPosition α)
  | .fill signal price time =>
      match signal.action with
      | .buy => exchange.entry .long price time signal.reason signal.metadata
      | .short => exchange.entry .short price time signal.reason signal.metadata
      | _ => none
  | _ => none

def closings (exchange : PaperExchange α) : ExchangeCall α → List (Closing α)
  | .fill signal price _ =>
      match signal.action with
      | .sell => exchange.sideClosings .long price .strategySignal
      | .cover => exchange.sideClosings .short price .strategySignal
      | _ => []
  | .checkIntrabarStops high low _ => (evaluateIntrabarStops exchange.positions high low).1
  | .forceClose price _ => exchange.forceClosings price

def Opens (exchange : PaperExchange α) (call : ExchangeCall α) (position : OpenPosition α) : Prop :=
  ∃ side price reason metadata, exchange.entry side price call.time reason metadata = some position ∧
    exchange.accepts call = some position ∧ exchange.closings call = [] ∧
      exchange.perform call = exchange.opened position

-- The closings of a call split the positions into those closed and those kept.
def Settles (exchange : PaperExchange α) (call : ExchangeCall α) : Prop :=
  exchange.accepts call = none ∧
    ∃ kept, ((exchange.closings call).map Prod.fst ++ kept).Perm exchange.positions ∧
      exchange.perform call = exchange.settle call.time (exchange.closings call) kept

theorem idle_settles (exchange : PaperExchange α) (call : ExchangeCall α) (refused : exchange.accepts call = none)
    (nothing : exchange.closings call = []) (unchanged : exchange.perform call = exchange) : exchange.Settles call :=
  ⟨refused, exchange.positions, by simp [nothing], by simp [nothing, unchanged, settle]⟩

theorem entry_cases (exchange : PaperExchange α) (signal : Signal α) (price : α) (time : ℤ) (side : PositionSide)
    (asked : exchange.accepts (.fill signal price time) =
      exchange.entry side price time signal.reason signal.metadata)
    (performed : exchange.perform (.fill signal price time) =
      exchange.openPosition side price time signal.reason signal.metadata)
    (nothing : exchange.closings (.fill signal price time) = []) :
    (∃ position, exchange.Opens (.fill signal price time) position) ∨ exchange.Settles (.fill signal price time) := by
  cases accepted : exchange.entry side price time signal.reason signal.metadata with
  | none =>
      have unchanged : exchange.perform (.fill signal price time) = exchange := by
        simp [performed, openPosition, accepted]
      exact .inr (exchange.idle_settles _ (asked.trans accepted) nothing unchanged)
  | some position =>
      exact .inl ⟨position, side, price, _, _, accepted, asked.trans accepted, nothing,
        by simp [performed, openPosition, accepted]⟩

theorem exit_settles (exchange : PaperExchange α) (signal : Signal α) (price : α) (time : ℤ) (side : PositionSide)
    (refused : exchange.accepts (.fill signal price time) = none)
    (performed : exchange.perform (.fill signal price time) = (exchange.close side price time .strategySignal).2)
    (closed : exchange.closings (.fill signal price time) = exchange.sideClosings side price .strategySignal) :
    exchange.Settles (.fill signal price time) :=
  ⟨refused, _, closed ▸ exchange.close_partitions side price .strategySignal,
    by rw [performed, closed, close_settles]; rfl⟩

theorem perform_cases (exchange : PaperExchange α) (call : ExchangeCall α) :
    (∃ position, exchange.Opens call position) ∨ exchange.Settles call := by
  cases call with
  | fill signal price time =>
      cases action : signal.action with
      | buy =>
          exact exchange.entry_cases signal price time .long (by simp [accepts, action]) (by simp [perform, fill, action])
            (by simp [closings, action])
      | short =>
          exact exchange.entry_cases signal price time .short (by simp [accepts, action])
            (by simp [perform, fill, action]) (by simp [closings, action])
      | sell =>
          exact .inr (exchange.exit_settles signal price time .long (by simp [accepts, action])
            (by simp [perform, fill, action]) (by simp [closings, action]))
      | cover =>
          exact .inr (exchange.exit_settles signal price time .short (by simp [accepts, action])
            (by simp [perform, fill, action]) (by simp [closings, action]))
      | hold =>
          exact .inr (exchange.idle_settles _ (by simp [accepts, action]) (by simp [closings, action])
            (by simp [perform, fill, action]))
  | checkIntrabarStops high low time =>
      exact .inr ⟨rfl, _, stops_partition exchange.positions high low,
        check_intrabar_stops_settles exchange high low time⟩
  | forceClose price time =>
      exact .inr ⟨rfl, [], by simpa [closings] using exchange.force_close_partitions price,
        force_close_settles exchange price time⟩

theorem perform_invariant (Inv : PaperExchange α → Prop)
    (opens : ∀ exchange side price time reason metadata position, Inv exchange →
      exchange.Entered side price time reason metadata position → Inv (exchange.opened position))
    (settles : ∀ exchange time closings kept, Inv exchange → (closings.map Prod.fst ++ kept).Perm exchange.positions →
      Inv (exchange.settle time closings kept))
    (exchange : PaperExchange α) (call : ExchangeCall α) (holds : Inv exchange) : Inv (exchange.perform call) := by
  rcases exchange.perform_cases call with
    ⟨position, side, price, reason, metadata, accepted, _, _, performed⟩ | ⟨_, kept, split, performed⟩
  · rw [performed]
    exact opens exchange side price call.time reason metadata position holds
      (entry_entered exchange side price call.time reason metadata position accepted)
  · rw [performed]
    exact settles exchange call.time _ kept holds split

def closingTrade (exchange : PaperExchange α) (time : ℤ) (closing : Closing α) : Trade α :=
  (exchange.closeOnePosition closing.1 closing.2.1 time closing.2.2).1

theorem perform_trades (exchange : PaperExchange α) (call : ExchangeCall α) :
    (exchange.perform call).trades =
      exchange.trades ++ (exchange.closings call).map (exchange.closingTrade call.time) := by
  rcases exchange.perform_cases call with ⟨position, _, _, _, _, _, _, nothing, performed⟩ | ⟨_, kept, _, performed⟩
  · simp [performed, nothing, opened]
  · rw [performed]
    rfl

theorem run_trades_grow (exchange : PaperExchange α) (calls : List (ExchangeCall α)) :
    exchange.trades <+: (exchange.run calls).trades := by
  induction calls generalizing exchange with
  | nil => exact List.prefix_rfl
  | cons call rest ih =>
      have performed : exchange.trades <+: (exchange.perform call).trades := ⟨_, (exchange.perform_trades call).symm⟩
      exact performed.trans (ih (exchange.perform call))

theorem force_close_flat (exchange : PaperExchange α) (price : α) (time : ℤ) :
    (exchange.forceClose price time).2.positions = [] := by
  rw [force_close_settles]
  rfl

theorem create_fresh (symbol : String) (initialBalance feePercent : α)
    (sizing : Option { sizing : PositionSizing α // sizing.Accepted }) (config : Option (BrokerSimulationConfig α))
    (exchange : PaperExchange α) (created : create symbol initialBalance feePercent sizing config = some exchange) :
    exchange.initialBalance = initialBalance ∧ exchange.balance = initialBalance ∧ exchange.positions = [] ∧
      exchange.trades = [] := by
  unfold create at created
  split_ifs at created
  dsimp only at created
  split at created
  · cases created
    exact ⟨rfl, rfl, rfl, rfl⟩
  · cases created

theorem perform_fixed (exchange : PaperExchange α) (call : ExchangeCall α) :
    (exchange.perform call).initialBalance = exchange.initialBalance ∧
      (exchange.perform call).brokerConfig = exchange.brokerConfig := by
  rcases exchange.perform_cases call with ⟨_, _, _, _, _, _, _, _, performed⟩ | ⟨_, _, _, performed⟩
  · rw [performed]
    exact ⟨rfl, rfl⟩
  · rw [performed]
    exact ⟨rfl, rfl⟩

theorem run_fixed (exchange : PaperExchange α) (calls : List (ExchangeCall α)) :
    (exchange.run calls).initialBalance = exchange.initialBalance ∧
      (exchange.run calls).brokerConfig = exchange.brokerConfig := by
  induction calls generalizing exchange with
  | nil => exact ⟨rfl, rfl⟩
  | cons call rest ih =>
      obtain ⟨initial, config⟩ := exchange.perform_fixed call
      exact ⟨(ih _).1.trans initial, (ih _).2.trans config⟩

theorem run_invariant (Inv : PaperExchange α → Prop)
    (kept : ∀ exchange call, Inv exchange → Inv (exchange.perform call))
    (exchange : PaperExchange α) (calls : List (ExchangeCall α)) (holds : Inv exchange) : Inv (exchange.run calls) := by
  induction calls generalizing exchange with
  | nil => exact holds
  | cons call rest ih => exact ih (exchange.perform call) (kept exchange call holds)

end PaperExchange

end Sagittarius
