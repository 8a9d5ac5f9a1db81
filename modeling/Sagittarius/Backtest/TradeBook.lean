import Sagittarius.Backtest.EngineAgreement

set_option autoImplicit false

namespace Sagittarius

variable {α : Type} [PyFloat α]

def Trade.Spans (trade : Trade α) (time : ℤ) : Prop := trade.entryTime ≤ time ∧ time < trade.exitTime

instance (time : ℤ) : DecidablePred fun trade : Trade α => trade.Spans time := fun _ => inferInstanceAs (Decidable (_ ∧ _))

-- The trades of an account that never holds both sides and never more than
-- `pyramiding` positions, in the order they were closed.
structure TradeBook (pyramiding : ℤ) (trades : List (Trade α)) : Prop where
  ended : ∀ trade ∈ trades, trade.entryTime ≤ trade.exitTime
  inOrder : trades.Pairwise fun earlier later => earlier.exitTime ≤ later.exitTime
  apart : trades.Pairwise fun earlier later => earlier.side ≠ later.side → earlier.exitTime ≤ later.entryTime
  bounded : ∀ time, (trades.countP fun trade => trade.Spans time : ℕ) ≤ pyramiding

namespace PaperExchange

def spanning (exchange : PaperExchange α) (time : ℤ) : ℕ :=
  (exchange.trades.countP fun trade => trade.Spans time) + exchange.positions.countP fun position => position.entryTime ≤ time

structure Chronicle (pyramiding : ℤ) (exchange : PaperExchange α) (now : ℤ) : Prop where
  limited : exchange.brokerConfig.pyramiding = pyramiding
  entered : ∀ position ∈ exchange.positions, position.entryTime ≤ now
  oneSided : ∀ first ∈ exchange.positions, ∀ second ∈ exchange.positions, first.side = second.side
  ended : ∀ trade ∈ exchange.trades, trade.entryTime ≤ trade.exitTime ∧ trade.exitTime ≤ now
  inOrder : exchange.trades.Pairwise fun earlier later => earlier.exitTime ≤ later.exitTime
  apart : exchange.trades.Pairwise fun earlier later => earlier.side ≠ later.side → earlier.exitTime ≤ later.entryTime
  opposed : ∀ trade ∈ exchange.trades, ∀ position ∈ exchange.positions,
    trade.side ≠ position.side → trade.exitTime ≤ position.entryTime
  bounded : ∀ time, (exchange.spanning time : ℤ) ≤ pyramiding

variable {pyramiding : ℤ}

theorem chronicle_later (exchange : PaperExchange α) (now later : ℤ) (chronicle : Chronicle pyramiding exchange now)
    (after : now ≤ later) : Chronicle pyramiding exchange later :=
  { chronicle with
    entered := fun position held => (chronicle.entered position held).trans after
    ended := fun trade listed => ⟨(chronicle.ended trade listed).1, (chronicle.ended trade listed).2.trans after⟩ }

theorem fresh_chronicle (exchange : PaperExchange α) (now : ℤ) (untraded : exchange.trades = [])
    (flat : exchange.positions = []) : Chronicle exchange.brokerConfig.pyramiding exchange now := by
  have positive := exchange.brokerConfig.pyramiding_positive
  constructor <;> simp only [untraded, flat, spanning]
  · nofun
  · nofun
  · nofun
  · exact List.Pairwise.nil
  · exact List.Pairwise.nil
  · nofun
  · intro time
    simp only [List.countP_nil]
    omega

theorem none_spans_now (exchange : PaperExchange α) (now time : ℤ) (chronicle : Chronicle pyramiding exchange now)
    (reached : now ≤ time) : (exchange.trades.countP fun trade => trade.Spans time) = 0 := by
  rw [List.countP_eq_zero]
  intro trade listed spans
  have ended := (chronicle.ended trade listed).2
  have later := (of_decide_eq_true spans).2
  omega

theorem opened_chronicle (exchange : PaperExchange α) (side : PositionSide) (price : α) (now time : ℤ) (reason : String)
    (metadata : Metadata α) (position : OpenPosition α) (chronicle : Chronicle pyramiding exchange now) (after : now ≤ time)
    (entered : exchange.Entered side price time reason metadata position) :
    Chronicle pyramiding (exchange.opened position) time := by
  have timed := entered.timed
  constructor
  · exact chronicle.limited
  · intro held member
    rcases List.mem_append.mp member with earlier | new
    · exact (chronicle.entered held earlier).trans after
    · rw [List.mem_singleton.mp new, timed]
  · have sided : ∀ held ∈ (exchange.opened position).positions, held.side = side := by
      intro held member
      rcases List.mem_append.mp member with earlier | new
      · exact entered.agrees held earlier
      · rw [List.mem_singleton.mp new, entered.sided]
    exact fun first inFirst second inSecond => (sided first inFirst).trans (sided second inSecond).symm
  · exact fun trade listed => ⟨(chronicle.ended trade listed).1, (chronicle.ended trade listed).2.trans after⟩
  · exact chronicle.inOrder
  · exact chronicle.apart
  · intro trade listed held member different
    rcases List.mem_append.mp member with earlier | new
    · exact chronicle.opposed trade listed held earlier different
    · rw [List.mem_singleton.mp new, timed]
      exact (chronicle.ended trade listed).2.trans after
  · intro instant
    have before := chronicle.bounded instant
    have room := chronicle.limited ▸ entered.below
    simp only [spanning, opened, List.countP_append, List.countP_cons, List.countP_nil, timed] at before ⊢
    by_cases reached : time ≤ instant
    · have ended := exchange.none_spans_now now instant chronicle (after.trans reached)
      have held : exchange.positions.countP (fun position => decide (position.entryTime ≤ instant)) ≤
          exchange.positions.length := List.countP_le_length
      simp only [ended, reached, decide_true, if_true]
      omega
    · simp only [reached, decide_false, Bool.false_eq_true, if_false]
      omega

theorem settled_chronicle (exchange : PaperExchange α) (now time : ℤ) (closings : List (Closing α))
    (kept : List (OpenPosition α)) (chronicle : Chronicle pyramiding exchange now) (after : now ≤ time)
    (split : (closings.map Prod.fst ++ kept).Perm exchange.positions) :
    Chronicle pyramiding (exchange.settle time closings kept) time := by
  have keptHeld : ∀ position ∈ kept, position ∈ exchange.positions := fun position member =>
    split.subset (List.mem_append_right _ member)
  have closedHeld : ∀ closing ∈ closings, closing.1 ∈ exchange.positions := fun closing member =>
    split.subset (List.mem_append_left _ (List.mem_map_of_mem member))
  have recorded : ∀ trade ∈ closings.map (exchange.closingTrade time), ∃ position ∈ exchange.positions,
      trade.side = position.side ∧ trade.entryTime = position.entryTime ∧ trade.exitTime = time := by
    intro trade listed
    obtain ⟨closing, member, rfl⟩ := List.mem_map.mp listed
    exact ⟨closing.1, closedHeld closing member, rfl, rfl, rfl⟩
  constructor
  · exact chronicle.limited
  · exact fun position member => (chronicle.entered position (keptHeld position member)).trans after
  · intro first inFirst second inSecond
    exact chronicle.oneSided first (keptHeld first inFirst) second (keptHeld second inSecond)
  · intro trade listed
    rcases List.mem_append.mp listed with earlier | new
    · exact ⟨(chronicle.ended trade earlier).1, (chronicle.ended trade earlier).2.trans after⟩
    · obtain ⟨position, held, _, entry, exit⟩ := recorded trade new
      rw [entry, exit]
      exact ⟨(chronicle.entered position held).trans after, le_rfl⟩
  · refine List.pairwise_append.mpr ⟨chronicle.inOrder, ?_, ?_⟩
    · exact List.pairwise_map.mpr (List.pairwise_of_forall fun _ _ => le_rfl)
    · intro earlier inEarlier new inNew
      obtain ⟨_, _, _, _, exit⟩ := recorded new inNew
      rw [exit]
      exact (chronicle.ended earlier inEarlier).2.trans after
  · refine List.pairwise_append.mpr ⟨chronicle.apart, ?_, ?_⟩
    · refine List.pairwise_of_forall_mem_list fun first inFirst second inSecond different => absurd ?_ different
      obtain ⟨one, heldOne, sideOne, _⟩ := recorded first inFirst
      obtain ⟨two, heldTwo, sideTwo, _⟩ := recorded second inSecond
      rw [sideOne, sideTwo]
      exact chronicle.oneSided one heldOne two heldTwo
    · intro earlier inEarlier new inNew different
      obtain ⟨position, held, side, entry, _⟩ := recorded new inNew
      rw [side] at different
      rw [entry]
      exact chronicle.opposed earlier inEarlier position held different
  · intro trade listed position member different
    rcases List.mem_append.mp listed with earlier | new
    · exact chronicle.opposed trade earlier position (keptHeld position member) different
    · obtain ⟨closed, held, side, _⟩ := recorded trade new
      rw [side] at different
      exact absurd (chronicle.oneSided closed held position (keptHeld position member)) different
  · intro instant
    refine le_trans (Int.ofNat_le.mpr ?_) (chronicle.bounded instant)
    have held := split.countP_eq fun position => decide (position.entryTime ≤ instant)
    rw [List.countP_append, List.countP_map] at held
    have closed : (closings.map (exchange.closingTrade time)).countP (fun trade => decide (trade.Spans instant)) ≤
        closings.countP ((fun position => decide (position.entryTime ≤ instant)) ∘ Prod.fst) := by
      rw [List.countP_map]
      exact List.countP_mono_left fun closing _ spans => decide_eq_true (of_decide_eq_true spans).1
    change (exchange.trades ++ closings.map (exchange.closingTrade time)).countP _ + kept.countP _ ≤ _
    rw [List.countP_append, spanning]
    omega

theorem perform_chronicle (exchange : PaperExchange α) (call : ExchangeCall α) (now : ℤ)
    (chronicle : Chronicle pyramiding exchange now) (after : now ≤ call.time) :
    Chronicle pyramiding (exchange.perform call) call.time := by
  rcases exchange.perform_cases call with
    ⟨position, side, price, reason, metadata, accepted, _, _, performed⟩ | ⟨_, kept, split, performed⟩
  · rw [performed]
    exact exchange.opened_chronicle side price now call.time reason metadata position chronicle after
      (entry_entered exchange side price call.time reason metadata position accepted)
  · rw [performed]
    exact exchange.settled_chronicle now call.time _ kept chronicle after split

theorem fill_chronicle (exchange : PaperExchange α) (signal : Option (Signal α)) (price : α) (now time : ℤ)
    (chronicle : Chronicle pyramiding exchange now) (after : now ≤ time) :
    Chronicle pyramiding (exchange.fillAny signal price time) time := by
  cases signal with
  | none => exact exchange.chronicle_later now time chronicle after
  | some signal => exact exchange.perform_chronicle (.fill signal price time) now chronicle after

theorem closed_trade_book (exchange : PaperExchange α) (price : α) (now time : ℤ)
    (chronicle : Chronicle pyramiding exchange now) (after : now ≤ time) :
    TradeBook pyramiding (exchange.forceClose price time).2.trades := by
  have closed := exchange.perform_chronicle (.forceClose price time) now chronicle after
  refine ⟨fun trade listed => (closed.ended trade listed).1, closed.inOrder, closed.apart, fun instant => ?_⟩
  refine le_trans (Int.ofNat_le.mpr ?_) (closed.bounded instant)
  exact Nat.le_add_right _ _

end PaperExchange

structure InTimeOrder (klines : List (MarketData α)) : Prop where
  spans : ∀ kline ∈ klines, kline.openTime ≤ kline.closeTime
  follow : klines.Pairwise fun earlier later => earlier.closeTime ≤ later.openTime

omit [PyFloat α] in
theorem in_time_order_sublist (klines part : List (MarketData α)) (ordered : InTimeOrder klines)
    (isPart : part.Sublist klines) : InTimeOrder part :=
  ⟨fun kline member => ordered.spans kline (isPart.subset member), ordered.follow.sublist isPart⟩

theorem StaticRun.bar_chronicle (pyramiding : ℤ) (run next : StaticRun α) (candle : MarketData α) (now : ℤ)
    (chronicle : PaperExchange.Chronicle pyramiding run.exchange now) (after : now ≤ candle.openTime)
    (spans : candle.openTime ≤ candle.closeTime) (stepped : run.bar candle = .ok next) :
    PaperExchange.Chronicle pyramiding next.exchange candle.closeTime := by
  obtain ⟨_, exchanged, _⟩ := run.bar_cases next candle stepped
  rw [exchanged]
  have filled := run.exchange.fill_chronicle run.pendingSignal candle.openPrice now candle.openTime chronicle after
  exact PaperExchange.perform_chronicle _ (.checkIntrabarStops _ _ _) candle.openTime filled spans

theorem StaticRun.replay_chronicle (pyramiding : ℤ) (run final : StaticRun α) (klines : List (MarketData α))
    (last : MarketData α) (now : ℤ) (ordered : InTimeOrder klines) (after : ∀ kline ∈ klines, now ≤ kline.openTime)
    (isLast : klines.getLast? = some last) (chronicle : PaperExchange.Chronicle pyramiding run.exchange now)
    (replayed : run.replay klines = .ok final) : PaperExchange.Chronicle pyramiding final.exchange last.closeTime := by
  induction klines generalizing run now with
  | nil => cases isLast
  | cons candle rest ih =>
      obtain ⟨next, stepped, replayedRest⟩ := StaticRun.replay_cons run final candle rest replayed
      have first := run.bar_chronicle pyramiding next candle now chronicle (after candle (by simp))
        (ordered.spans candle (by simp)) stepped
      cases rest with
      | nil =>
          cases isLast
          cases replayedRest
          exact first
      | cons second others =>
          rw [List.getLast?_cons_cons] at isLast
          exact ih next candle.closeTime (in_time_order_sublist _ _ ordered (List.sublist_cons_self _ _))
            (fun kline member => (List.pairwise_cons.mp ordered.follow).1 kline member) isLast first replayedRest

theorem simulated_trade_book (command : BacktestCommand α) (exchange : PaperExchange α) (klines : List (MarketData α))
    (result : BacktestResult α) (funded : command.exchange = some exchange) (ordered : InTimeOrder klines)
    (simulates : Simulates command klines result) : TradeBook exchange.brokerConfig.pyramiding result.trades := by
  obtain ⟨_, _, _, _, simulated⟩ := simulates
  obtain ⟨account, run, last, fundedToo, replayed, isLast, rfl⟩ := simulate_replays _ _ _ _ _ _ _ simulated
  cases funded.symm.trans fundedToo
  obtain ⟨_, _, flat, untraded⟩ := PaperExchange.create_fresh _ _ _ _ _ _ funded
  cases klines with
  | nil => cases isLast
  | cons first rest =>
      have after : ∀ kline ∈ first :: rest, first.openTime ≤ kline.openTime := by
        intro kline member
        rcases List.mem_cons.mp member with rfl | later
        · exact le_rfl
        · exact (ordered.spans first (by simp)).trans ((List.pairwise_cons.mp ordered.follow).1 kline later)
      have fresh := exchange.fresh_chronicle first.openTime untraded flat
      have chronicle := StaticRun.replay_chronicle exchange.brokerConfig.pyramiding _ run (first :: rest) last
        first.openTime ordered after isLast fresh replayed
      exact run.exchange.closed_trade_book last.closePrice last.closeTime last.closeTime chronicle le_rfl

theorem static_parts (command : BacktestCommand α) (rows : List (MarketData α)) (outcome : StaticBacktest α)
    (executed : runStaticBacktest command rows = .ok (some outcome)) :
    ∀ result ∈ outcome.full :: outcome.outOfSample.toList.flatMap fun validation =>
        [validation.inSample, validation.outOfSample],
      ∃ part, part.Sublist rows ∧ Simulates command part result := by
  have partOf : ∀ offset count, (streamKlines rows offset count).Sublist rows := fun offset count =>
    (List.take_sublist count _).trans (List.drop_sublist offset rows)
  unfold runStaticBacktest at executed
  dsimp only at executed
  generalize command.limit.elim rows.length (min · rows.length) = totalCount at executed
  split_ifs at executed with empty validates
  · cases executed
  · generalize splitCountForOutOfSample totalCount (defaultInSampleRatio : α) = counts at executed
    cases inRan : simulate command "in_sample" counts.1 0 (totalCount * 2) (streamKlines rows 0 counts.1) with
    | error stopped =>
        rw [inRan] at executed
        cases executed
    | ok inSample =>
        cases outRan : simulate command "out_of_sample" counts.2 counts.1 (totalCount * 2)
            (streamKlines rows counts.1 counts.2) with
        | error stopped =>
            simp only [inRan, outRan, bind, Except.bind] at executed
            cases executed
        | ok outOfSample =>
            cases ran : simulate command "full" totalCount (counts.1 + counts.2) (totalCount * 2)
                (streamKlines rows 0 totalCount) with
            | error stopped =>
                simp only [inRan, outRan, ran, bind, Except.bind] at executed
                cases executed
            | ok full =>
                simp only [inRan, outRan, ran, bind, Except.bind] at executed
                cases executed
                simp only [Option.toList_some, List.flatMap_cons, List.flatMap_nil, List.append_nil, List.mem_cons,
                  List.not_mem_nil, or_false]
                rintro result (rfl | rfl | rfl)
                · exact ⟨_, partOf 0 totalCount, _, _, _, _, ran⟩
                · exact ⟨_, partOf 0 counts.1, _, _, _, _, inRan⟩
                · exact ⟨_, partOf counts.1 counts.2, _, _, _, _, outRan⟩
  · cases ran : simulate command "full" totalCount 0 totalCount (streamKlines rows 0 totalCount) with
    | error stopped =>
        rw [ran] at executed
        cases executed
    | ok full =>
        rw [ran] at executed
        cases executed
        intro result listed
        rw [List.mem_singleton.mp listed]
        exact ⟨_, partOf 0 totalCount, _, _, _, _, ran⟩

namespace TickRun

structure Recorded (pyramiding : ℤ) (done : List (MarketData α)) (run : TickRun α) : Prop where
  account : ∀ now, (∀ tick ∈ done, tick.closeTime ≤ now) → PaperExchange.Chronicle pyramiding run.exchange now
  forming : ∀ held, run.forming = some held → ∃ tick ∈ done, held.lastTickCloseTime = tick.closeTime ∧
    ∀ earlier ∈ done, earlier.closeTime ≤ tick.closeTime

theorem tick_forming (command : BacktestCommand α) (run next : TickRun α) (tick : MarketData α)
    (stepped : run.tick command tick = .ok next) (held : FormingBar α) (holds : next.forming = some held) :
    held.lastTickCloseTime = tick.closeTime := by
  obtain ⟨entered, forming, enters, finishes⟩ := step_cases _ command run next tick stepped
  obtain ⟨_, ends, _⟩ := run.enter_fills command entered tick forming enters
  rcases finishes with ⟨_, committed⟩ | ⟨_, evaluated⟩
  · obtain ⟨_, _, _, _, _, empty⟩ := entered.commit_cases command next forming committed
    cases empty.symm.trans holds
  · obtain ⟨_, _, _, _, _, forms⟩ := entered.evaluate_cases command next forming tick evaluated
    cases holds.symm.trans forms
    exact ends

theorem tick_recorded (command : BacktestCommand α) (pyramiding : ℤ) (done : List (MarketData α)) (run next : TickRun α)
    (tick : MarketData α) (recorded : run.Recorded pyramiding done)
    (after : ∀ earlier ∈ done, earlier.closeTime ≤ tick.closeTime) (stepped : run.tick command tick = .ok next) :
    next.Recorded pyramiding (done ++ [tick]) := by
  obtain ⟨entered, exchanged, gap⟩ := run.tick_fills command next tick stepped
  have entry : PaperExchange.Chronicle pyramiding entered tick.closeTime := by
    rcases gap with ⟨_, rfl⟩ | ⟨held, holds, rfl⟩
    · exact recorded.account tick.closeTime after
    · obtain ⟨last, inDone, ends, latest⟩ := recorded.forming held holds
      rw [ends]
      have filled := run.exchange.fill_chronicle (run.gapSignal command tick) held.closePrice last.closeTime last.closeTime
        (recorded.account last.closeTime latest) le_rfl
      exact PaperExchange.chronicle_later _ last.closeTime tick.closeTime filled (after last inDone)
  constructor
  · intro now reached
    rw [exchanged]
    refine PaperExchange.chronicle_later _ tick.closeTime now ?_ (reached tick (by simp))
    exact entered.fill_chronicle _ _ tick.closeTime tick.closeTime entry le_rfl
  · intro held holds
    refine ⟨tick, by simp, run.tick_forming command next tick stepped held holds, fun earlier member => ?_⟩
    rcases List.mem_append.mp member with inDone | isTick
    · exact after earlier inDone
    · rw [List.mem_singleton.mp isTick]

theorem ticks_recorded (command : BacktestCommand α) (exchange : PaperExchange α) (run : TickRun α)
    (ticks : List (MarketData α)) (funded : command.exchange = some exchange)
    (ordered : ticks.Pairwise fun earlier later => earlier.closeTime ≤ later.closeTime)
    (folded : ticks.foldlM (TickRun.tick command) (TickRun.start command exchange) = .ok run) :
    run.Recorded exchange.brokerConfig.pyramiding ticks := by
  obtain ⟨_, _, flat, untraded⟩ := PaperExchange.create_fresh _ _ _ _ _ _ funded
  refine Streaming.fold_invariant (TickRun.tick command)
    (fun done run => done.Pairwise (fun earlier later => earlier.closeTime ≤ later.closeTime) →
      run.Recorded exchange.brokerConfig.pyramiding done) ?_
    (TickRun.start command exchange) run ticks ?_ folded ordered
  · intro done run tick next recorded stepped inOrder
    obtain ⟨before, _, follow⟩ := List.pairwise_append.mp inOrder
    have after : ∀ earlier ∈ done, earlier.closeTime ≤ tick.closeTime := fun earlier member =>
      follow earlier member tick (by simp)
    exact run.tick_recorded command _ done next tick (recorded before) after stepped
  · exact fun _ => ⟨fun now _ => exchange.fresh_chronicle now untraded flat, nofun⟩

end TickRun

theorem ticked_trade_book (command : BacktestCommand α) (exchange : PaperExchange α) (totalTicks : ℕ)
    (ticks : List (MarketData α)) (result : BacktestResult α) (funded : command.exchange = some exchange)
    (ordered : ticks.Pairwise fun earlier later => earlier.closeTime ≤ later.closeTime)
    (simulated : simulateTicks command totalTicks ticks = .ok result) :
    TradeBook exchange.brokerConfig.pyramiding result.trades := by
  obtain ⟨account, run, done, last, fundedToo, folded, flushed, isLast, rfl⟩ :=
    simulate_ticks_replays command totalTicks ticks result simulated
  cases funded.symm.trans fundedToo
  have recorded := TickRun.ticks_recorded command exchange run ticks funded ordered folded
  have latest : ∀ tick ∈ ticks, tick.closeTime ≤ last.closeTime := by
    obtain ⟨front, rfl⟩ := List.getLast?_eq_some_iff.mp isLast
    intro tick member
    rcases List.mem_append.mp member with earlier | isTick
    · exact (List.pairwise_append.mp ordered).2.2 tick earlier last (by simp)
    · rw [List.mem_singleton.mp isTick]
  have chronicle : PaperExchange.Chronicle exchange.brokerConfig.pyramiding done.exchange last.closeTime := by
    rcases run.flush_fills command done flushed with ⟨_, rfl⟩ | ⟨held, holds, exchanged⟩
    · exact recorded.account last.closeTime latest
    · obtain ⟨tick, member, ends, isLatest⟩ := recorded.forming held holds
      rw [exchanged, ends]
      refine PaperExchange.chronicle_later _ tick.closeTime last.closeTime ?_ (latest tick member)
      exact run.exchange.fill_chronicle _ _ tick.closeTime tick.closeTime (recorded.account tick.closeTime isLatest) le_rfl
  exact done.exchange.closed_trade_book last.closePrice last.closeTime last.closeTime chronicle le_rfl

-- Whatever the strategy signals, neither engine reports trades of an account
-- that held both sides, or more than `pyramiding` positions, at any time.
theorem backtest_trades_booked (command : BacktestCommand α) (exchange : PaperExchange α) (rows : List (MarketData α))
    (funded : command.exchange = some exchange) (ordered : InTimeOrder rows) :
    (∀ outcome, runStaticBacktest command rows = .ok (some outcome) →
        ∀ result ∈ outcome.full :: outcome.outOfSample.toList.flatMap fun validation =>
            [validation.inSample, validation.outOfSample],
          TradeBook exchange.brokerConfig.pyramiding result.trades) ∧
      ∀ result, runHistoricalTickBacktest command rows = .ok (some result) →
        TradeBook exchange.brokerConfig.pyramiding result.trades := by
  constructor
  · intro outcome executed result listed
    obtain ⟨part, isPart, simulates⟩ := static_parts command rows outcome executed result listed
    exact simulated_trade_book command exchange part result funded (in_time_order_sublist rows part ordered isPart) simulates
  · intro result executed
    obtain ⟨totalTicks, simulated⟩ := tick_backtest_simulates command rows result executed
    have closing : (command.limited rows).Pairwise fun earlier later => earlier.closeTime ≤ later.closeTime := by
      have isPart : (command.limited rows).Sublist rows := by
        unfold BacktestCommand.limited
        cases command.limit with
        | none => exact List.Sublist.refl rows
        | some limit => exact List.take_sublist limit rows
      have part := in_time_order_sublist rows _ ordered isPart
      exact part.follow.imp_of_mem fun _ isLater before => before.trans (part.spans _ isLater)
    exact ticked_trade_book command exchange totalTicks (command.limited rows) result funded closing simulated

def crossingBars : List (MarketData ℚ) := minuteBars [10, 8, 12, 7, 13, 6, 14]

-- The tick engine fills on the last bar too, and closes that position with it.
theorem crossing_bars_traded :
    (runStaticBacktest spotCommand crossingBars).toOption.map (fun made => made.map (·.full.trades.length)) = some (some 2) ∧
      (runHistoricalTickBacktest spotCommand crossingBars).toOption.map (fun made => made.map (·.trades.length)) =
        some (some 3) := ⟨by decide +kernel, by decide +kernel⟩

theorem backtest_trades_booked_spot :
    ∃ static ticked, runStaticBacktest spotCommand crossingBars = .ok (some static) ∧
      runHistoricalTickBacktest spotCommand crossingBars = .ok (some ticked) ∧
      static.full.trades.length = 2 ∧ ticked.trades.length = 3 ∧
      TradeBook 1 static.full.trades ∧ TradeBook 1 ticked.trades := by
  obtain ⟨static, ticked, ranStatic, ranTicked⟩ := minute_bars_run [10, 8, 12, 7, 13, 6, 14] (by simp)
  obtain ⟨staticTraded, tickedTraded⟩ := crossing_bars_traded
  rw [show runStaticBacktest spotCommand crossingBars = _ from ranStatic] at staticTraded
  rw [show runHistoricalTickBacktest spotCommand crossingBars = _ from ranTicked] at tickedTraded
  have ordered : InTimeOrder crossingBars := ⟨by decide +kernel, by decide +kernel⟩
  have booked := backtest_trades_booked spotCommand spotExchange crossingBars (by with_unfolding_all rfl) ordered
  exact ⟨static, ticked, ranStatic, ranTicked, Option.some.inj (Option.some.inj staticTraded),
    Option.some.inj (Option.some.inj tickedTraded), booked.1 static ranStatic static.full (by simp),
    booked.2 ticked ranTicked⟩

end Sagittarius
