import Sagittarius.Backtest.PaperExchange

set_option autoImplicit false

namespace Sagittarius

def PositionSide.entryAction : PositionSide → SignalAction
  | .long => .buy
  | .short => .short

def PositionSide.exitAction : PositionSide → SignalAction
  | .long => .sell
  | .short => .cover

variable {α : Type} [PyFloat α]

namespace PaperExchange

theorem perform_position_origin (exchange : PaperExchange α) (call : ExchangeCall α) (position : OpenPosition α)
    (held : position ∈ (exchange.perform call).positions) :
    position ∈ exchange.positions ∨ exchange.accepts call = some position := by
  rcases exchange.perform_cases call with ⟨opening, _, _, _, _, _, accepted, _, performed⟩ | ⟨_, kept, split, performed⟩
  · rw [performed] at held
    rcases List.mem_append.mp held with earlier | new
    · exact .inl earlier
    · exact .inr (List.mem_singleton.mp new ▸ accepted)
  · rw [performed] at held
    exact .inl (split.subset (List.mem_append_right _ held))

theorem closing_held (exchange : PaperExchange α) (call : ExchangeCall α) (closing : Closing α)
    (closes : closing ∈ exchange.closings call) : closing.1 ∈ exchange.positions := by
  rcases exchange.perform_cases call with ⟨_, _, _, _, _, _, _, nothing, _⟩ | ⟨_, _, split, _⟩
  · rw [nothing] at closes
    cases closes
  · exact split.subset (List.mem_append_left _ (List.mem_map_of_mem closes))

theorem perform_trade_origin (exchange : PaperExchange α) (call : ExchangeCall α) (trade : Trade α)
    (recorded : trade ∈ (exchange.perform call).trades) :
    trade ∈ exchange.trades ∨
      ∃ closing ∈ exchange.closings call, closing.1 ∈ exchange.positions ∧
        trade = exchange.closingTrade call.time closing := by
  rw [perform_trades] at recorded
  rcases List.mem_append.mp recorded with earlier | new
  · exact .inl earlier
  · obtain ⟨closing, closes, rfl⟩ := List.mem_map.mp new
    exact .inr ⟨closing, closes, exchange.closing_held call closing closes, rfl⟩

theorem accepts_fill (exchange : PaperExchange α) (signal : Signal α) (price : α) (time : ℤ) (position : OpenPosition α)
    (accepted : exchange.accepts (.fill signal price time) = some position) :
    signal.action = position.side.entryAction ∧
      position.record = {
        side := position.side
        entryTime := time
        entryPrice := exchange.entryEffectivePrice position.side price
        quantity := position.quantity
        entryReason := signal.reason
        metadata := signal.metadata } := by
  have recorded : ∀ side, signal.action = side.entryAction →
      exchange.entry side price time signal.reason signal.metadata = some position →
      signal.action = position.side.entryAction ∧ position.record = ⟨position.side, time,
        exchange.entryEffectivePrice position.side price, position.quantity, signal.reason, signal.metadata⟩ := by
    intro side acts entry
    have entered := entry_entered exchange side price time signal.reason signal.metadata position entry
    rw [OpenPosition.record, entered.priced, entered.timed, entered.reasoned, entered.described, entered.sided]
    exact ⟨acts, rfl⟩
  cases action : signal.action with
  | buy => exact action ▸ recorded .long action (by simpa [accepts, action] using accepted)
  | short => exact action ▸ recorded .short action (by simpa [accepts, action] using accepted)
  | sell => simp [accepts, action] at accepted
  | cover => simp [accepts, action] at accepted
  | hold => simp [accepts, action] at accepted

theorem side_closing_mem (exchange : PaperExchange α) (side : PositionSide) (price : α) (exitReason : ExitReason)
    (closing : Closing α) (closes : closing ∈ exchange.sideClosings side price exitReason) :
    closing.1.side = side ∧ closing.2 = (exchange.exitEffectivePrice closing.1.side price, exitReason) := by
  rw [side_closings_map] at closes
  obtain ⟨position, member, rfl⟩ := List.mem_map.mp closes
  exact ⟨by simpa using (List.mem_filter.mp member).2, rfl⟩

theorem closings_fill (exchange : PaperExchange α) (signal : Signal α) (price : α) (time : ℤ) (closing : Closing α)
    (closes : closing ∈ exchange.closings (.fill signal price time)) :
    signal.action = closing.1.side.exitAction ∧
      closing.2 = (exchange.exitEffectivePrice closing.1.side price, .strategySignal) := by
  cases action : signal.action with
  | sell =>
      simp only [closings, action] at closes
      obtain ⟨sided, exits⟩ := exchange.side_closing_mem .long price .strategySignal closing closes
      exact ⟨by rw [sided]; rfl, exits⟩
  | cover =>
      simp only [closings, action] at closes
      obtain ⟨sided, exits⟩ := exchange.side_closing_mem .short price .strategySignal closing closes
      exact ⟨by rw [sided]; rfl, exits⟩
  | buy => simp [closings, action] at closes
  | short => simp [closings, action] at closes
  | hold => simp [closings, action] at closes

theorem closings_stops (exchange : PaperExchange α) (high low : α) (time : ℤ) (closing : Closing α)
    (closes : closing ∈ exchange.closings (.checkIntrabarStops high low time)) :
    closing.1.intrabarExit high low = some closing.2 ∧
      (closing.2.2 = .stopLoss ∨ closing.2.2 = .takeProfit) := by
  simp only [closings, evaluateIntrabarStops, List.mem_filterMap, Option.map_eq_some_iff] at closes
  obtain ⟨position, _, exit, exits, rfl⟩ := closes
  refine ⟨exits, ?_⟩
  unfold OpenPosition.intrabarExit at exits
  split at exits
  · cases exits
    exact .inl rfl
  · obtain ⟨target, _, rfl⟩ := Option.map_eq_some_iff.mp exits
    exact .inr rfl

theorem closings_force (exchange : PaperExchange α) (price : α) (time : ℤ) (closing : Closing α)
    (closes : closing ∈ exchange.closings (.forceClose price time)) :
    closing.2 = (exchange.exitEffectivePrice closing.1.side price, .endOfBacktest) := by
  rcases List.mem_append.mp closes with long | short
  · exact (exchange.side_closing_mem .long price .endOfBacktest closing long).2
  · exact (exchange.side_closing_mem .short price .endOfBacktest closing short).2

end PaperExchange

end Sagittarius
