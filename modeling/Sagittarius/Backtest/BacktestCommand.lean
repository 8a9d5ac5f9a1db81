import Sagittarius.Backtest.BacktestResult
import Sagittarius.Domain.TimeFrame
import Sagittarius.Live.StrategyEngine

set_option autoImplicit false

namespace Sagittarius

-- What stops a simulation short of a result. The poll of
-- `cancellation_requested` is numbered by the bars processed before it.
inductive SimulationStop
  | cancelled (phase : String) (processedBars totalBars : ℕ)
  | raised (error : PyError)
  -- ValueError of `PaperExchange.__init__`
  | accountRefused
  -- RuntimeError of a stream that yields nothing
  | emptyStream (phase : String) (expected : ℕ)
deriving DecidableEq

-- The fields that a static and a tick backtest share.
structure BacktestCommand (α : Type) [PyFloat α] where
  symbol : String
  interval : TimeFrame
  strategy : StrategyChoice α
  initialBalance : α
  feePercent : α
  positionSizing : { sizing : PositionSizing α // sizing.Accepted }
  brokerConfig : Option (BrokerSimulationConfig α) := none
  limit : Option ℕ := none
  cancellationRequested : ℕ → Bool := fun _ => false

variable {α : Type} [PyFloat α]

def BacktestCommand.exchange (command : BacktestCommand α) : Option (PaperExchange α) :=
  PaperExchange.create command.symbol command.initialBalance command.feePercent command.positionSizing
    command.brokerConfig

def BacktestCommand.limited (command : BacktestCommand α) (rows : List (MarketData α)) : List (MarketData α) :=
  command.limit.elim rows rows.take

def BacktestCommand.poll {σ : Type} (command : BacktestCommand α) (step : σ → MarketData α → Except PyError σ)
    (phase : String) (total : ℕ) : ℕ → σ → List (MarketData α) → Except SimulationStop σ
  | _, run, [] => .ok run
  | processed, run, candle :: rest =>
      if command.cancellationRequested processed then .error (.cancelled phase processed total)
      else
        match step run candle with
        | .error raised => .error (.raised raised)
        | .ok next => command.poll step phase total (processed + 1) next rest

namespace BacktestCommand

variable {σ : Type} (command : BacktestCommand α) (step : σ → MarketData α → Except PyError σ)

theorem poll_folds (phase : String) (total processed : ℕ) (run final : σ) (klines : List (MarketData α))
    (polled : command.poll step phase total processed run klines = .ok final) :
    klines.foldlM step run = .ok final := by
  induction klines generalizing processed run with
  | nil =>
      cases polled
      rfl
  | cons candle rest ih =>
      simp only [poll] at polled
      split at polled
      · cases polled
      · cases stepped : step run candle with
        | error raised =>
            rw [stepped] at polled
            cases polled
        | ok next =>
            rw [stepped] at polled
            exact (Streaming.fold_cons step run final candle rest).mpr ⟨next, stepped, ih (processed + 1) next polled⟩

theorem poll_uncancelled (phase : String) (total processed : ℕ) (run final : σ) (klines : List (MarketData α))
    (uncancelled : ∀ processed, command.cancellationRequested processed = false)
    (folded : klines.foldlM step run = .ok final) :
    command.poll step phase total processed run klines = .ok final := by
  induction klines generalizing processed run with
  | nil =>
      cases folded
      rfl
  | cons candle rest ih =>
      obtain ⟨next, stepped, continued⟩ := (Streaming.fold_cons step run final candle rest).mp folded
      simp only [poll, uncancelled, Bool.false_eq_true, if_false, stepped]
      exact ih (processed + 1) next continued

end BacktestCommand

end Sagittarius
