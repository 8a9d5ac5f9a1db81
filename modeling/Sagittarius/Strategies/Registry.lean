import Sagittarius.Strategies.Crossing
import Sagittarius.Strategies.EmaTrendPullback
import Sagittarius.Strategies.SupportResistance
import Sagittarius.Strategies.VolumeSpikeFlow

set_option autoImplicit false

namespace Sagittarius

variable {α : Type} [PyFloat α]

inductive Strategy (α : Type) [PyFloat α]
  | emaCrossover (strategy : EmaCrossoverStrategy α)
  | multiEmaTrendFollower (strategy : MultiEmaTrendFollowerStrategy α)
  | supportResistance (strategy : SupportResistanceStrategy α)
  | emaTrendConfirmPullback (strategy : EmaTrendPullbackStrategy α)
  | longTermTrendZone (strategy : LongTermTrendZoneStrategy α)
  | volumeSpikeFlow (strategy : VolumeSpikeFlowStrategy α)

inductive StrategyChoice (α : Type) [PyFloat α]
  | emaCrossover (inputs : EmaCrossoverInputs)
  | multiEmaTrendFollower (inputs : MultiEmaTrendFollowerInputs)
  | supportResistance (inputs : SupportResistanceInputs α)
  | emaTrendConfirmPullback (inputs : EmaTrendPullbackInputs α)
  | longTermTrendZone (inputs : LongTermTrendZoneInputs)
  | volumeSpikeFlow (inputs : VolumeSpikeFlowInputs α)

def StrategyChoice.key : StrategyChoice α → String
  | .emaCrossover _ => "ema_crossover"
  | .multiEmaTrendFollower _ => "multi_ema_trend_follower"
  | .supportResistance _ => "support_resistance"
  | .emaTrendConfirmPullback _ => "ema_trend_confirm_pullback"
  | .longTermTrendZone _ => "long_term_trend_zone"
  | .volumeSpikeFlow _ => "volume_spike_flow"

def registeredKeys : List String :=
  ["ema_crossover", "multi_ema_trend_follower", "support_resistance", "ema_trend_confirm_pullback",
    "long_term_trend_zone", "volume_spike_flow"]

theorem choice_key_registered (choice : StrategyChoice α) : choice.key ∈ registeredKeys := by
  cases choice <;> simp [StrategyChoice.key, registeredKeys]

def StrategyChoice.create : StrategyChoice α → Strategy α
  | .emaCrossover inputs => .emaCrossover (.setup inputs)
  | .multiEmaTrendFollower inputs => .multiEmaTrendFollower (.setup inputs)
  | .supportResistance inputs => .supportResistance (.setup inputs)
  | .emaTrendConfirmPullback inputs => .emaTrendConfirmPullback (.setup inputs)
  | .longTermTrendZone inputs => .longTermTrendZone (.setup inputs)
  | .volumeSpikeFlow inputs => .volumeSpikeFlow (.setup inputs)

def Decision.signal (decision : Decision α) (candle : MarketData α) : Signal α where
  symbol := candle.symbol
  action := decision.action
  reason := decision.reason
  price := candle.closePrice
  time := candle.closeTime
  metadata := decision.metadata

namespace Strategy

def buildIndicators : Strategy α → List (String × Indicator α)
  | .emaCrossover strategy => strategy.buildIndicators
  | .multiEmaTrendFollower strategy => strategy.buildIndicators
  | .supportResistance strategy => strategy.buildIndicators
  | .emaTrendConfirmPullback strategy => strategy.buildIndicators
  | .longTermTrendZone strategy => strategy.buildIndicators
  | .volumeSpikeFlow strategy => strategy.buildIndicators

def decide (strategy : Strategy α) (context : StrategyContext α) : Except PyError (Decision α × Strategy α) :=
  match strategy with
  | .emaCrossover strategy => Prod.map id .emaCrossover <$> strategy.decide context
  | .multiEmaTrendFollower strategy => Prod.map id .multiEmaTrendFollower <$> strategy.decide context
  | .supportResistance strategy => Prod.map id .supportResistance <$> strategy.decide context
  | .emaTrendConfirmPullback strategy => Prod.map id .emaTrendConfirmPullback <$> strategy.decide context
  | .longTermTrendZone strategy => Prod.map id .longTermTrendZone <$> strategy.decide context
  | .volumeSpikeFlow strategy => Prod.map id .volumeSpikeFlow <$> strategy.decide context

-- Every other class inherits the default.
def classifyTrendZone (strategy : Strategy α) (context : StrategyContext α) : Except PyError (Option TrendZone) :=
  match strategy with
  | .longTermTrendZone strategy => strategy.classifyTrendZone context
  | _ => .ok none

def evaluate (strategy : Strategy α) (context : StrategyContext α) : Except PyError (Signal α × Strategy α) := do
  let (decision, next) ← strategy.decide context
  return (decision.signal context.candle, next)

end Strategy

end Sagittarius
