import Sagittarius.Backtest.Drawdown
import Sagittarius.Backtest.EngineAgreement
import Sagittarius.Backtest.NoLookAhead
import Sagittarius.Backtest.ProgressThrottle
import Sagittarius.Backtest.ReplayEvents
import Sagittarius.Backtest.ReplayStop
import Sagittarius.Backtest.RiskSizing
import Sagittarius.Backtest.RunConfigBuilder
import Sagittarius.Backtest.Solvency
import Sagittarius.Backtest.StopFills
import Sagittarius.Backtest.StopProtection
import Sagittarius.Backtest.TickEvaluations
import Sagittarius.Backtest.TickFills
import Sagittarius.Backtest.TickPartition
import Sagittarius.Backtest.TradeBook
import Sagittarius.Backtest.TradeStreaks
import Sagittarius.Backtest.TrailingStop
import Sagittarius.Domain.BatchIndicators
import Sagittarius.Domain.IndicatorHistory
import Sagittarius.Domain.Indicators
import Sagittarius.Domain.MarketData
import Sagittarius.Domain.Oscillators
import Sagittarius.Domain.ScriptInputs
import Sagittarius.Domain.Series
import Sagittarius.Domain.SeriesHistory
import Sagittarius.Library.Attempts
import Sagittarius.Library.Bisection
import Sagittarius.Library.Calendar
import Sagittarius.Library.Confirmation
import Sagittarius.Library.DateText
import Sagittarius.Library.Decimals
import Sagittarius.Library.Dicts
import Sagittarius.Library.Doubles
import Sagittarius.Library.Groups
import Sagittarius.Library.History
import Sagittarius.Library.JsonValues
import Sagittarius.Library.KeyedRows
import Sagittarius.Library.Lifecycle
import Sagittarius.Library.Machine
import Sagittarius.Library.Mirror
import Sagittarius.Library.Outputs
import Sagittarius.Library.Peaks
import Sagittarius.Library.Pyramid
import Sagittarius.Library.Python
import Sagittarius.Library.Resume
import Sagittarius.Library.Smoothing
import Sagittarius.Library.Spacing
import Sagittarius.Library.Stream
import Sagittarius.Library.Turns
import Sagittarius.Library.Versioned
import Sagittarius.Live.Breakouts
import Sagittarius.Live.ConfirmedTrend
import Sagittarius.Live.CrossSignals
import Sagittarius.Live.FormingBars
import Sagittarius.Live.LiveStrategyConfigStore
import Sagittarius.Live.LiveStrategySession
import Sagittarius.Live.PositionSide
import Sagittarius.Live.StackedTrend
import Sagittarius.Live.StrategyArmingCoordinator
import Sagittarius.Live.StrategyEngine
import Sagittarius.Live.TouchExit
import Sagittarius.Market.BinanceWebsocketService
import Sagittarius.Market.BulkSync
import Sagittarius.Market.CalendarCoverage
import Sagittarius.Market.ConcurrentSyncs
import Sagittarius.Market.CoverageTimeline
import Sagittarius.Market.DataGaps
import Sagittarius.Market.HistoricalKlines
import Sagittarius.Market.KlineDownload
import Sagittarius.Market.KlineRowMapper
import Sagittarius.Market.KlineStream
import Sagittarius.Market.OpenTimeGrid
import Sagittarius.Market.RangeCoverage
import Sagittarius.Market.ShardedRepository
import Sagittarius.Market.SyncMarketData
import Sagittarius.Screen.ActiveScript
import Sagittarius.Screen.BacktestLifecycle
import Sagittarius.Screen.BacktestPresenter
import Sagittarius.Screen.BacktestScreen
import Sagittarius.Screen.BacktestSteps
import Sagittarius.Screen.CandlestickItem
import Sagittarius.Screen.ChartHistory
import Sagittarius.Screen.ChartLod
import Sagittarius.Screen.ChartSteps
import Sagittarius.Screen.CoherentHistory
import Sagittarius.Screen.ConfigManagerStateStore
import Sagittarius.Screen.DisplayedSwitch
import Sagittarius.Screen.GapCoordinator
import Sagittarius.Screen.InMemoryStateStore
import Sagittarius.Screen.IndicatorScriptRunner
import Sagittarius.Screen.LiveOrderBook
import Sagittarius.Screen.MarkerLayer
import Sagittarius.Screen.RegionLayer
import Sagittarius.Screen.RepairedGaps
import Sagittarius.Screen.StrategyTrendZones
import Sagittarius.Screen.TradingPresenter
import Sagittarius.Screen.UiStateCoordinator
import Sagittarius.Screen.UiStateSession
import Sagittarius.Screen.VolumeItem
import Sagittarius.Strategies.Context
import Sagittarius.Strategies.Crossing
import Sagittarius.Strategies.EmaTrendPullback
import Sagittarius.Strategies.Registry
import Sagittarius.Strategies.SupportResistance
import Sagittarius.Strategies.Tentative
import Sagittarius.Strategies.TrendConfirmation
import Sagittarius.Strategies.VolumeSpikeFlow
import Sagittarius.Trading.AcceptedOrders
import Sagittarius.Trading.ArmedStrategy
import Sagittarius.Trading.EmergencyStop
import Sagittarius.Trading.EnableWindow
import Sagittarius.Trading.ExecuteOrder
import Sagittarius.Trading.ExitQuantity
import Sagittarius.Trading.FuturesParams
import Sagittarius.Trading.FuturesPayloads
import Sagittarius.Trading.LiveTradingCoordinator
import Sagittarius.Trading.OrderEcho
import Sagittarius.Trading.OrderNormalisation
import Sagittarius.Trading.OrderRequest
import Sagittarius.Trading.OrderSizing
import Sagittarius.Trading.PlainNumerals
import Sagittarius.Trading.PositionBelief
import Sagittarius.Trading.PositionDecoding
import Sagittarius.Trading.PositionLimit
import Sagittarius.Trading.SessionLimits
import Sagittarius.Trading.StrategyTrading
import Sagittarius.Trading.StreamSwitch
import Sagittarius.Trading.SubmissionGuard
import Sagittarius.Trading.SupersededUserData
import Sagittarius.Trading.TradingLimitPolicy
import Sagittarius.Trading.TradingSessionState
import Sagittarius.Trading.TradingSwitch
import Sagittarius.Trading.TradingSystem
import Sagittarius.Trading.UserDataCoroutines
import Sagittarius.Trading.UserDataEvents
import Sagittarius.Trading.UserDataStream
