import Sagittarius.Library.Python

set_option autoImplicit false

namespace Sagittarius

-- Times are microseconds since the epoch.
structure MarketData (α : Type) where
  symbol : String
  interval : String
  openTime : ℤ
  openPrice : α
  highPrice : α
  lowPrice : α
  closePrice : α
  volume : α
  closeTime : ℤ
  quoteAssetVolume : α
  numberOfTrades : ℤ
  takerBuyBaseAssetVolume : α
  takerBuyQuoteAssetVolume : α
  isClosed : Bool := true
deriving DecidableEq

inductive SignalAction
  | buy
  | sell
  | hold
  | short
  | cover
deriving DecidableEq

inductive PositionSide
  | long
  | short
deriving DecidableEq

inductive MetadataValue (α : Type)
  | number (value : α)
  | flag (value : Bool)
deriving DecidableEq

structure Signal (α : Type) where
  symbol : String
  action : SignalAction
  reason : String
  price : α
  time : ℤ
  metadata : List (String × MetadataValue α) := []
deriving DecidableEq

end Sagittarius
