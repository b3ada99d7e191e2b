import BotConfig.Decode
import BotConfig.Error

/-!
How prices of orders are found.
-/

namespace BotConfig

/-- Read a side of the order book. -/
def PriceSide.decode : Decode.Decoder PriceSide :=
  Decode.choice (PriceSide.all.map fun side => ([side.name], side))

/-- The check of the depth of the market before an entry. -/
structure MarketDepth where
  enabled : Bool
  /-- The least ratio of bid volume to ask volume. -/
  bidsToAsks : Binary64
deriving DecidableEq

namespace MarketDepth

/-- No check. -/
def standard : MarketDepth := ⟨false, .zero false⟩

instance : Inhabited MarketDepth := ⟨standard⟩

/-- The fields of the section. -/
def record : Decode.Record MarketDepth :=
  MarketDepth.mk
    <$> .defaulted "enabled" Decode.boolean standard.enabled
    <*> .defaulted "bids_to_ask_delta" Decode.real standard.bidsToAsks

/-- Read the section. -/
def decode : Decode.Decoder MarketDepth := record.decoder "DepthOfMarket"

/-- Write the section. -/
def encode (depth : MarketDepth) : Value := .mapping [
  ("enabled", .boolean depth.enabled),
  ("bids_to_ask_delta", Encode.real depth.bidsToAsks)]

/-- Whether two sections are equal. -/
def agrees (a b : MarketDepth) : Bool :=
  a.enabled == b.enabled && a.bidsToAsks.agrees b.bidsToAsks

end MarketDepth

/-- How the price of orders in one direction is found. -/
structure Pricing where
  side : PriceSide
  useOrderBook : Bool
  /-- The level of the order book, counted from one. -/
  orderBookTop : Nat
  /-- The weight of the last price; zero takes the price of the side alone. -/
  lastBalance : Binary64
  depth : MarketDepth
deriving DecidableEq

namespace Pricing

/-- The first level of the order book. -/
def standard : Pricing := ⟨.same, true, 1, .zero false, .standard⟩

instance : Inhabited Pricing := ⟨standard⟩

/-- The fields of the section. -/
def record : Decode.Record Pricing :=
  Pricing.mk
    <$> .defaulted "price_side" PriceSide.decode standard.side
    <*> .defaulted "use_order_book" Decode.boolean standard.useOrderBook
    <*> .defaulted "order_book_top" (Decode.unsigned 32) standard.orderBookTop
    <*> .defaulted "price_last_balance" Decode.real standard.lastBalance
    <*> .defaulted "check_depth_of_market" MarketDepth.decode standard.depth

/-- Read the section. -/
def decode : Decode.Decoder Pricing := record.decoder "PricingConfig"

/-- Write the section. -/
def encode (pricing : Pricing) : Value := .mapping [
  ("price_side", .text pricing.side.name),
  ("use_order_book", .boolean pricing.useOrderBook),
  ("order_book_top", Encode.natural pricing.orderBookTop),
  ("price_last_balance", Encode.real pricing.lastBalance),
  ("check_depth_of_market", pricing.depth.encode)]

/-- Whether two sections are equal. -/
def agrees (a b : Pricing) : Bool :=
  a.side == b.side && a.useOrderBook == b.useOrderBook && a.orderBookTop == b.orderBookTop &&
    a.lastBalance.agrees b.lastBalance && a.depth.agrees b.depth

/-- The level is between 1 and 50, the weight between zero and one, and the ratio of volumes is
not below zero. -/
def rules (name : String) (pricing : Pricing) : List Rule := [
  ⟨1 ≤ pricing.orderBookTop && pricing.orderBookTop ≤ 50,
    .invalid [.key name, .key "order_book_top"] (.between 1 50)⟩,
  ⟨pricing.lastBalance.isFraction,
    .invalid [.key name, .key "price_last_balance"] .fromZeroToOne⟩,
  ⟨!pricing.depth.bidsToAsks.isBelowZero,
    .invalid [.key name, .key "check_depth_of_market", .key "bids_to_ask_delta"]
      .notBelowZero⟩]

end Pricing

end BotConfig
