import BotConfig.Market
import BotConfig.Order

/-!
Which stoploss orders each exchange can hold on its own, by market segment.

An exchange and segment that are not listed are unknown; a listed empty row means that the
exchange holds no stoploss orders in that segment.
-/

namespace BotConfig.StoplossSupport

/-- One row of the table. -/
structure Row where
  exchange : String
  mode : TradingMode
  orderTypes : List OrderType

/-- The table. -/
def rows : List Row := [
  ⟨"binance", .spot, [.limit]⟩,
  ⟨"binance", .futures, [.limit, .market]⟩,
  ⟨"bybit", .spot, []⟩,
  ⟨"bybit", .futures, [.limit, .market]⟩,
  ⟨"gate", .spot, [.limit]⟩,
  ⟨"gate", .futures, [.limit, .market]⟩,
  ⟨"htx", .spot, [.limit]⟩,
  ⟨"hyperliquid", .futures, [.limit, .market]⟩,
  ⟨"kraken", .spot, [.limit, .market]⟩,
  ⟨"kucoin", .spot, [.limit, .market]⟩,
  ⟨"okx", .spot, [.limit]⟩,
  ⟨"okx", .futures, [.limit, .market]⟩]

/-- The lower case of a character as far as it is ASCII. Of all letters outside ASCII, only the
Kelvin sign has an ASCII lower case. -/
def lowerLetter (c : Char) : Char := if c = '\u212A' then 'k' else c.toLower

/-- The spelling of an exchange that the table is searched for. -/
def lowerName (exchange : String) : String :=
  String.ofList (exchange.toList.map lowerLetter)

/-- The order types that the exchange can hold, if the table knows. -/
def orderTypes? (exchange : String) (mode : TradingMode) : Option (List OrderType) :=
  (rows.find? fun row => row.exchange == lowerName exchange && row.mode == mode).map
    Row.orderTypes

/-- Whether the exchange is listed in any segment. -/
def isKnown (exchange : String) : Bool :=
  rows.any fun row => row.exchange == lowerName exchange

end BotConfig.StoplossSupport
