/-!
Order styles: how an order is executed and how long it stays active.
-/

namespace BotConfig

/-- The execution style of an order. -/
inductive OrderType where
  | limit
  | market
deriving DecidableEq, Inhabited

namespace OrderType

/-- The styles in the order messages list them. -/
def all : List OrderType := [.limit, .market]

/-- The spelling in documents. -/
def name : OrderType → String
  | .limit => "limit"
  | .market => "market"

end OrderType

/-- How long an order stays active on the exchange. -/
inductive TimeInForce where
  | goodTillCancelled
  | fillOrKill
  | immediateOrCancel
  | postOnly
deriving DecidableEq, Inhabited

namespace TimeInForce

/-- The codes in the order messages list them. -/
def all : List TimeInForce := [.goodTillCancelled, .fillOrKill, .immediateOrCancel, .postOnly]

/-- The code that documents are written with. -/
def name : TimeInForce → String
  | .goodTillCancelled => "GTC"
  | .fillOrKill => "FOK"
  | .immediateOrCancel => "IOC"
  | .postOnly => "PO"

/-- The lower-case code that documents may use as well. -/
def lowerCode : TimeInForce → String
  | .goodTillCancelled => "gtc"
  | .fillOrKill => "fok"
  | .immediateOrCancel => "ioc"
  | .postOnly => "po"

end TimeInForce

/-- The price that triggers a stoploss on the exchange. -/
inductive StoplossPriceType where
  | last
  | mark
  | index
deriving DecidableEq, Inhabited

namespace StoplossPriceType

/-- The prices in the order messages list them. -/
def all : List StoplossPriceType := [.last, .mark, .index]

/-- The spelling in documents. -/
def name : StoplossPriceType → String
  | .last => "last"
  | .mark => "mark"
  | .index => "index"

end StoplossPriceType

/-- A side of the order book. -/
inductive PriceSide where
  | bid
  | ask
  /-- The side of the order's own direction. -/
  | same
  /-- The opposite side. -/
  | other
deriving DecidableEq, Inhabited

namespace PriceSide

/-- The sides in the order messages list them. -/
def all : List PriceSide := [.bid, .ask, .same, .other]

/-- The spelling in documents. -/
def name : PriceSide → String
  | .bid => "bid"
  | .ask => "ask"
  | .same => "same"
  | .other => "other"

end PriceSide

end BotConfig
