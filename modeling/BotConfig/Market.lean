/-!
Market segments and the collateral of leveraged positions.
-/

namespace BotConfig

/-- The market segment that a bot trades in. -/
inductive TradingMode where
  | spot
  | margin
  | futures
deriving DecidableEq, Inhabited

namespace TradingMode

/-- The modes in the order messages list them. -/
def all : List TradingMode := [.spot, .margin, .futures]

/-- The spelling in documents. -/
def name : TradingMode → String
  | .spot => "spot"
  | .margin => "margin"
  | .futures => "futures"

end TradingMode

/-- How collateral is shared between leveraged positions. -/
inductive MarginMode where
  | cross
  | isolated
deriving DecidableEq, Inhabited

namespace MarginMode

/-- The modes in the order messages list them. -/
def all : List MarginMode := [.cross, .isolated]

/-- The spelling in documents. -/
def name : MarginMode → String
  | .cross => "cross"
  | .isolated => "isolated"

end MarginMode

end BotConfig
