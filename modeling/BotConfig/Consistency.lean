import BotConfig.Log
import BotConfig.StoplossSupport

/-!
Rules that join several sections.

They are checked once the fields keep their own rules.  At the end the whitelist is narrowed to
the pairs that can be traded.
-/

namespace BotConfig.Config

/-- The credentials that live trading needs. -/
def checkCredentials (config : Config) : Traced Unit :=
  if config.dryRun then .report .simulated
  else if config.exchange.key.isEmpty then .fail (.missing [.key "exchange", .key "key"])
  else if config.exchange.secret.isEmpty then .fail (.missing [.key "exchange", .key "secret"])
  else return ()

/-- A stoploss on the exchange is of a type that the exchange can hold. -/
def checkStoploss (config : Config) : Traced Unit :=
  let exchange := config.exchange.name
  let mode := config.tradingMode
  let type := config.orderTypes.stoploss
  if !config.orderTypes.stoplossOnExchange then return ()
  else
    match StoplossSupport.orderTypes? exchange mode with
    | none =>
        .report (.stoplossUnverified exchange mode (StoplossSupport.isKnown exchange))
    | some [] => .fail (.conflicting (.noStoplossOnExchange exchange mode))
    | some supported =>
        if supported.contains type then return ()
        else .fail (.conflicting (.stoplossType exchange type mode supported))

/-- Market orders take their price from the side that they cross to. -/
def priceRules (config : Config) : List Rule := [
  ⟨config.orderTypes.entry != .market || config.entryPricing.side == .ask ||
      config.entryPricing.side == .other,
    .conflicting (.entrySide config.entryPricing.side)⟩,
  ⟨config.orderTypes.exit != .market || config.exitPricing.side == .bid ||
      config.exitPricing.side == .other,
    .conflicting (.exitSide config.exitPricing.side)⟩]

/-- Position sizing needs exit signals. -/
def edgeRules (config : Config) : List Rule := [
  ⟨!config.edge.any Edge.enabled || config.useExitSignal, .conflicting .edgeWithoutExitSignal⟩]

/-- End with the error of the first rule that does not hold. -/
def require (rules : List Rule) : Traced Unit :=
  match Rule.firstBroken? rules with
  | some error => .fail error
  | none => return ()

/-! ### The whitelist -/

/-- Read the rest of a blacklist, from a position on. -/
def patternsFrom : Nat → List String → Except ConfigError (List Pattern)
  | _, [] => .ok []
  | position, text :: rest =>
      match Pattern.ofText? text with
      | none => .error (.invalid (Exchange.blacklistPath position) (.pattern text))
      | some pattern => (pattern :: ·) <$> patternsFrom (position + 1) rest

/-- Why a pair is not traded, if it is not. -/
def objection? (blacklist : List Pattern) (currency : String) (pair : Pair) : Option Log.Entry :=
  if blacklist.any fun pattern => pattern.accepts pair.text then some (.blacklisted pair)
  else if pair.quote ≠ currency then some (.quotedOtherwise pair currency)
  else none

/-- Whether the chain starts with the pairs of the whitelist. -/
def hasStaticList (config : Config) : Bool :=
  config.pairlists.head?.any fun stage => stage.method == .staticPairList

/-- The path of the whitelist. -/
def whitelistPath : List Decode.Step := [.key "exchange", .key "pair_whitelist"]

/-- Take the pairs off the whitelist that are on the blacklist or not quoted in the stake
currency. A static list must have pairs before and after. -/
def filterWhitelist (config : Config) : Traced Config := do
  let pairs := config.exchange.whitelist
  if config.hasStaticList && pairs.isEmpty then Traced.fail (.missing whitelistPath)
  let blacklist ← Traced.ofExcept (patternsFrom 0 config.exchange.blacklist)
  let objection? := objection? blacklist config.stakeCurrency
  Traced.reportAll (pairs.filterMap objection?)
  let kept := pairs.filter fun pair => (objection? pair).isNone
  if config.hasStaticList && kept.isEmpty then
    Traced.fail (.invalid whitelistPath (.pairsLeft config.stakeCurrency))
  return { config with exchange := { config.exchange with whitelist := kept } }

/-- A server that others can reach, or whose tokens are signed with a key of the moment, is
reported. -/
def remoteAccess (config : Config) : List Log.Entry :=
  match config.apiServer with
  | none => []
  | some server =>
      if server.enabled then
        (if server.isExposed then [.exposed server] else []) ++
          (if server.tokenKey.isNone then [.noTokenKey] else [])
      else []

/-- Check the rules that join sections, and narrow the whitelist. -/
def consistent (config : Config) : Traced Config := do
  config.checkCredentials
  config.checkStoploss
  require config.priceRules
  require config.edgeRules
  let config ← config.filterWhitelist
  Traced.reportAll config.remoteAccess
  return config

end BotConfig.Config
