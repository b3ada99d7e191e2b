import BotConfig.Decode
import BotConfig.Document
import BotConfig.Market
import BotConfig.Order
import BotConfig.Pairlist
import BotConfig.Value.Printer

/-!
Why a configuration is refused.

Every error is fatal: a bot never runs with a configuration that is valid in part.
-/

namespace BotConfig

/-- Why a file cannot be read. -/
inductive ReadFault where
  | notFound
  | notDirectory
  | isDirectory
  | nameTooLong
  | nulInName
  | denied
  | notText
deriving DecidableEq

/-- The wording of a fault. -/
def ReadFault.message : ReadFault → String
  | .notFound => "No such file or directory (os error 2)"
  | .notDirectory => "Not a directory (os error 20)"
  | .isDirectory => "Is a directory (os error 21)"
  | .nameTooLong => "File name too long (os error 36)"
  | .denied => "Permission denied (os error 13)"
  | .nulInName => "file name contained an unexpected NUL byte"
  | .notText => "stream did not contain valid UTF-8"

/-- What a value must be and is not. -/
inductive Constraint where
  | aboveZero
  | notBelowZero
  | notZero
  | atMostOneAboveZero
  | fromZeroToOne
  | between (least most : Nat)
  | atLeast (least : Nat)
  | stakeAboveZero (found : Decimal)
  | wholeAboveZero (found : Value)
  | stepsTowardsMaximum
  | distinctPair (pair : Pair) (first : Nat)
  | pattern (text : String)
  | pairsLeft (currency : String)
  | leads (method : PairlistMethod)
  | follows (method : PairlistMethod)
  | filePath
  | filePaths
  | shallowInclude (limit : Nat) (document : String)
  | decodes (fault : Decode.Fault)

/-- The wording of a constraint that does not hold. About a pattern it ends after the pattern: the
explanation that the matching library adds is left out. -/
def Constraint.message : Constraint → String
  | .aboveZero => "must be > 0"
  | .notBelowZero => "must be >= 0"
  | .notZero => "must not be 0"
  | .atMostOneAboveZero => "must be in (0, 1]"
  | .fromZeroToOne => "must be in [0, 1]"
  | .between least most => "must be between " ++ toString least ++ " and " ++ toString most
  | .atLeast least => "must be >= " ++ toString least
  | .stakeAboveZero found =>
      "must be > 0 or " ++ Text.quoted Decode.unlimitedSpelling ++ ", found " ++ found.text
  | .wholeAboveZero found => "must be an integer > 0, found " ++ found.compact
  | .stepsTowardsMaximum => "must step from stoploss_range_min towards stoploss_range_max"
  | .distinctPair pair first =>
      "duplicate pair \"" ++ pair.text ++ "\", already listed at index " ++ toString first
  | .pattern text => "invalid pair pattern " ++ Text.quoted text
  | .pairsLeft currency =>
      "no pairs left after removing blacklisted pairs and pairs not quoted in " ++ currency
  | .leads method => method.name ++ " filters pairs and cannot be the first handler"
  | .follows method => method.name ++ " can only be used as the first handler"
  | .filePath => "expected a file path"
  | .filePaths => "expected a list of file paths"
  | .shallowInclude limit document =>
      "includes nested deeper than " ++ toString limit ++ " levels at " ++ document ++
        ", possible include loop"
  | .decodes fault => fault.message

/-- Why two options do not go together. -/
inductive Clash where
  | noStoplossOnExchange (exchange : String) (mode : TradingMode)
  | stoplossType (exchange : String) (type : OrderType) (mode : TradingMode)
      (supported : List OrderType)
  | entrySide (found : PriceSide)
  | exitSide (found : PriceSide)
  | edgeWithoutExitSignal

/-- The wording of a clash. -/
def Clash.message : Clash → String
  | .noStoplossOnExchange exchange mode =>
      exchange ++ " does not support stoploss on exchange in " ++ mode.name ++ " mode"
  | .stoplossType exchange type mode supported =>
      exchange ++ " cannot place " ++ type.name ++ " stoploss orders on exchange in " ++
        mode.name ++ " mode (supported: " ++
        String.intercalate ", " (supported.map OrderType.name) ++ ")"
  | .entrySide found =>
      "market entry orders require price_side \"other\" or \"ask\", found " ++
        Text.quoted found.name
  | .exitSide found =>
      "market exit orders require price_side \"other\" or \"bid\", found " ++
        Text.quoted found.name
  | .edgeWithoutExitSignal => "edge requires exit signals, otherwise positions are never closed"

/-- The two options of a clash. -/
def Clash.options : Clash → List Decode.Step × List Decode.Step
  | .noStoplossOnExchange .. =>
      ([.key "order_types", .key "stoploss_on_exchange"], [.key "exchange", .key "name"])
  | .stoplossType .. =>
      ([.key "order_types", .key "stoploss_on_exchange"], [.key "order_types", .key "stoploss"])
  | .entrySide _ => ([.key "order_types", .key "entry"], [.key "entry_pricing", .key "price_side"])
  | .exitSide _ => ([.key "order_types", .key "exit"], [.key "exit_pricing", .key "price_side"])
  | .edgeWithoutExitSignal => ([.key "edge", .key "enabled"], [.key "use_exit_signal"])

/-- Why a configuration is refused. -/
inductive ConfigError where
  | unreadable (path : String) (fault : ReadFault)
  | malformed (document : String) (fault : Document.Fault)
  | missing (path : List Decode.Step)
  | invalid (path : List Decode.Step) (constraint : Constraint)
  | conflicting (clash : Clash)

namespace ConfigError

/-- The wording of an error. -/
def message : ConfigError → String
  | .unreadable path fault => "failed to read config file " ++ path ++ ": " ++ fault.message
  | .malformed document fault =>
      "malformed document " ++ document ++ " at line " ++ toString fault.place.1 ++ ", column " ++
        toString fault.place.2 ++ ": " ++ fault.message
  | .missing path => "missing required field `" ++ Decode.pathText path ++ "`"
  | .invalid path constraint =>
      "invalid value for `" ++ Decode.pathText path ++ "`: " ++ constraint.message
  | .conflicting clash =>
      "conflicting options `" ++ Decode.pathText clash.options.1 ++ "` and `" ++
        Decode.pathText clash.options.2 ++ "`: " ++ clash.message

/-- The field that an error is about, if it is about one. -/
def field? : ConfigError → Option (List Decode.Step)
  | .missing path => some path
  | .invalid path _ => some path
  | .conflicting clash => some clash.options.1
  | .unreadable .. => none
  | .malformed .. => none

/-- The error that a failure to decode amounts to: a missing field is missing at its own path. -/
def ofFailure (failure : Decode.Failure) : ConfigError :=
  match failure.fault with
  | .missingField name => .missing (failure.path ++ [.key name])
  | fault => .invalid failure.path (.decodes fault)

end ConfigError

/-- One rule about a configuration, and the error of a configuration that breaks it. -/
structure Rule where
  holds : Bool
  otherwise : ConfigError

/-- The error of the first rule that does not hold. -/
def Rule.firstBroken? (rules : List Rule) : Option ConfigError :=
  (rules.find? fun rule => !rule.holds).map Rule.otherwise

end BotConfig
