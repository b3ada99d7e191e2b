import BotConfig.Config
import BotConfig.Override

/-!
The log: what loading, checking and reloading report.
-/

namespace BotConfig.Log

/-- How much an entry matters. -/
inductive Level where
  | error
  | warn
  | info
  | debug
  | trace
deriving DecidableEq, Inhabited

namespace Level

/-- The name of a level. -/
def name : Level → String
  | .error => "ERROR"
  | .warn => "WARN"
  | .info => "INFO"
  | .debug => "DEBUG"
  | .trace => "TRACE"

/-- How many levels a level lets through. -/
def rank : Level → Nat
  | .error => 1
  | .warn => 2
  | .info => 3
  | .debug => 4
  | .trace => 5

end Level

/-- The part of the program that reports. -/
inductive Origin where
  | program
  | loading
  | checking
  | handling
deriving DecidableEq

/-- The name of a part in log lines. -/
def Origin.name : Origin → String
  | .program => "trading_config"
  | .loading => "trading_config::config::loader"
  | .checking => "trading_config::config::validate"
  | .handling => "trading_config::config::handle"

/-- The value of a field. -/
inductive Detail where
  /-- Text that log lines show as it is. -/
  | bare (content : String)
  /-- Text that log lines show between quotes. -/
  | text (content : String)
  | texts (contents : List String)

/-- The text of a field. -/
def Detail.plain : Detail → String
  | .bare content => content
  | .text content => content
  | .texts contents => Text.quotedList contents

/-- The text of a field in a log line. -/
def Detail.shown : Detail → String
  | .bare content => content
  | .text content => Text.quoted content
  | .texts contents => Text.quotedList contents

/-- What is reported. -/
inductive Entry where
  | noSources
  | documentLoaded (name : String) (depth : Nat)
  | overridden (override : Override)
  | unrecognizedKey (key : String)
  | unusedOverride (override : Override)
  | credentialsRemoved
  | validated (config : Config)
  | simulated
  | stoplossUnverified (exchange : String) (mode : TradingMode) (known : Bool)
  | blacklisted (pair : Pair)
  | quotedOtherwise (pair : Pair) (currency : String)
  | exposed (server : ApiServer)
  | noTokenKey
  | reloadFailed (error : ConfigError)
  | reloaded (files : List String)
  | loadFailed (error : ConfigError)
  | summary (config : Config)
  | live
  | watching
  | hangUp
  | stopped

namespace Entry

/-- How much an entry matters. -/
def level : Entry → Level
  | .noSources => .warn
  | .documentLoaded .. => .debug
  | .overridden _ => .info
  | .unrecognizedKey _ => .warn
  | .unusedOverride _ => .warn
  | .credentialsRemoved => .info
  | .validated _ => .debug
  | .simulated => .info
  | .stoplossUnverified .. => .warn
  | .blacklisted _ => .warn
  | .quotedOtherwise .. => .warn
  | .exposed _ => .warn
  | .noTokenKey => .warn
  | .reloadFailed _ => .warn
  | .reloaded _ => .info
  | .loadFailed _ => .error
  | .summary _ => .info
  | .live => .warn
  | .watching => .info
  | .hangUp => .info
  | .stopped => .info

/-- The part of the program that reports an entry. -/
def origin : Entry → Origin
  | .noSources => .loading
  | .documentLoaded .. => .loading
  | .overridden _ => .loading
  | .unrecognizedKey _ => .loading
  | .unusedOverride _ => .loading
  | .credentialsRemoved => .loading
  | .validated _ => .loading
  | .simulated => .checking
  | .stoplossUnverified .. => .checking
  | .blacklisted _ => .checking
  | .quotedOtherwise .. => .checking
  | .exposed _ => .checking
  | .noTokenKey => .checking
  | .reloadFailed _ => .handling
  | .reloaded _ => .handling
  | .loadFailed _ => .program
  | .summary _ => .program
  | .live => .program
  | .watching => .program
  | .hangUp => .program
  | .stopped => .program

/-- The wording of an entry. -/
def message : Entry → String
  | .noSources => "No configuration sources given"
  | .documentLoaded .. => "Loaded config document"
  | .overridden _ => "Config value overridden from environment"
  | .unrecognizedKey _ => "Unrecognized configuration key, keeping it without validation"
  | .unusedOverride _ =>
      "Environment override does not match any config field, ignoring it"
  | .credentialsRemoved => "Dry run is enabled, removing exchange credentials"
  | .validated _ => "Configuration validated"
  | .simulated => "Dry run is enabled, all orders will be simulated"
  | .stoplossUnverified .. =>
      "Cannot verify stoploss on exchange support, accepting configuration as is"
  | .blacklisted _ => "Pair is blacklisted, removing it from the whitelist"
  | .quotedOtherwise .. =>
      "Pair is not quoted in the stake currency, removing it from the whitelist"
  | .exposed _ => "API server accepts external connections, make sure it is behind a firewall"
  | .noTokenKey =>
      "API server has no jwt_secret_key, a random one will be generated on every start"
  | .reloadFailed _ => "Config reload failed, keeping the previous configuration"
  | .reloaded _ => "Configuration reloaded"
  | .loadFailed _ => "Failed to load configuration"
  | .summary _ => "Configuration loaded"
  | .live => "Live trading is enabled, orders will be sent to the exchange"
  | .watching =>
      "Watching for SIGHUP to reload configuration (press Ctrl+C to stop)..."
  | .hangUp => "SIGHUP received, reloading configuration"
  | .stopped => "Stopped watching configuration"

/-- The fields of an entry. -/
def details : Entry → List (String × Detail)
  | .documentLoaded name depth =>
      [("document", .bare name), ("depth", .bare (toString depth))]
  | .overridden override => [("field", .bare override.pathText)]
  | .unrecognizedKey key => [("key", .bare key)]
  | .unusedOverride override => [("field", .bare override.pathText)]
  | .validated config => [
      ("files", .texts config.files),
      ("exchange", .bare config.exchange.name),
      ("pairs", .bare (toString config.exchange.whitelist.length))]
  | .stoplossUnverified exchange mode known => [
      ("exchange", .bare exchange),
      ("trading_mode", .text mode.name),
      ("reason", .text
        (if known then "trading mode not listed for this exchange" else "unknown exchange"))]
  | .blacklisted pair => [("pair", .bare pair.text)]
  | .quotedOtherwise pair currency =>
      [("pair", .bare pair.text), ("stake_currency", .bare currency)]
  | .exposed server => [("address", .bare server.listenText)]
  | .reloadFailed error => [("error", .bare error.message)]
  | .reloaded files => [("files", .texts files)]
  | .loadFailed error => [("error", .bare error.message)]
  | .summary config => [
      ("bot", .bare config.botName),
      ("exchange", .bare config.exchange.name),
      ("trading_mode", .text config.tradingMode.name),
      ("dry_run", .bare (toString config.dryRun)),
      ("stake_currency", .bare config.stakeCurrency),
      ("stake_amount", .bare config.stake.text),
      ("max_open_trades", .bare (toString config.maxOpenTrades)),
      ("pairs", .texts (config.exchange.whitelist.map Pair.text))]
  | _ => []

/-- The line of an entry in a log. -/
def line (entry : Entry) : String :=
  entry.level.name ++ " " ++ entry.origin.name ++ ": " ++ entry.message ++
    String.join (entry.details.map fun (name, detail) => " " ++ name ++ "=" ++ detail.shown)

end Entry

end BotConfig.Log

namespace BotConfig

/-- A computation that reports as it goes and may end with an error. -/
structure Traced (α : Type) where
  log : List Log.Entry
  outcome : Except ConfigError α

namespace Traced

/-- A result without a report. -/
def pure {α : Type} (result : α) : Traced α := ⟨[], .ok result⟩

/-- One computation after another. What the first one reported stays when it ends with an error. -/
def bind {α β : Type} (first : Traced α) (next : α → Traced β) : Traced β :=
  match first.outcome with
  | .error error => ⟨first.log, .error error⟩
  | .ok result =>
      let second := next result
      ⟨first.log ++ second.log, second.outcome⟩

instance : Monad Traced where
  pure := Traced.pure
  bind := Traced.bind

/-- Report an entry. -/
def report (entry : Log.Entry) : Traced Unit := ⟨[entry], .ok ()⟩

/-- Report entries in order. -/
def reportAll (entries : List Log.Entry) : Traced Unit := ⟨entries, .ok ()⟩

/-- End with an error. -/
def fail {α : Type} (error : ConfigError) : Traced α := ⟨[], .error error⟩

/-- A result or an error without a report. -/
def ofExcept {α : Type} (outcome : Except ConfigError α) : Traced α := ⟨[], outcome⟩

end Traced

end BotConfig
