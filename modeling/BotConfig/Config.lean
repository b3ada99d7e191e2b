import BotConfig.Settings.ApiServer
import BotConfig.Settings.Edge
import BotConfig.Settings.Exchange
import BotConfig.Settings.Internals
import BotConfig.Settings.Orders
import BotConfig.Settings.PairlistChain
import BotConfig.Settings.Pricing
import BotConfig.Settings.Stake
import BotConfig.Settings.Telegram

/-!
The configuration of a trading bot.

It is decoded from one mapping, whose sections then have to keep their own rules.  Keys of the
mapping that mean nothing here are kept as they are.
-/

namespace BotConfig

/-- Read a market segment. -/
def TradingMode.decode : Decode.Decoder TradingMode :=
  Decode.choice (TradingMode.all.map fun mode => ([mode.name], mode))

/-- Read how collateral is shared. -/
def MarginMode.decode : Decode.Decoder MarginMode :=
  Decode.choice (MarginMode.all.map fun mode => ([mode.name], mode))

/-- The configuration of a trading bot. -/
structure Config where
  botName : String
  maxOpenTrades : Nat
  stakeCurrency : String
  stake : Stake
  /-- The part of the balance that may be used. -/
  tradableRatio : Binary64
  /-- The capital that is used in place of the balance. -/
  availableCapital : Option Decimal
  /-- Whether orders are only simulated. -/
  dryRun : Bool
  /-- The balance that a simulation starts with. -/
  dryRunWallet : Decimal
  tradingMode : TradingMode
  marginMode : Option MarginMode
  displayCurrency : Option String
  cancelOrdersOnExit : Bool
  useExitSignal : Bool
  unfilledTimeout : UnfilledTimeout
  orderTypes : OrderTypes
  orderTimeInForce : OrderTimeInForce
  entryPricing : Pricing
  exitPricing : Pricing
  exchange : Exchange
  pairlists : List PairlistStage
  edge : Option Edge
  apiServer : Option ApiServer
  telegram : Option Telegram
  initialState : InitialState
  allowForcedEntry : Bool
  internals : Internals
  /-- The entries of the document that mean nothing here. -/
  extra : Fields
  /-- The keys that nothing is known about. -/
  unrecognized : List String
  /-- The documents that the configuration comes from, in the order of loading. -/
  files : List String
deriving Inhabited

namespace Config

/-! ### Keys -/

/-- The key of the list of files that a document includes. -/
def includeKey : String := "add_config_files"

/-- The keys that are decoded, and the key of included files. -/
def modeledKeys : List String := [
  includeKey, "api_server", "available_capital", "bot_name", "cancel_open_orders_on_exit",
  "dry_run", "dry_run_wallet", "edge", "entry_pricing", "exchange", "exit_pricing",
  "fiat_display_currency", "force_entry_enable", "initial_state", "internals", "margin_mode",
  "max_open_trades", "order_time_in_force", "order_types", "pairlists", "stake_amount",
  "stake_currency", "telegram", "tradable_balance_ratio", "trading_mode", "unfilledtimeout",
  "use_exit_signal"]

/-- The keys that other parts of a bot own. -/
def foreignKeys : List String := [
  "$schema", "amend_last_stake_amount", "amount_reserve_percent", "backtest_breakdown",
  "coingecko", "custom_price_max_distance_ratio", "datadir", "dataformat_ohlcv",
  "dataformat_trades", "db_url", "discord", "download_trades", "exit_profit_offset",
  "exit_profit_only", "experimental", "external_message_consumer", "fee", "freqai",
  "freqaimodel", "freqaimodel_path", "ignore_buying_expired_candle_after",
  "ignore_roi_if_entry_signal", "last_stake_amount_min_ratio", "liquidation_buffer",
  "log_config", "logfile", "max_entry_position_adjustment", "minimal_roi", "new_pairs_days",
  "orderflow", "position_adjustment_enable", "process_only_new_candles", "protections",
  "recursive_strategy_search", "reduce_df_footprint", "startup_candle", "stoploss", "strategy",
  "strategy_path", "timeframe", "timeframe_detail", "trailing_only_offset_is_reached",
  "trailing_stop", "trailing_stop_positive", "trailing_stop_positive_offset", "user_data_dir",
  "webhook"]

/-- The entries of a document that are not decoded. -/
def extraOf (document : Fields) : Fields :=
  document.filter fun entry => !modeledKeys.contains entry.1

/-- The keys of a document that nothing is known about. -/
def unrecognizedOf (document : Fields) : List String :=
  ((extraOf document).map Prod.fst).filter fun key => !foreignKeys.contains key

/-! ### Reading and writing -/

/-- The name of a bot that has none. -/
def standardName : String := "tradebot"

/-- The part of the balance that is used when none is given. -/
def standardRatio : Binary64 := .ofDecimal false 99 2

/-- The balance of a simulation when none is given. -/
def standardWallet : Decimal := .ofInt 1000

/-- The fields of the document. -/
def record : Decode.Record Config :=
  Config.mk
    <$> .defaulted "bot_name" Decode.text standardName
    <*> .required "max_open_trades" (Decode.unsigned 32)
    <*> .defaulted "stake_currency" Decode.text ""
    <*> .defaulted "stake_amount" Stake.decode .unlimited
    <*> .defaulted "tradable_balance_ratio" Decode.real standardRatio
    <*> .defaulted "available_capital" (Decode.optional Decode.decimal) none
    <*> .defaulted "dry_run" Decode.boolean true
    <*> .defaulted "dry_run_wallet" Decode.decimal standardWallet
    <*> .defaulted "trading_mode" TradingMode.decode .spot
    <*> .defaulted "margin_mode" (Decode.optional MarginMode.decode) none
    <*> .defaulted "fiat_display_currency" (Decode.optional Decode.text) none
    <*> .defaulted "cancel_open_orders_on_exit" Decode.boolean false
    <*> .defaulted "use_exit_signal" Decode.boolean true
    <*> .defaulted "unfilledtimeout" UnfilledTimeout.decode .standard
    <*> .defaulted "order_types" OrderTypes.decode .standard
    <*> .defaulted "order_time_in_force" OrderTimeInForce.decode .standard
    <*> .defaulted "entry_pricing" Pricing.decode .standard
    <*> .defaulted "exit_pricing" Pricing.decode .standard
    <*> .defaulted "exchange" Exchange.decode .absent
    <*> .defaulted "pairlists" (Decode.listOf PairlistStage.decode) PairlistChain.standard
    <*> .defaulted "edge" (Decode.optional Edge.decode) none
    <*> .defaulted "api_server" (Decode.optional ApiServer.decode) none
    <*> .defaulted "telegram" (Decode.optional Telegram.decode) none
    <*> .defaulted "initial_state" InitialState.decode .stopped
    <*> .defaulted "force_entry_enable" Decode.boolean false
    <*> .defaulted "internals" Internals.decode .standard
    <*> pure []
    <*> pure []
    <*> pure []

/-- Read the modeled part of a document. -/
def decode : Decode.Decoder Config := record.decoder "TradingConfig"

/-- The fields in the order that they are written in. -/
def encode (config : Config) : Value := .mapping [
  ("bot_name", .text config.botName),
  ("max_open_trades", Encode.natural config.maxOpenTrades),
  ("stake_currency", .text config.stakeCurrency),
  ("stake_amount", config.stake.encode),
  ("tradable_balance_ratio", Encode.real config.tradableRatio),
  ("available_capital", Encode.optional (fun d => .text d.text) config.availableCapital),
  ("dry_run", .boolean config.dryRun),
  ("dry_run_wallet", .text config.dryRunWallet.text),
  ("trading_mode", .text config.tradingMode.name),
  ("margin_mode", Encode.optional (fun mode => .text mode.name) config.marginMode),
  ("fiat_display_currency", Encode.optional .text config.displayCurrency),
  ("cancel_open_orders_on_exit", .boolean config.cancelOrdersOnExit),
  ("use_exit_signal", .boolean config.useExitSignal),
  ("unfilledtimeout", config.unfilledTimeout.encode),
  ("order_types", config.orderTypes.encode),
  ("order_time_in_force", config.orderTimeInForce.encode),
  ("entry_pricing", config.entryPricing.encode),
  ("exit_pricing", config.exitPricing.encode),
  ("exchange", config.exchange.encode),
  ("pairlists", Encode.listOf PairlistStage.encode config.pairlists),
  ("edge", Encode.optional Edge.encode config.edge),
  ("api_server", Encode.optional ApiServer.encode config.apiServer),
  ("telegram", Encode.optional Telegram.encode config.telegram),
  ("initial_state", .text config.initialState.name),
  ("force_entry_enable", .boolean config.allowForcedEntry),
  ("internals", config.internals.encode),
  ("extra", .mapping config.extra),
  ("unrecognized_keys", Encode.listOf .text config.unrecognized),
  ("config_files", Encode.listOf .text config.files)]

/-- The text of a configuration on one line. -/
def serialized (config : Config) : String := config.encode.compact

/-- The value of a configuration, with all keys in order. -/
def toValue (config : Config) : Value := config.encode.sorted

/-- Whether orders reach the exchange. -/
def isLive (config : Config) : Bool := !config.dryRun

/-! ### Equality -/

/-- Whether data that may not be set are equal. -/
def optionAgrees {α : Type} (agrees : α → α → Bool) : Option α → Option α → Bool
  | none, none => true
  | some a, some b => agrees a b
  | _, _ => false

/-- Whether lists are equal item by item. -/
def listAgrees {α : Type} (agrees : α → α → Bool) : List α → List α → Bool
  | [], [] => true
  | a :: as, b :: bs => agrees a b && listAgrees agrees as bs
  | _, _ => false

/-- Whether two configurations are equal: numbers are compared as numbers. -/
def agrees (a b : Config) : Bool :=
  a.botName == b.botName && a.maxOpenTrades == b.maxOpenTrades &&
    a.stakeCurrency == b.stakeCurrency && a.stake.agrees b.stake &&
    a.tradableRatio.agrees b.tradableRatio &&
    optionAgrees Decimal.agrees a.availableCapital b.availableCapital &&
    a.dryRun == b.dryRun && a.dryRunWallet.agrees b.dryRunWallet &&
    a.tradingMode == b.tradingMode && a.marginMode == b.marginMode &&
    a.displayCurrency == b.displayCurrency && a.cancelOrdersOnExit == b.cancelOrdersOnExit &&
    a.useExitSignal == b.useExitSignal && a.unfilledTimeout == b.unfilledTimeout &&
    a.orderTypes.agrees b.orderTypes && a.orderTimeInForce == b.orderTimeInForce &&
    a.entryPricing.agrees b.entryPricing && a.exitPricing.agrees b.exitPricing &&
    a.exchange.agrees b.exchange && listAgrees PairlistStage.agrees a.pairlists b.pairlists &&
    optionAgrees Edge.agrees a.edge b.edge && a.apiServer == b.apiServer &&
    optionAgrees Telegram.agrees a.telegram b.telegram && a.initialState == b.initialState &&
    a.allowForcedEntry == b.allowForcedEntry && a.internals.agrees b.internals &&
    (Value.mapping a.extra).agrees (.mapping b.extra) && a.unrecognized == b.unrecognized &&
    a.files == b.files

/-! ### Rules -/

/-- The rules of an optional section. -/
def rulesOf {α : Type} (rules : α → List Rule) : Option α → List Rule
  | none => []
  | some data => rules data

/-- The rules about single fields, in the order that they are checked. -/
def fieldRules (config : Config) : List Rule :=
  ⟨!Text.isBlankText config.stakeCurrency, .missing [.key "stake_currency"]⟩ ::
  config.exchange.rules ++
  config.stake.rules ++
  [⟨config.tradableRatio.isRatio,
      .invalid [.key "tradable_balance_ratio"] .atMostOneAboveZero⟩,
    ⟨config.availableCapital.all Decimal.isPositive,
      .invalid [.key "available_capital"] .aboveZero⟩,
    ⟨config.dryRunWallet.isPositive, .invalid [.key "dry_run_wallet"] .aboveZero⟩,
    ⟨config.tradingMode == .spot || config.marginMode.isSome, .missing [.key "margin_mode"]⟩] ++
  config.unfilledTimeout.rules ++
  config.orderTypes.rules ++
  config.entryPricing.rules "entry_pricing" ++
  config.exitPricing.rules "exit_pricing" ++
  PairlistChain.rules config.pairlists ++
  rulesOf Edge.rules config.edge ++
  rulesOf ApiServer.rules config.apiServer ++
  rulesOf Telegram.rules config.telegram ++
  config.internals.rules

/-- A configuration without stages has the standard chain. -/
def withStages (config : Config) : Config :=
  if config.pairlists.isEmpty then { config with pairlists := PairlistChain.standard } else config

/-- The configuration that a document holds, if its fields keep their rules. -/
def ofDocument (document : Fields) : Except ConfigError Config := do
  let config ← (decode (.mapping document)).mapError ConfigError.ofFailure
  let config := config.withStages
  if let some error := Rule.firstBroken? config.fieldRules then throw error
  return { config with extra := extraOf document, unrecognized := unrecognizedOf document }

end Config

end BotConfig
