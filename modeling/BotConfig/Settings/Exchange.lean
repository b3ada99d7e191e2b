import BotConfig.Decode
import BotConfig.Error
import BotConfig.Pattern.Reader
import BotConfig.Text.Classes

/-!
The exchange that a bot trades on, its credentials, and the pairs to trade.
-/

namespace BotConfig

/-- The settings of an exchange. -/
structure Exchange where
  name : String
  key : String
  secret : String
  password : Option String
  uid : Option String
  /-- Options that the client of the exchange takes as they are. -/
  clientOptions : Fields
  /-- Options that the asynchronous client takes as they are. -/
  asyncClientOptions : Fields
  /-- The pairs to trade, in order. -/
  whitelist : List Pair
  /-- The patterns of pairs that are never traded. -/
  blacklist : List String
  useWebsocket : Bool
  /-- Minutes between reloads of the markets. -/
  marketsRefreshInterval : Nat
  skipPairValidation : Bool
  /-- The rate of a fee that the exchange does not tell. -/
  unknownFeeRate : Option Binary64

namespace Exchange

/-- No exchange at all. -/
def standard : Exchange where
  name := ""
  key := ""
  secret := ""
  password := none
  uid := none
  clientOptions := []
  asyncClientOptions := []
  whitelist := []
  blacklist := []
  useWebsocket := true
  marketsRefreshInterval := 60
  skipPairValidation := false
  unknownFeeRate := none

/-- The settings of a section that is left out: websockets are not used, and markets are never
reloaded. -/
def absent : Exchange :=
  { standard with useWebsocket := false, marketsRefreshInterval := 0 }

instance : Inhabited Exchange := ⟨absent⟩

/-- The fields of the section. -/
def record : Decode.Record Exchange :=
  Exchange.mk
    <$> .defaulted "name" Decode.text standard.name
    <*> .defaulted "key" Decode.freeText standard.key
    <*> .defaulted "secret" Decode.freeText standard.secret
    <*> .defaulted "password" Decode.optionalFreeText standard.password
    <*> .defaulted "uid" Decode.optionalFreeText standard.uid
    <*> .defaulted "ccxt_config" Decode.fields standard.clientOptions
    <*> .defaulted "ccxt_async_config" Decode.fields standard.asyncClientOptions
    <*> .defaulted "pair_whitelist" (Decode.listOf Decode.pair) standard.whitelist
    <*> .defaulted "pair_blacklist" (Decode.listOf Decode.text) standard.blacklist
    <*> .defaulted "enable_ws" Decode.boolean standard.useWebsocket
    <*> .defaulted "markets_refresh_interval" (Decode.unsigned 32) standard.marketsRefreshInterval
    <*> .defaulted "skip_pair_validation" Decode.boolean standard.skipPairValidation
    <*> .defaulted "unknown_fee_rate" (Decode.optional Decode.real) standard.unknownFeeRate

/-- Read the section. -/
def decode : Decode.Decoder Exchange := record.decoder "ExchangeConfig"

/-- Write the section. -/
def encode (exchange : Exchange) : Value := .mapping [
  ("name", .text exchange.name),
  ("key", .text exchange.key),
  ("secret", .text exchange.secret),
  ("password", Encode.optional .text exchange.password),
  ("uid", Encode.optional .text exchange.uid),
  ("ccxt_config", .mapping exchange.clientOptions),
  ("ccxt_async_config", .mapping exchange.asyncClientOptions),
  ("pair_whitelist", Encode.listOf (fun pair => .text pair.text) exchange.whitelist),
  ("pair_blacklist", Encode.listOf .text exchange.blacklist),
  ("enable_ws", .boolean exchange.useWebsocket),
  ("markets_refresh_interval", Encode.natural exchange.marketsRefreshInterval),
  ("skip_pair_validation", .boolean exchange.skipPairValidation),
  ("unknown_fee_rate", Encode.optional Encode.real exchange.unknownFeeRate)]

/-- Whether two rates that may not be set are the same. -/
def rateAgrees : Option Binary64 → Option Binary64 → Bool
  | none, none => true
  | some a, some b => a.agrees b
  | _, _ => false

/-- Whether two sections are equal. -/
def agrees (a b : Exchange) : Bool :=
  a.name == b.name && a.key == b.key && a.secret == b.secret && a.password == b.password &&
    a.uid == b.uid && (Value.mapping a.clientOptions).agrees (.mapping b.clientOptions) &&
    (Value.mapping a.asyncClientOptions).agrees (.mapping b.asyncClientOptions) &&
    a.whitelist == b.whitelist && a.blacklist == b.blacklist &&
    a.useWebsocket == b.useWebsocket &&
    a.marketsRefreshInterval == b.marketsRefreshInterval &&
    a.skipPairValidation == b.skipPairValidation && rateAgrees a.unknownFeeRate b.unknownFeeRate

/-- Whether both key and secret are given. -/
def hasCredentials (exchange : Exchange) : Bool :=
  !exchange.key.isEmpty && !exchange.secret.isEmpty

/-- Whether any credential is given. -/
def holdsCredential (exchange : Exchange) : Bool :=
  !exchange.key.isEmpty || !exchange.secret.isEmpty || exchange.password.isSome ||
    exchange.uid.isSome

/-- The settings without credentials. -/
def withoutCredentials (exchange : Exchange) : Exchange :=
  { exchange with key := "", secret := "", password := none, uid := none }

/-- The path of an entry of the whitelist. -/
def whitelistPath (position : Nat) : List Decode.Step :=
  [.key "exchange", .key "pair_whitelist", .index position]

/-- The path of an entry of the blacklist. -/
def blacklistPath (position : Nat) : List Decode.Step :=
  [.key "exchange", .key "pair_blacklist", .index position]

/-- Each pair of the rest of a whitelist differs from all pairs before it. -/
def distinctRules (earlier : List Pair) : List Pair → List Rule
  | [] => []
  | pair :: rest =>
      ⟨!earlier.contains pair,
        .invalid (whitelistPath earlier.length) (.distinctPair pair (earlier.idxOf pair))⟩ ::
      distinctRules (earlier ++ [pair]) rest

/-- Each entry of the rest of a blacklist is a pattern. -/
def patternRules : Nat → List String → List Rule
  | _, [] => []
  | position, text :: rest =>
      ⟨Pattern.isValid text, .invalid (blacklistPath position) (.pattern text)⟩ ::
      patternRules (position + 1) rest

/-- The exchange has a name, the interval is above zero, the rate is not below zero, no pair is
listed twice, and all patterns can be read. -/
def rules (exchange : Exchange) : List Rule := [
  ⟨!Text.isBlankText exchange.name, .missing [.key "exchange", .key "name"]⟩,
  ⟨exchange.marketsRefreshInterval != 0,
    .invalid [.key "exchange", .key "markets_refresh_interval"] .aboveZero⟩,
  ⟨!exchange.unknownFeeRate.any Binary64.isBelowZero,
    .invalid [.key "exchange", .key "unknown_fee_rate"] .notBelowZero⟩] ++
  distinctRules [] exchange.whitelist ++ patternRules 0 exchange.blacklist

end Exchange

end BotConfig
