import BotConfig.Decode
import BotConfig.Duration
import BotConfig.Error

/-!
How orders are placed: their execution styles, how long they stay active, and how long they may
stay unfilled.
-/

namespace BotConfig

/-- How long orders may stay unfilled. -/
structure UnfilledTimeout where
  entry : Nat
  exit : Nat
  /-- How many exit orders may time out before an emergency exit; zero sets no limit. -/
  exitTimeoutCount : Nat
  unit : TimeoutUnit
deriving DecidableEq

namespace UnfilledTimeout

/-- Ten minutes for entries and exits. -/
def standard : UnfilledTimeout := ⟨10, 10, 0, .minutes⟩

instance : Inhabited UnfilledTimeout := ⟨standard⟩

/-- The unit of a timeout. -/
def unitDecoder : Decode.Decoder TimeoutUnit :=
  Decode.choice (TimeoutUnit.all.map fun unit => ([unit.name], unit))

/-- The fields of the section. -/
def record : Decode.Record UnfilledTimeout :=
  UnfilledTimeout.mk
    <$> .defaulted "entry" (Decode.unsigned 32) standard.entry
    <*> .defaulted "exit" (Decode.unsigned 32) standard.exit
    <*> .defaulted "exit_timeout_count" (Decode.unsigned 32) standard.exitTimeoutCount
    <*> .defaulted "unit" unitDecoder standard.unit

/-- Read the section. -/
def decode : Decode.Decoder UnfilledTimeout := record.decoder "UnfilledTimeout"

/-- Write the section. -/
def encode (timeout : UnfilledTimeout) : Value := .mapping [
  ("entry", Encode.natural timeout.entry),
  ("exit", Encode.natural timeout.exit),
  ("exit_timeout_count", Encode.natural timeout.exitTimeoutCount),
  ("unit", .text timeout.unit.name)]

/-- How long an entry order may stay unfilled. -/
def entryDuration (timeout : UnfilledTimeout) : Duration := timeout.unit.times timeout.entry

/-- How long an exit order may stay unfilled. -/
def exitDuration (timeout : UnfilledTimeout) : Duration := timeout.unit.times timeout.exit

/-- Both timeouts are above zero. -/
def rules (timeout : UnfilledTimeout) : List Rule := [
  ⟨timeout.entry != 0, .invalid [.key "unfilledtimeout", .key "entry"] .aboveZero⟩,
  ⟨timeout.exit != 0, .invalid [.key "unfilledtimeout", .key "exit"] .aboveZero⟩]

end UnfilledTimeout

/-- Read an execution style. -/
def OrderType.decode : Decode.Decoder OrderType :=
  Decode.choice (OrderType.all.map fun type => ([type.name], type))

/-- Read a price that triggers a stoploss. -/
def StoplossPriceType.decode : Decode.Decoder StoplossPriceType :=
  Decode.choice (StoplossPriceType.all.map fun type => ([type.name], type))

/-- Read how long an order stays active. -/
def TimeInForce.decode : Decode.Decoder TimeInForce :=
  Decode.choice (TimeInForce.all.map fun code => ([code.name, code.lowerCode], code))

/-- Execution styles by purpose, and the stoploss on the exchange. -/
structure OrderTypes where
  entry : OrderType
  exit : OrderType
  emergencyExit : OrderType
  /-- The style of exits by hand, if it differs from that of exits. -/
  forceExit : Option OrderType
  /-- The style of entries by hand, if it differs from that of entries. -/
  forceEntry : Option OrderType
  stoploss : OrderType
  stoplossOnExchange : Bool
  /-- Seconds between checks of the stoploss on the exchange. -/
  stoplossInterval : Nat
  /-- The ratio of limit price to stop price. -/
  stoplossLimitRatio : Binary64
  stoplossPriceType : Option StoplossPriceType
deriving DecidableEq

namespace OrderTypes

/-- The seconds between checks of the stoploss when none are given. -/
def standardInterval : Nat := 60

/-- The ratio of limit price to stop price when none is given. -/
def standardLimitRatio : Binary64 := .ofDecimal false 99 2

/-- Limit orders, except to get out in an emergency. -/
def standard : OrderTypes where
  entry := .limit
  exit := .limit
  emergencyExit := .market
  forceExit := none
  forceEntry := none
  stoploss := .limit
  stoplossOnExchange := false
  stoplossInterval := standardInterval
  stoplossLimitRatio := standardLimitRatio
  stoplossPriceType := none

instance : Inhabited OrderTypes := ⟨standard⟩

/-- The fields of the section, each with a value of its own when it is left out. -/
def record : Decode.Record OrderTypes :=
  OrderTypes.mk
    <$> .defaulted "entry" OrderType.decode .limit
    <*> .defaulted "exit" OrderType.decode .limit
    <*> .defaulted "emergency_exit" OrderType.decode .market
    <*> .defaulted "force_exit" (Decode.optional OrderType.decode) none
    <*> .defaulted "force_entry" (Decode.optional OrderType.decode) none
    <*> .defaulted "stoploss" OrderType.decode .limit
    <*> .defaulted "stoploss_on_exchange" Decode.boolean false
    <*> .defaulted "stoploss_on_exchange_interval" (Decode.unsigned 32) standardInterval
    <*> .defaulted "stoploss_on_exchange_limit_ratio" Decode.real standardLimitRatio
    <*> .defaulted "stoploss_price_type" (Decode.optional StoplossPriceType.decode) none

/-- Read the section. -/
def decode : Decode.Decoder OrderTypes := record.decoder "OrderTypes"

/-- The entry of a style that is written only if it is set. -/
def encodeIfSet (name : String) : Option OrderType → List (String × Value)
  | none => []
  | some type => [(name, .text type.name)]

/-- Write the section. -/
def encode (types : OrderTypes) : Value := .mapping <|
  [("entry", .text types.entry.name),
    ("exit", .text types.exit.name),
    ("emergency_exit", .text types.emergencyExit.name)] ++
  encodeIfSet "force_exit" types.forceExit ++
  encodeIfSet "force_entry" types.forceEntry ++
  [("stoploss", .text types.stoploss.name),
    ("stoploss_on_exchange", .boolean types.stoplossOnExchange),
    ("stoploss_on_exchange_interval", Encode.natural types.stoplossInterval),
    ("stoploss_on_exchange_limit_ratio", Encode.real types.stoplossLimitRatio),
    ("stoploss_price_type",
      Encode.optional (fun type => .text type.name) types.stoplossPriceType)]

/-- Whether two sections are equal. -/
def agrees (a b : OrderTypes) : Bool :=
  { a with stoplossLimitRatio := b.stoplossLimitRatio } == b &&
    a.stoplossLimitRatio.agrees b.stoplossLimitRatio

/-- The style of exits by hand. -/
def exitByHand (types : OrderTypes) : OrderType := types.forceExit.getD types.exit

/-- The style of entries by hand. -/
def entryByHand (types : OrderTypes) : OrderType := types.forceEntry.getD types.entry

/-- The interval is above zero, and the ratio is above zero and at most one. -/
def rules (types : OrderTypes) : List Rule := [
  ⟨types.stoplossInterval != 0,
    .invalid [.key "order_types", .key "stoploss_on_exchange_interval"] .aboveZero⟩,
  ⟨types.stoplossLimitRatio.isRatio,
    .invalid [.key "order_types", .key "stoploss_on_exchange_limit_ratio"] .atMostOneAboveZero⟩]

end OrderTypes

/-- How long orders stay active. -/
structure OrderTimeInForce where
  entry : TimeInForce
  exit : TimeInForce
deriving DecidableEq

namespace OrderTimeInForce

/-- Orders stay until they are cancelled. -/
def standard : OrderTimeInForce := ⟨.goodTillCancelled, .goodTillCancelled⟩

instance : Inhabited OrderTimeInForce := ⟨standard⟩

/-- The fields of the section, each with a value of its own when it is left out. -/
def record : Decode.Record OrderTimeInForce :=
  OrderTimeInForce.mk
    <$> .defaulted "entry" TimeInForce.decode .goodTillCancelled
    <*> .defaulted "exit" TimeInForce.decode .goodTillCancelled

/-- Read the section. -/
def decode : Decode.Decoder OrderTimeInForce := record.decoder "OrderTimeInForce"

/-- Write the section. -/
def encode (times : OrderTimeInForce) : Value := .mapping [
  ("entry", .text times.entry.name),
  ("exit", .text times.exit.name)]

end OrderTimeInForce

end BotConfig
