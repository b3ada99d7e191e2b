import BotConfig.Decode
import BotConfig.Error

/-!
Position sizes from past results: how much is risked, and over which stoplosses to search.
-/

namespace BotConfig

/-- The settings of the sizing of positions. -/
structure Edge where
  enabled : Bool
  /-- Seconds between calculations. -/
  throttle : Nat
  days : Nat
  /-- The part of the capital that a trade may risk. -/
  allowedRisk : Binary64
  rangeMinimum : Binary64
  rangeMaximum : Binary64
  rangeStep : Binary64
  minimumWinRate : Binary64
  minimumExpectancy : Binary64
  minimumTrades : Nat
  /-- The longest trade that counts, in minutes. -/
  longestTrade : Nat
  removePumps : Bool
deriving DecidableEq, Inhabited

namespace Edge

/-- The fields of the section. The time between calculations and the risk must be given. -/
def record : Decode.Record Edge :=
  Edge.mk
    <$> .defaulted "enabled" Decode.boolean false
    <*> .required "process_throttle_secs" (Decode.unsigned 64)
    <*> .defaulted "calculate_since_number_of_days" (Decode.unsigned 32) 7
    <*> .required "allowed_risk" Decode.real
    <*> .defaulted "stoploss_range_min" Decode.real (.ofDecimal true 1 2)
    <*> .defaulted "stoploss_range_max" Decode.real (.ofDecimal true 1 1)
    <*> .defaulted "stoploss_range_step" Decode.real (.ofDecimal true 1 2)
    <*> .defaulted "minimum_winrate" Decode.real (.ofDecimal false 6 1)
    <*> .defaulted "minimum_expectancy" Decode.real (.ofDecimal false 2 1)
    <*> .defaulted "min_trade_number" (Decode.unsigned 32) 10
    <*> .defaulted "max_trade_duration_minute" (Decode.unsigned 32) 1440
    <*> .defaulted "remove_pumps" Decode.boolean false

/-- Read the section. -/
def decode : Decode.Decoder Edge := record.decoder "EdgeConfig"

/-- Write the section. -/
def encode (edge : Edge) : Value := .mapping [
  ("enabled", .boolean edge.enabled),
  ("process_throttle_secs", Encode.natural edge.throttle),
  ("calculate_since_number_of_days", Encode.natural edge.days),
  ("allowed_risk", Encode.real edge.allowedRisk),
  ("stoploss_range_min", Encode.real edge.rangeMinimum),
  ("stoploss_range_max", Encode.real edge.rangeMaximum),
  ("stoploss_range_step", Encode.real edge.rangeStep),
  ("minimum_winrate", Encode.real edge.minimumWinRate),
  ("minimum_expectancy", Encode.real edge.minimumExpectancy),
  ("min_trade_number", Encode.natural edge.minimumTrades),
  ("max_trade_duration_minute", Encode.natural edge.longestTrade),
  ("remove_pumps", .boolean edge.removePumps)]

/-- Whether two sections are equal. -/
def agrees (a b : Edge) : Bool :=
  a.enabled == b.enabled && a.throttle == b.throttle && a.days == b.days &&
    a.allowedRisk.agrees b.allowedRisk && a.rangeMinimum.agrees b.rangeMinimum &&
    a.rangeMaximum.agrees b.rangeMaximum && a.rangeStep.agrees b.rangeStep &&
    a.minimumWinRate.agrees b.minimumWinRate &&
    a.minimumExpectancy.agrees b.minimumExpectancy && a.minimumTrades == b.minimumTrades &&
    a.longestTrade == b.longestTrade && a.removePumps == b.removePumps

/-- The least number of seconds between calculations. -/
def leastThrottle : Nat := 600

/-- Whether a difference is a number of steps above zero, from the rounded quotient. A quotient
that is too large counts by its sign. -/
def stepsForward (difference step : Binary64) : Option Binary64 → Bool
  | none => difference.negative == step.negative
  | some steps => steps.isAboveZero

/-- Whether a step leads through a range, from the rounded difference of its ends. A difference
that is too large counts by its sign. -/
def leadsThrough (upward : Bool) (step : Binary64) : Option Binary64 → Bool
  | none => upward != step.negative
  | some difference => stepsForward difference step (difference.div? step)

/-- Whether the step leads from the one end of the range towards the other. The rounded number of
steps decides, so a range that is too short for any does not. -/
def stepsTowardsMaximum (edge : Edge) : Bool :=
  leadsThrough (edge.rangeMinimum < edge.rangeMaximum) edge.rangeStep
    (edge.rangeMaximum.sub? edge.rangeMinimum)

/-- The time between calculations is not too short, the risk is above zero and at most one, the
win rate is between zero and one, and the step is not zero and leads towards the maximum. -/
def rules (edge : Edge) : List Rule := [
  ⟨leastThrottle ≤ edge.throttle,
    .invalid [.key "edge", .key "process_throttle_secs"] (.atLeast leastThrottle)⟩,
  ⟨edge.allowedRisk.isRatio, .invalid [.key "edge", .key "allowed_risk"] .atMostOneAboveZero⟩,
  ⟨edge.minimumWinRate.isFraction,
    .invalid [.key "edge", .key "minimum_winrate"] .fromZeroToOne⟩,
  ⟨!edge.rangeStep.isZero, .invalid [.key "edge", .key "stoploss_range_step"] .notZero⟩,
  ⟨edge.stepsTowardsMaximum,
    .invalid [.key "edge", .key "stoploss_range_step"] .stepsTowardsMaximum⟩]

end Edge

end BotConfig
