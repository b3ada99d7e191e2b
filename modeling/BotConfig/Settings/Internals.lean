import BotConfig.Decode
import BotConfig.Duration
import BotConfig.Error

/-!
The control loop of a bot: the state it starts in, and how often it turns.
-/

namespace BotConfig

/-- The state that a bot starts in. -/
inductive InitialState where
  | running
  | stopped
deriving DecidableEq, Inhabited

namespace InitialState

/-- The states in the order messages list them. -/
def all : List InitialState := [.running, .stopped]

/-- The spelling in documents. -/
def name : InitialState → String
  | .running => "running"
  | .stopped => "stopped"

/-- Read a state. -/
def decode : Decode.Decoder InitialState :=
  Decode.choice (all.map fun state => ([state.name], state))

end InitialState

/-- The settings of the control loop. -/
structure Internals where
  /-- Seconds between two turns. -/
  throttle : Binary64
  /-- Seconds between two signs of life; zero gives none. -/
  heartbeat : Nat
  notifySystem : Bool
deriving DecidableEq

namespace Internals

/-- A turn every five seconds and a sign of life every minute. -/
def standard : Internals := ⟨.ofInt 5, 60, false⟩

instance : Inhabited Internals := ⟨standard⟩

/-- The fields of the section. -/
def record : Decode.Record Internals :=
  Internals.mk
    <$> .defaulted "process_throttle_secs" Decode.real standard.throttle
    <*> .defaulted "heartbeat_interval" (Decode.unsigned 32) standard.heartbeat
    <*> .defaulted "sd_notify" Decode.boolean standard.notifySystem

/-- Read the section. -/
def decode : Decode.Decoder Internals := record.decoder "InternalsConfig"

/-- Write the section. -/
def encode (internals : Internals) : Value := .mapping [
  ("process_throttle_secs", Encode.real internals.throttle),
  ("heartbeat_interval", Encode.natural internals.heartbeat),
  ("sd_notify", .boolean internals.notifySystem)]

/-- Whether two sections are equal. -/
def agrees (a b : Internals) : Bool :=
  a.throttle.agrees b.throttle && a.heartbeat == b.heartbeat && a.notifySystem == b.notifySystem

/-- The time between two turns, if it is not too long to be told. -/
def throttleDuration? (internals : Internals) : Option Duration :=
  Duration.ofSeconds? internals.throttle

/-- The time between two turns is above zero. -/
def rules (internals : Internals) : List Rule := [
  ⟨internals.throttle.isAboveZero,
    .invalid [.key "internals", .key "process_throttle_secs"] .aboveZero⟩]

end Internals

end BotConfig
