import BotConfig.Config

/-!
Configurations for other eyes: secrets that are set are replaced by a fixed word.
-/

namespace BotConfig.Redaction

/-- The word in place of a secret. -/
def placeholder : String := "REDACTED"

/-- The paths of secrets. -/
def secretPaths : List (List String) := [
  ["exchange", "key"], ["exchange", "secret"], ["exchange", "password"], ["exchange", "uid"],
  ["api_server", "password"], ["api_server", "jwt_secret_key"], ["api_server", "ws_token"],
  ["telegram", "token"], ["telegram", "chat_id"],
  ["extra", "webhook", "url"], ["extra", "discord", "webhook_url"]]

/-- Whether a secret is set. -/
def isSet : Value → Bool
  | .null => false
  | .text content => !content.isEmpty
  | .list items => !items.isEmpty
  | _ => true

/-- A secret as others may see it. -/
def masked (value : Value) : Value := if isSet value then .text placeholder else value

mutual

/-- The value with the secret at a path masked. -/
def mask : List String → Value → Value
  | [], value => masked value
  | key :: rest, .mapping fields => .mapping (maskField key rest fields)
  | _ :: _, value => value

/-- The entries with the secret under a key masked. -/
def maskField (key : String) (rest : List String) : List (String × Value) → Fields
  | [] => []
  | (name, value) :: others =>
      if name = key then (name, mask rest value) :: others
      else (name, value) :: maskField key rest others

end

end BotConfig.Redaction

namespace BotConfig.Config

/-- The value of a configuration with its secrets masked. -/
def redacted (config : Config) : Value :=
  Redaction.secretPaths.foldl (fun value path => Redaction.mask path value) config.toValue

end BotConfig.Config
