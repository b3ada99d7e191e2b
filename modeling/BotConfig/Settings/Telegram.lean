import BotConfig.Decode
import BotConfig.Error

/-!
Remote control and notices over Telegram.
-/

namespace BotConfig

/-- The settings of the Telegram bot. -/
structure Telegram where
  enabled : Bool
  token : String
  chatId : String
  topicId : Option String
  /-- The users that may send commands; if there are none, all users of the chat may. -/
  authorizedUsers : List String
  offerReload : Bool
  /-- Balances below this one are not reported. -/
  dustLevel : Option Binary64
  /-- Which notices are sent, kept as it is. -/
  notices : Fields

namespace Telegram

/-- A bot that does not run. -/
def standard : Telegram := ⟨false, "", "", none, [], true, none, []⟩

instance : Inhabited Telegram := ⟨standard⟩

/-- The fields of the section. -/
def record : Decode.Record Telegram :=
  Telegram.mk
    <$> .defaulted "enabled" Decode.boolean standard.enabled
    <*> .defaulted "token" Decode.freeText standard.token
    <*> .defaulted "chat_id" Decode.freeText standard.chatId
    <*> .defaulted "topic_id" Decode.optionalFreeText standard.topicId
    <*> .defaulted "authorized_users" (Decode.listOf Decode.text) standard.authorizedUsers
    <*> .defaulted "reload" Decode.boolean standard.offerReload
    <*> .defaulted "balance_dust_level" (Decode.optional Decode.real) standard.dustLevel
    <*> .defaulted "notification_settings" Decode.fields standard.notices

/-- Read the section. -/
def decode : Decode.Decoder Telegram := record.decoder "TelegramConfig"

/-- Write the section. -/
def encode (telegram : Telegram) : Value := .mapping [
  ("enabled", .boolean telegram.enabled),
  ("token", .text telegram.token),
  ("chat_id", .text telegram.chatId),
  ("topic_id", Encode.optional .text telegram.topicId),
  ("authorized_users", Encode.listOf .text telegram.authorizedUsers),
  ("reload", .boolean telegram.offerReload),
  ("balance_dust_level", Encode.optional Encode.real telegram.dustLevel),
  ("notification_settings", .mapping telegram.notices)]

/-- Whether two levels that may not be set are the same. -/
def levelAgrees : Option Binary64 → Option Binary64 → Bool
  | none, none => true
  | some a, some b => a.agrees b
  | _, _ => false

/-- Whether two sections are equal. -/
def agrees (a b : Telegram) : Bool :=
  a.enabled == b.enabled && a.token == b.token && a.chatId == b.chatId &&
    a.topicId == b.topicId && a.authorizedUsers == b.authorizedUsers &&
    a.offerReload == b.offerReload && levelAgrees a.dustLevel b.dustLevel &&
    (Value.mapping a.notices).agrees (.mapping b.notices)

/-- The level is not below zero, and a bot that runs has a token and a chat. -/
def rules (telegram : Telegram) : List Rule :=
  ⟨!telegram.dustLevel.any Binary64.isBelowZero,
    .invalid [.key "telegram", .key "balance_dust_level"] .notBelowZero⟩ ::
  if telegram.enabled then [
    ⟨!telegram.token.isEmpty, .missing [.key "telegram", .key "token"]⟩,
    ⟨!telegram.chatId.isEmpty, .missing [.key "telegram", .key "chat_id"]⟩]
  else []

end Telegram

end BotConfig
