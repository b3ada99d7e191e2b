import BotConfig.Proofs.Fields
import BotConfig.Redaction

/-!
What is left of secrets in a redacted configuration.

Masking a secret that has been replaced by the word for secrets beforehand makes no difference, so
a redacted configuration tells of a secret at most whether it is set.
-/

namespace BotConfig

namespace Redaction

theorem get?_maskField (key other : String) (rest : List String) (fields : Fields) :
    Fields.get? other (maskField key rest fields) =
      if other = key then (Fields.get? other fields).map (mask rest)
      else Fields.get? other fields := by
  induction fields with
  | nil => simp [maskField]
  | cons entry others inductionHypothesis =>
      rcases entry with ⟨name, value⟩
      by_cases here : name = key
      · subst here
        by_cases same : name = other
        · simp [maskField, same]
        · simp [maskField, same, Ne.symm same]
      · by_cases same : name = other
        · subst same
          simp [maskField, here]
        · simp [maskField, here, same, inductionHypothesis]

theorem keys_maskField (key : String) (rest : List String) (fields : Fields) :
    Fields.keys (maskField key rest fields) = fields.keys := by
  induction fields with
  | nil => rfl
  | cons entry others inductionHypothesis =>
      rcases entry with ⟨name, value⟩
      by_cases here : name = key
      · simp [maskField, here]
      · simp [maskField, here, inductionHypothesis]

theorem ascending_maskField {fields : Fields} (ascending : fields.Ascending) (key : String)
    (rest : List String) : Fields.Ascending (maskField key rest fields) := by
  rw [Fields.Ascending, keys_maskField]
  exact ascending

theorem isSet_sorted (value : Value) : isSet value.sorted = isSet value := by
  cases value with
  | list items => cases items <;> rfl
  | _ => rfl

/-- Masking goes to the same secret whether or not keys are in order. -/
theorem mask_sorted (path : List String) (value : Value) :
    mask path value.sorted = (mask path value).sorted := by
  induction path generalizing value with
  | nil =>
      simp only [mask, masked, isSet_sorted]
      split <;> rfl
  | cons key rest inductionHypothesis =>
      cases value with
      | mapping fields =>
          have ascending := Fields.ascending_sortedFields fields
          simp only [Value.sorted, mask, Value.mapping.injEq]
          apply Fields.eq_of_get?_eq (ascending_maskField ascending key rest)
            (Fields.ascending_sortedFields _)
          intro other
          rw [get?_maskField, Fields.get?_sortedFields, Fields.get?_sortedFields, get?_maskField]
          split
          · simp only [Option.map_map, Function.comp_def, inductionHypothesis]
          · rfl
      | _ => rfl

/-- A text that tells only whether it is empty. -/
def veil (content : String) : String := if content.isEmpty then "" else placeholder

theorem isEmpty_veil (content : String) : (veil content).isEmpty = content.isEmpty := by
  by_cases empty : content = ""
  · subst empty
    rfl
  · have filled : content.isEmpty = false := by simpa using empty
    simp only [veil, filled]
    rfl

@[simp]
theorem masked_text_veil (content : String) :
    masked (.text (veil content)) = masked (.text content) := by
  by_cases empty : content = ""
  · subst empty
    rfl
  · have filled : content.isEmpty = false := by simpa using empty
    simp [masked, isSet, isEmpty_veil, filled]

@[simp]
theorem masked_optional_veil (content : Option String) :
    masked (Encode.optional .text (content.map veil)) = masked (Encode.optional .text content) := by
  cases content with
  | none => rfl
  | some content => exact masked_text_veil content

end Redaction

open Redaction

/-- A value with the secrets under several keys masked. -/
def Redaction.maskKeys (keys : List String) (value : Value) : Value :=
  keys.foldl (fun value key => mask [key] value) value

/-- The settings where secrets tell only whether they are set. -/
def Exchange.veiled (exchange : Exchange) : Exchange :=
  { exchange with
    key := veil exchange.key, secret := veil exchange.secret,
    password := exchange.password.map veil, uid := exchange.uid.map veil }

/-- The settings where secrets tell only whether they are set. -/
def ApiServer.veiled (server : ApiServer) : ApiServer :=
  { server with
    password := veil server.password, tokenKey := server.tokenKey.map veil,
    websocketTokens := if server.websocketTokens.isEmpty then [] else [placeholder] }

/-- The settings where secrets tell only whether they are set. -/
def Telegram.veiled (telegram : Telegram) : Telegram :=
  { telegram with token := veil telegram.token, chatId := veil telegram.chatId }

theorem Exchange.maskKeys_veiled (exchange : Exchange) :
    maskKeys ["key", "secret", "password", "uid"] exchange.veiled.encode =
      maskKeys ["key", "secret", "password", "uid"] exchange.encode := by
  simp [maskKeys, Exchange.encode, Exchange.veiled, mask, maskField]

theorem ApiServer.maskKeys_veiled (server : ApiServer) :
    maskKeys ["password", "jwt_secret_key", "ws_token"] server.veiled.encode =
      maskKeys ["password", "jwt_secret_key", "ws_token"] server.encode := by
  have tokens : masked (Encode.listOf .text
      (if server.websocketTokens.isEmpty then [] else [placeholder])) =
        masked (Encode.listOf .text server.websocketTokens) := by
    cases server.websocketTokens <;> rfl
  simp only [maskKeys, ApiServer.encode, ApiServer.veiled, mask, maskField, tokens,
    List.foldl_cons, List.foldl_nil, String.reduceEq, if_false, if_true, masked_text_veil,
    masked_optional_veil]

theorem Telegram.maskKeys_veiled (telegram : Telegram) :
    maskKeys ["token", "chat_id"] telegram.veiled.encode =
      maskKeys ["token", "chat_id"] telegram.encode := by
  simp [maskKeys, Telegram.encode, Telegram.veiled, mask, maskField]

namespace Config

/-- A configuration where the secrets of its sections tell only whether they are set, with other
entries beside them. -/
def veiled (config : Config) (extra : Fields) : Config :=
  { config with
    exchange := config.exchange.veiled, apiServer := config.apiServer.map ApiServer.veiled,
    telegram := config.telegram.map Telegram.veiled, extra := extra }

/-- The entries with the two secrets among them masked. -/
def maskedExtra (extra : Fields) : Fields :=
  maskField "discord" ["webhook_url"] (maskField "webhook" ["url"] extra)

theorem redacted_eq (config : Config) :
    config.redacted =
      (secretPaths.foldl (fun value path => mask path value) config.encode).sorted := by
  have sorted (paths : List (List String)) (value : Value) :
      paths.foldl (fun value path => mask path value) value.sorted =
        (paths.foldl (fun value path => mask path value) value).sorted := by
    induction paths generalizing value with
    | nil => rfl
    | cons path rest inductionHypothesis =>
        rw [List.foldl_cons, List.foldl_cons, mask_sorted, inductionHypothesis]
  exact sorted secretPaths config.encode

/-- Redacting hides how a secret that is set reads. -/
theorem redacted_veiled (config : Config) {extra : Fields}
    (same : maskedExtra extra = maskedExtra config.extra) :
    (config.veiled extra).redacted = config.redacted := by
  have exchange := config.exchange.maskKeys_veiled
  have apiServer : maskKeys ["password", "jwt_secret_key", "ws_token"]
      (Encode.optional ApiServer.encode (config.apiServer.map ApiServer.veiled)) =
        maskKeys ["password", "jwt_secret_key", "ws_token"]
          (Encode.optional ApiServer.encode config.apiServer) := by
    cases config.apiServer with
    | none => rfl
    | some server => exact server.maskKeys_veiled
  have telegram : maskKeys ["token", "chat_id"]
      (Encode.optional Telegram.encode (config.telegram.map Telegram.veiled)) =
        maskKeys ["token", "chat_id"] (Encode.optional Telegram.encode config.telegram) := by
    cases config.telegram with
    | none => rfl
    | some telegram => exact telegram.maskKeys_veiled
  simp only [maskKeys, List.foldl_cons, List.foldl_nil] at exchange apiServer telegram
  rw [redacted_eq, redacted_eq]
  simp only [secretPaths, List.foldl_cons, List.foldl_nil, encode, mask, maskField, String.reduceEq,
    if_false, if_true]
  simp only [veiled, exchange, apiServer, telegram]
  rw [← maskedExtra, ← maskedExtra, same]

theorem redacted_eq_of_veiled {first second : Config} (same : first.veiled [] = second.veiled [])
    (sameExtra : maskedExtra first.extra = maskedExtra second.extra) :
    first.redacted = second.redacted := by
  have sameWith : first.veiled first.extra = second.veiled first.extra :=
    congrArg (fun config : Config => { config with extra := first.extra }) same
  rw [← redacted_veiled first rfl, sameWith, redacted_veiled second sameExtra]

end Config

end BotConfig
