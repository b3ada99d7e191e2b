import BotConfig.Proofs.Matching
import BotConfig.Proofs.Redaction

/-!
What shows of a configuration while it is loaded.

Rules, reports and the search for overrides that lead to no field see of a secret only whether it
is set, and of the entries that mean nothing only their keys.
-/

namespace BotConfig

namespace Value

/-! ### Skeletons -/

mutual

/-- The keys of mappings inside each other, without any other value. -/
def skeleton : Value → Value
  | .mapping fields => .mapping (skeletonFields fields)
  | _ => .null

/-- The keys of entries, with the skeletons of their values. -/
def skeletonFields : List (String × Value) → Fields
  | [] => []
  | (key, value) :: rest => (key, value.skeleton) :: skeletonFields rest

end

theorem skeletonFields_insert (key : String) (value : Value) (fields : Fields) :
    skeletonFields (Fields.insert key value fields) =
      Fields.insert key value.skeleton (skeletonFields fields) := by
  induction fields with
  | nil => rfl
  | cons entry rest inductionHypothesis =>
      rcases entry with ⟨name, old⟩
      simp only [Fields.insert, skeletonFields]
      split
      · rfl
      · split
        · rfl
        · rw [skeletonFields, inductionHypothesis]

mutual

theorem skeleton_sorted (value : Value) : value.sorted.skeleton = value.skeleton.sorted := by
  cases value with
  | mapping fields =>
      rw [sorted, skeleton, skeletonFields_sorted, skeleton, sorted]
  | _ => rfl

theorem skeletonFields_sorted (fields : List (String × Value)) :
    skeletonFields (sortedFields fields) = sortedFields (skeletonFields fields) := by
  rcases fields with _ | ⟨⟨key, value⟩, rest⟩
  · rfl
  · rw [sortedFields, skeletonFields_insert, skeletonFields_sorted, skeleton_sorted,
      skeletonFields, sortedFields]

end

mutual

theorem skeleton_skeleton (value : Value) : value.skeleton.skeleton = value.skeleton := by
  cases value with
  | mapping fields => rw [skeleton, skeleton, skeletonFields_skeletonFields]
  | _ => rfl

theorem skeletonFields_skeletonFields (fields : List (String × Value)) :
    skeletonFields (skeletonFields fields) = skeletonFields fields := by
  rcases fields with _ | ⟨⟨key, value⟩, rest⟩
  · rfl
  · rw [skeletonFields, skeletonFields, skeleton_skeleton, skeletonFields_skeletonFields]

end

theorem get?_skeletonFields (key : String) (fields : Fields) :
    Fields.get? key (skeletonFields fields) = (Fields.get? key fields).map skeleton := by
  induction fields with
  | nil => rfl
  | cons entry rest inductionHypothesis =>
      rcases entry with ⟨name, value⟩
      rw [skeletonFields, Fields.get?_cons, Fields.get?_cons, inductionHypothesis]
      split <;> rfl

theorem keys_skeletonFields (fields : Fields) :
    Fields.keys (skeletonFields fields) = fields.keys := by
  induction fields with
  | nil => rfl
  | cons entry rest inductionHypothesis =>
      rw [skeletonFields, Fields.keys_cons, Fields.keys_cons, inductionHypothesis]

end Value

open Value

/-- Where a path leads depends on keys alone. -/
theorem Key.resolves_skeleton (path : List String) (value : Value) :
    resolves path value.skeleton = resolves path value := by
  induction path generalizing value with
  | nil => rfl
  | cons key rest inductionHypothesis =>
      cases value with
      | mapping fields =>
          rw [skeleton, resolves, resolves]
          induction fields with
          | nil => rfl
          | cons entry others fieldsHypothesis =>
              rw [skeletonFields, List.any_cons, List.any_cons, inductionHypothesis,
                fieldsHypothesis]
      | _ => rfl

/-- What the log of a session shows of an entry. -/
def Log.Entry.shown? (entry : Log.Entry) :
    Option (Log.Level × Log.Origin × String × List (String × Log.Detail)) :=
  if entry.level.rank ≤ Log.Level.info.rank then
    some (entry.level, entry.origin, entry.message, entry.details)
  else none

namespace Config

/-- A configuration as its loading shows it. -/
def cloaked (config : Config) : Config := config.veiled (skeletonFields config.extra)

/-! ### One configuration -/

theorem cloaked_withStages (config : Config) :
    config.withStages.cloaked = config.cloaked.withStages := by
  unfold withStages cloaked veiled
  dsimp only
  split <;> rfl

theorem rules_veiled_apiServer (server : ApiServer) : server.veiled.rules = server.rules := by
  simp only [ApiServer.rules, ApiServer.veiled, Redaction.isEmpty_veil]

theorem rules_veiled_telegram (telegram : Telegram) :
    telegram.veiled.rules = telegram.rules := by
  simp only [Telegram.rules, Telegram.veiled, Redaction.isEmpty_veil]

theorem fieldRules_cloaked (config : Config) : config.cloaked.fieldRules = config.fieldRules := by
  have apiServer : rulesOf ApiServer.rules (config.apiServer.map ApiServer.veiled) =
      rulesOf ApiServer.rules config.apiServer := by
    cases config.apiServer with
    | none => rfl
    | some server => exact rules_veiled_apiServer server
  have telegram : rulesOf Telegram.rules (config.telegram.map Telegram.veiled) =
      rulesOf Telegram.rules config.telegram := by
    cases config.telegram with
    | none => rfl
    | some telegram => exact rules_veiled_telegram telegram
  simp only [fieldRules, cloaked, veiled, apiServer, telegram]
  rfl

theorem checkCredentials_cloaked (config : Config) :
    config.cloaked.checkCredentials = config.checkCredentials := by
  simp only [checkCredentials, cloaked, veiled, Exchange.veiled, Redaction.isEmpty_veil]

theorem holdsCredential_veiled (exchange : Exchange) :
    exchange.veiled.holdsCredential = exchange.holdsCredential := by
  simp only [Exchange.holdsCredential, Exchange.veiled, Redaction.isEmpty_veil, Option.isSome_map]

theorem remoteAccess_cloaked (config : Config) :
    config.cloaked.remoteAccess.filterMap Log.Entry.shown? =
      config.remoteAccess.filterMap Log.Entry.shown? := by
  simp only [remoteAccess, cloaked, veiled]
  cases config.apiServer with
  | none => rfl
  | some server =>
      have exposed : server.veiled.isExposed = server.isExposed := rfl
      have enabled : server.veiled.enabled = server.enabled := rfl
      have tokenKey : server.veiled.tokenKey.isNone = server.tokenKey.isNone := Option.isNone_map
      have shown : (Log.Entry.exposed server.veiled).shown? = (Log.Entry.exposed server).shown? :=
        rfl
      simp only [Option.map_some, exposed, enabled, tokenKey]
      split
      · rw [List.filterMap_append, List.filterMap_append]
        split
        · rw [List.filterMap_cons, List.filterMap_cons, shown]
        · rfl
      · rfl

theorem skeleton_veiled_exchange (exchange : Exchange) :
    exchange.veiled.encode.skeleton = exchange.encode.skeleton := by
  rcases exchange with ⟨name, key, secret, password, uid⟩
  cases password <;> cases uid <;> rfl

theorem skeleton_veiled_apiServer (server : ApiServer) :
    server.veiled.encode.skeleton = server.encode.skeleton := by
  rcases server with ⟨enabled, address, port, username, password, tokenKey⟩
  cases tokenKey <;> rfl

/-- What a path of an override leads to does not depend on secrets. -/
theorem resolves_cloaked (config : Config) (path : List String) :
    Key.resolves path config.cloaked.toValue = Key.resolves path config.toValue := by
  have apiServer : (Encode.optional ApiServer.encode
      (config.apiServer.map ApiServer.veiled)).skeleton =
        (Encode.optional ApiServer.encode config.apiServer).skeleton := by
    cases config.apiServer with
    | none => rfl
    | some server => exact skeleton_veiled_apiServer server
  have telegram : (Encode.optional Telegram.encode
      (config.telegram.map Telegram.veiled)).skeleton =
        (Encode.optional Telegram.encode config.telegram).skeleton := by
    cases config.telegram <;> rfl
  have skeletons : config.cloaked.encode.skeleton = config.encode.skeleton := by
    simp only [cloaked, veiled, encode, skeleton, skeletonFields, skeletonFields_skeletonFields,
      skeleton_veiled_exchange, apiServer, telegram]
  rw [← Key.resolves_skeleton, ← Key.resolves_skeleton path config.toValue, toValue, toValue,
    skeleton_sorted, skeleton_sorted, skeletons]

theorem resolves_cloaked_extra (config : Config) (path : List String) :
    Key.resolves path (.mapping config.cloaked.extra) =
      Key.resolves path (.mapping config.extra) := by
  have skeletons : (Value.mapping config.cloaked.extra) = (Value.mapping config.extra).skeleton :=
    rfl
  rw [skeletons, Key.resolves_skeleton]

/-! ### Two configurations -/

/-- What shows of configurations that show the same. -/
theorem view_eq_of_cloaked {α : Type} {first second : Config}
    (same : first.cloaked = second.cloaked) (view : Config → α)
    (isShown : ∀ config, view config.cloaked = view config) : view first = view second := by
  rw [← isShown first, same, isShown second]

theorem matched_consistent_of_cloaked {matching : Config → Config → Prop} {first second : Config}
    (same : first.cloaked = second.cloaked)
    (narrowed : ∀ kept,
      matching { first with exchange := { first.exchange with whitelist := kept } }
        { second with exchange := { second.exchange with whitelist := kept } }) :
    Traced.Matched Log.Entry.shown? matching first.consistent second.consistent := by
  refine matched_consistent (view_eq_of_cloaked same unsecret fun _ => rfl) ?_ ?_ narrowed
  · rw [view_eq_of_cloaked same checkCredentials checkCredentials_cloaked]
    exact .refl (fun _ => rfl) _
  · exact view_eq_of_cloaked same (fun config => config.remoteAccess.filterMap Log.Entry.shown?)
      remoteAccess_cloaked

end Config

namespace Loader

theorem filterMap_shown_unused (config : Config) (overrides : List Override) :
    ((unused config overrides).map Log.Entry.unusedOverride).filterMap Log.Entry.shown? =
      ((overrides.map Override.path).filter fun path =>
        !Key.resolves path config.toValue && !Key.resolves path (.mapping config.extra)).map
        fun path => (.warn, .loading,
          "Environment override does not match any config field, ignoring it",
          [("field", .bare (String.intercalate "." path))]) := by
  have shown : Log.Entry.shown? ∘ Log.Entry.unusedOverride = fun override =>
      some (.warn, .loading, "Environment override does not match any config field, ignoring it",
        [("field", .bare (String.intercalate "." override.path))]) := rfl
  rw [List.filterMap_map, shown, List.filterMap_eq_map', List.filter_map, List.map_map]
  rfl

/-- Overrides with the same paths lead to no field in both configurations or in neither. -/
theorem shown_unused_eq {first second : Config} (same : first.cloaked = second.cloaked)
    {overrides others : List Override}
    (samePaths : overrides.map Override.path = others.map Override.path) :
    ((unused first overrides).map Log.Entry.unusedOverride).filterMap Log.Entry.shown? =
      ((unused second others).map Log.Entry.unusedOverride).filterMap Log.Entry.shown? := by
  have sameFilter := Config.view_eq_of_cloaked same
    (fun config path =>
      !Key.resolves path config.toValue && !Key.resolves path (.mapping config.extra))
    fun config => by
      funext path
      rw [config.resolves_cloaked, config.resolves_cloaked_extra]
  rw [filterMap_shown_unused, filterMap_shown_unused, samePaths, sameFilter]

end Loader

end BotConfig
