import BotConfig.Proofs.Acceptance
import BotConfig.Proofs.Fields

/-!
Two runs of one computation.

Runs match when they end with the same error or with results that match.  A record that is decoded
from two mappings matches when all of its fields do, and computations that report match when in
addition an observer sees the same reports.
-/

namespace BotConfig

/-- Two outcomes are the same error or results that match. -/
inductive Matched {ε α β : Type} (matching : α → β → Prop) : Except ε α → Except ε β → Prop
  | ok {result : α} {other : β} : matching result other → Matched matching (.ok result) (.ok other)
  | error (error : ε) : Matched matching (.error error) (.error error)

namespace Matched

variable {ε ε' α β γ δ : Type} {matching : α → β → Prop} {first : Except ε α} {second : Except ε β}

theorem refl {matching : α → α → Prop} (reflexive : ∀ result, matching result result)
    (outcome : Except ε α) : Matched matching outcome outcome := by
  cases outcome with
  | ok result => exact .ok (reflexive result)
  | error error => exact .error error

theorem eq {first second : Except ε α} (matched : Matched Eq first second) : first = second := by
  cases matched with
  | ok same => rw [same]
  | error error => rfl

theorem mono {weaker : α → β → Prop} (matched : Matched matching first second)
    (weaken : ∀ result other, matching result other → weaker result other) :
    Matched weaker first second := by
  cases matched with
  | ok holds => exact .ok (weaken _ _ holds)
  | error error => exact .error error

theorem bind {continued : γ → δ → Prop} {next : α → Except ε γ} {otherNext : β → Except ε δ}
    (matched : Matched matching first second)
    (continues : ∀ result other, matching result other →
      Matched continued (next result) (otherNext other)) :
    Matched continued (first >>= next) (second >>= otherNext) := by
  cases matched with
  | ok holds => exact continues _ _ holds
  | error error => exact .error error

theorem mapError (matched : Matched matching first second) (change : ε → ε') :
    Matched matching (first.mapError change) (second.mapError change) := by
  cases matched with
  | ok holds => exact .ok holds
  | error error => exact .error (change error)

theorem map {changed : γ → δ → Prop} {change : α → γ} {otherChange : β → δ}
    (matched : Matched matching first second)
    (changes : ∀ result other, matching result other →
      changed (change result) (otherChange other)) :
    Matched changed (first.map change) (second.map otherChange) := by
  cases matched with
  | ok holds => exact .ok (changes _ _ holds)
  | error error => exact .error error

end Matched

/-! ### Records -/

namespace Decode

/-- Two readings are the same fault, lack the same field, or are data that match. -/
inductive Reading.Matched {α β : Type} (matching : α → β → Prop) : Reading α → Reading β → Prop
  | done {data : α} {other : β} : matching data other → Matched matching (.done data) (.done other)
  | faulty (key : String) (failure : Failure) :
      Matched matching (.faulty key failure) (.faulty key failure)
  | missing (name : String) : Matched matching (.missing name) (.missing name)

theorem Reading.Matched.refl {α : Type} (reading : Reading α) : Matched Eq reading reading := by
  cases reading with
  | done data => exact .done rfl
  | faulty key failure => exact .faulty key failure
  | missing name => exact .missing name

theorem Reading.Matched.mono {α β : Type} {matching weaker : α → β → Prop} {first : Reading α}
    {second : Reading β} (matched : Matched matching first second)
    (weaken : ∀ data other, matching data other → weaker data other) :
    Matched weaker first second := by
  cases matched with
  | done holds => exact .done (weaken _ _ holds)
  | faulty key failure => exact .faulty key failure
  | missing name => exact .missing name

theorem Reading.Matched.both {α β γ δ : Type} {inputs : α → β → Prop} {results : γ → δ → Prop}
    {first : Reading (α → γ)} {otherFirst : Reading (β → δ)} {second : Reading α}
    {otherSecond : Reading β}
    (functions : Matched (fun f g => ∀ data other, inputs data other → results (f data) (g other))
      first otherFirst)
    (arguments : Matched inputs second otherSecond) :
    Matched results (first.both second) (otherFirst.both otherSecond) := by
  cases functions with
  | done carries =>
      cases arguments with
      | done holds => exact .done (carries _ _ holds)
      | faulty key failure => exact .faulty key failure
      | missing name => exact .missing name
  | faulty key failure =>
      cases arguments with
      | done holds => exact .faulty key failure
      | faulty otherKey otherFailure =>
          simp only [Reading.both]
          split
          · exact .faulty otherKey otherFailure
          · exact .faulty key failure
      | missing name => exact .faulty key failure
  | missing name =>
      cases arguments with
      | done holds => exact .missing name
      | faulty key failure => exact .faulty key failure
      | missing other => exact .missing name

namespace Record

/-- A record is read alike from two mappings. -/
def Matched {α : Type} (matching : α → α → Prop) (record : Record α) (first second : Fields) :
    Prop :=
  Reading.Matched matching (record.fromFields first) (record.fromFields second)

variable {α β : Type} {first second : Fields}

theorem Matched.pure {matching : α → α → Prop} {data : α} (holds : matching data data) :
    Matched matching (Pure.pure data) first second := .done holds

theorem Matched.seq {inputs : α → α → Prop} {results : β → β → Prop} {function : Record (α → β)}
    {argument : Record α}
    (functions : Matched (fun f g => ∀ data other, inputs data other → results (f data) (g other))
      function first second)
    (arguments : Matched inputs argument first second) :
    Matched results (function <*> argument) first second :=
  Reading.Matched.both functions arguments

/-- One more part that is read the same. -/
theorem Matched.seqSame {results : β → β → Prop} {function : Record (α → β)} {argument : Record α}
    (functions : Matched (fun f g => ∀ data, results (f data) (g data)) function first second)
    (arguments : Matched Eq argument first second) :
    Matched results (function <*> argument) first second := by
  refine .seq (Reading.Matched.mono functions ?_) arguments
  rintro f g holds data _ rfl
  exact holds data

theorem Matched.mapSame {results : β → β → Prop} {function : α → β} {argument : Record α}
    (functions : ∀ data, results (function data) (function data))
    (arguments : Matched Eq argument first second) :
    Matched results (function <$> argument) first second :=
  .seqSame (.pure functions) arguments

/-- A field is read the same where the same stands at its key. -/
theorem Matched.field {α : Type} {name : String} {decode : Decoder α} {fallback : Option α}
    (same : Fields.get? name first = Fields.get? name second) :
    Matched Eq (field name decode fallback) first second := by
  have sameReading : (Record.field name decode fallback).fromFields first =
      (Record.field name decode fallback).fromFields second := by
    simp only [Record.field, same]
  rw [Matched, sameReading]
  exact .refl _

/-- A field is read alike where values that are decoded alike stand at its key. -/
theorem Matched.field_of_decode {α : Type} {matching : α → α → Prop} {name : String}
    {decode : Decoder α} {fallback : Option α} {value other : Value}
    (found : Fields.get? name first = some value)
    (otherFound : Fields.get? name second = some other)
    (decodes : BotConfig.Matched matching (decode value) (decode other)) :
    Matched matching (Record.field name decode fallback) first second := by
  simp only [Matched, Record.field, found, otherFound, present]
  generalize decode value = decoded, decode other = otherDecoded at decodes
  cases decodes with
  | ok holds => exact .done holds
  | error failure => exact .faulty name _

theorem Matched.spelledTwoWays {α : Type} {name spelling : String} {decode : Decoder α}
    {fallback : α} (same : Fields.get? name first = Fields.get? name second)
    (sameSpelled : Fields.get? spelling first = Fields.get? spelling second) :
    Matched Eq (spelledTwoWays name spelling decode fallback) first second := by
  have sameReading : (Record.spelledTwoWays name spelling decode fallback).fromFields first =
      (Record.spelledTwoWays name spelling decode fallback).fromFields second := by
    simp only [Record.spelledTwoWays, same, sameSpelled]
  rw [Matched, sameReading]
  exact .refl _

theorem Matched.decoder {α : Type} {matching : α → α → Prop} {record : Record α}
    (matched : Matched matching record first second) (name : String) :
    BotConfig.Matched matching (record.decoder name (.mapping first))
      (record.decoder name (.mapping second)) := by
  unfold Matched at matched
  simp only [Record.decoder]
  generalize record.fromFields first = reading, record.fromFields second = otherReading at matched
  cases matched with
  | done holds => exact .ok holds
  | faulty key failure => exact .error failure
  | missing field => exact .error _

end Record

end Decode

/-! ### Computations that report -/

/-- An observer sees the same reports of two computations, and their outcomes match. -/
structure Traced.Matched {α β γ : Type} (seen : Log.Entry → Option γ) (matching : α → β → Prop)
    (first : Traced α) (second : Traced β) : Prop where
  log : first.log.filterMap seen = second.log.filterMap seen
  outcome : BotConfig.Matched matching first.outcome second.outcome

namespace Traced

variable {α β γ δ ε : Type} {seen : Log.Entry → Option ε} {matching : α → β → Prop}

theorem Matched.refl {matching : α → α → Prop} (reflexive : ∀ result, matching result result)
    (computation : Traced α) : Matched seen matching computation computation :=
  ⟨rfl, .refl reflexive computation.outcome⟩

theorem Matched.bind {first : Traced α} {second : Traced β} {next : α → Traced γ}
    {otherNext : β → Traced δ} {continued : γ → δ → Prop}
    (matched : Matched seen matching first second)
    (continues : ∀ result other, matching result other →
      Matched seen continued (next result) (otherNext other)) :
    Matched seen continued (first >>= next) (second >>= otherNext) := by
  rcases first with ⟨log, outcome⟩
  rcases second with ⟨otherLog, otherOutcome⟩
  obtain ⟨sameLog, outcomesMatch⟩ := matched
  cases outcomesMatch with
  | error error => exact ⟨sameLog, .error error⟩
  | @ok result other holds =>
      obtain ⟨sameRest, restMatches⟩ := continues result other holds
      refine ⟨?_, restMatches⟩
      change (log ++ (next result).log).filterMap seen =
        (otherLog ++ (otherNext other).log).filterMap seen
      rw [List.filterMap_append, List.filterMap_append, sameRest]
      exact congrArg (· ++ _) sameLog

theorem Matched.pure {result : α} {other : β} (holds : matching result other) :
    Matched seen matching (Pure.pure result) (Pure.pure other) := ⟨rfl, .ok holds⟩

theorem Matched.reportAll {entries others : List Log.Entry}
    (same : entries.filterMap seen = others.filterMap seen) :
    Matched seen Eq (reportAll entries) (reportAll others) := ⟨same, .ok rfl⟩

theorem Matched.ofExcept {outcome : Except ConfigError α} {other : Except ConfigError β}
    (matched : BotConfig.Matched matching outcome other) :
    Matched seen matching (ofExcept outcome) (ofExcept other) := ⟨rfl, matched⟩

end Traced

/-! ### Configurations -/

namespace Config

/-- Configurations that differ at most in four places, and there only as they may. -/
structure Paired (dryRun : Bool → Bool → Prop) (exchange : Exchange → Exchange → Prop)
    (apiServer : Option ApiServer → Option ApiServer → Prop)
    (telegram : Option Telegram → Option Telegram → Prop) (first second : Config) : Prop where
  dryRun : dryRun first.dryRun second.dryRun
  exchange : exchange first.exchange second.exchange
  apiServer : apiServer first.apiServer second.apiServer
  telegram : telegram first.telegram second.telegram
  rest : second = { first with
    dryRun := second.dryRun, exchange := second.exchange, apiServer := second.apiServer,
    telegram := second.telegram }

theorem Paired.eq {first second : Config} (paired : Paired Eq Eq Eq Eq first second) :
    first = second := by
  rw [paired.rest, ← paired.dryRun, ← paired.exchange, ← paired.apiServer, ← paired.telegram]

/-- The keys where paired configurations may differ. -/
def pairedKeys : List String := ["dry_run", "exchange", "api_server", "telegram"]

/-- Documents that hold the same at all other keys are decoded to configurations that differ at most
in what is decoded from the four keys. -/
theorem matched_decode {dryRun : Bool → Bool → Prop} {exchange : Exchange → Exchange → Prop}
    {apiServer : Option ApiServer → Option ApiServer → Prop}
    {telegram : Option Telegram → Option Telegram → Prop} {first second : Fields}
    (same : ∀ key ∈ modeledKeys, key ∉ pairedKeys → Fields.get? key first = Fields.get? key second)
    (dryRunMatched : Decode.Record.Matched dryRun
      (.defaulted "dry_run" Decode.boolean true) first second)
    (exchangeMatched : Decode.Record.Matched exchange
      (.defaulted "exchange" Exchange.decode .absent) first second)
    (apiServerMatched : Decode.Record.Matched apiServer
      (.defaulted "api_server" (Decode.optional ApiServer.decode) none) first second)
    (telegramMatched : Decode.Record.Matched telegram
      (.defaulted "telegram" (Decode.optional Telegram.decode) none) first second) :
    Matched (Paired dryRun exchange apiServer telegram) (decode (.mapping first))
      (decode (.mapping second)) := by
  have field {α : Type} (name : String) {decode : Decode.Decoder α} {fallback : Option α}
      (modeled : name ∈ modeledKeys ∧ name ∉ pairedKeys) :
      Decode.Record.Matched Eq (.field name decode fallback) first second :=
    .field (same name modeled.1 modeled.2)
  refine Decode.Record.Matched.decoder ?_ "TradingConfig"
  unfold record
  -- From the last field back to the first one.
  refine .seqSame (.seqSame (.seqSame ?_ (.pure rfl)) (.pure rfl)) (.pure rfl)
  refine .seqSame ?_ (field "internals" (by decide))
  refine .seqSame ?_ (field "force_entry_enable" (by decide))
  refine .seqSame ?_ (field "initial_state" (by decide))
  refine .seq (.seq ?_ apiServerMatched) telegramMatched
  refine .seqSame ?_ (field "edge" (by decide))
  refine .seqSame ?_ (field "pairlists" (by decide))
  refine .seq ?_ exchangeMatched
  refine .seqSame ?_ (field "exit_pricing" (by decide))
  refine .seqSame ?_ (field "entry_pricing" (by decide))
  refine .seqSame ?_ (field "order_time_in_force" (by decide))
  refine .seqSame ?_ (field "order_types" (by decide))
  refine .seqSame ?_ (field "unfilledtimeout" (by decide))
  refine .seqSame ?_ (field "use_exit_signal" (by decide))
  refine .seqSame ?_ (field "cancel_open_orders_on_exit" (by decide))
  refine .seqSame ?_ (field "fiat_display_currency" (by decide))
  refine .seqSame ?_ (field "margin_mode" (by decide))
  refine .seqSame ?_ (field "trading_mode" (by decide))
  refine .seqSame ?_ (field "dry_run_wallet" (by decide))
  refine .seq ?_ dryRunMatched
  refine .seqSame ?_ (field "available_capital" (by decide))
  refine .seqSame ?_ (field "tradable_balance_ratio" (by decide))
  refine .seqSame ?_ (field "stake_amount" (by decide))
  refine .seqSame ?_ (field "stake_currency" (by decide))
  refine .seqSame ?_ (field "max_open_trades" (by decide))
  refine .mapSame ?_ (field "bot_name" (by decide))
  intro botName maxOpenTrades stakeCurrency stake ratio capital _ _ dryRuns wallet tradingMode
    marginMode currency cancel useExitSignal timeout orderTypes timeInForce entryPricing exitPricing
    _ _ exchanges pairlists edge _ _ apiServers _ _ telegrams initialState forced internals
    extra unrecognized files
  exact ⟨dryRuns, exchanges, apiServers, telegrams, rfl⟩

/-! ### Entries that mean nothing -/

theorem get?_extraOf (key : String) (document : Fields) :
    Fields.get? key (extraOf document) =
      if key ∈ modeledKeys then none else Fields.get? key document := by
  induction document with
  | nil => simp [extraOf]
  | cons entry rest inductionHypothesis =>
      rcases entry with ⟨name, value⟩
      unfold extraOf at inductionHypothesis ⊢
      by_cases modeled : name ∈ modeledKeys
      · rw [List.filter_cons_of_neg (by simpa using modeled), inductionHypothesis,
          Fields.get?_cons]
        by_cases here : name = key
        · rw [← here, if_pos modeled, if_pos modeled]
        · rw [if_neg here]
      · rw [List.filter_cons_of_pos (by simpa using modeled), Fields.get?_cons, Fields.get?_cons,
          inductionHypothesis]
        by_cases here : name = key
        · rw [← here, if_pos rfl, if_neg modeled, if_pos rfl]
        · rw [if_neg here, if_neg here]

theorem ascending_extraOf {document : Fields} (ascending : document.Ascending) :
    (extraOf document).Ascending := by
  have sublist : (extraOf document).keys.Sublist document.keys :=
    (List.filter_sublist).map Prod.fst
  exact ascending.sublist sublist

/-- Documents that hold the same where nothing is decoded have the same entries there. -/
theorem extraOf_congr {first second : Fields} (ascending : first.Ascending)
    (otherAscending : second.Ascending)
    (same : ∀ key, key ∉ modeledKeys → Fields.get? key first = Fields.get? key second) :
    extraOf first = extraOf second := by
  apply Fields.eq_of_get?_eq (ascending_extraOf ascending) (ascending_extraOf otherAscending)
  intro key
  rw [get?_extraOf, get?_extraOf]
  split
  · rfl
  · rename_i outside
    exact same key outside

/-! ### Rules -/

/-- A decoded configuration with the entries that mean nothing. -/
def completed (document : Fields) (config : Config) : Config :=
  { config.withStages with
    extra := extraOf document, unrecognized := unrecognizedOf document }

/-- A decoded configuration is complete if its fields keep their rules. -/
def complete (document : Fields) (config : Config) : Except ConfigError Config :=
  match Rule.firstBroken? config.withStages.fieldRules with
  | some error => .error error
  | none => .ok (completed document config)

theorem ofDocument_eq (document : Fields) :
    ofDocument document =
      (decode (.mapping document)).mapError ConfigError.ofFailure >>= complete document := by
  unfold ofDocument
  congr 1
  funext config
  dsimp only [complete]
  cases Rule.firstBroken? config.withStages.fieldRules <;> rfl

/-- What a document is read as has been decoded from it and is complete. -/
theorem exists_completed {document : Fields} {config : Config}
    (reads : ofDocument document = .ok config) :
    ∃ decoded, decode (.mapping document) = .ok decoded ∧ config = completed document decoded := by
  rw [ofDocument_eq] at reads
  cases decodes : decode (.mapping document) with
  | error failure =>
      rw [decodes] at reads
      cases reads
  | ok decoded =>
      rw [decodes] at reads
      change complete document decoded = .ok config at reads
      unfold complete at reads
      split at reads
      · cases reads
      · exact ⟨decoded, rfl, (Except.ok.inj reads).symm⟩

theorem matched_ofDocument {decoding matching : Config → Config → Prop} {first second : Fields}
    (decodes : Matched decoding (decode (.mapping first)) (decode (.mapping second)))
    (rules : ∀ config other, decoding config other →
      config.withStages.fieldRules = other.withStages.fieldRules)
    (completes : ∀ config other, decoding config other →
      Rule.AllHold config.withStages.fieldRules →
        matching (completed first config) (completed second other)) :
    Matched matching (ofDocument first) (ofDocument second) := by
  rw [ofDocument_eq, ofDocument_eq]
  refine (decodes.mapError ConfigError.ofFailure).bind fun config other decoded => ?_
  unfold complete
  rw [← rules config other decoded]
  cases broken : Rule.firstBroken? config.withStages.fieldRules with
  | some error => exact .error error
  | none => exact .ok (completes config other decoded ((Rule.firstBroken?_eq_none_iff _).mp broken))

/-- A configuration without anything that may be a secret. -/
def unsecret (config : Config) : Config :=
  { config with
    exchange := config.exchange.withoutCredentials, apiServer := none, telegram := none,
    extra := [] }

theorem eq_of_unsecret {α : Type} {first second : Config}
    (same : first.unsecret = second.unsecret) (view : Config → α)
    (isPublic : ∀ config, view config.unsecret = view config) : view first = view second := by
  rw [← isPublic first, same, isPublic second]

/-- The pairs that are left of a whitelist. -/
def narrowed (isStatic : Bool) (pairs : List Pair) (blacklist : List String) (currency : String) :
    Traced (List Pair) := do
  if isStatic && pairs.isEmpty then Traced.fail (.missing whitelistPath)
  let patterns ← Traced.ofExcept (patternsFrom 0 blacklist)
  Traced.reportAll (pairs.filterMap (objection? patterns currency))
  let kept := pairs.filter fun pair => (objection? patterns currency pair).isNone
  if isStatic && kept.isEmpty then Traced.fail (.invalid whitelistPath (.pairsLeft currency))
  return kept

theorem filterWhitelist_eq (config : Config) :
    config.filterWhitelist = do
      let kept ← narrowed config.hasStaticList config.exchange.whitelist config.exchange.blacklist
        config.stakeCurrency
      return { config with exchange := { config.exchange with whitelist := kept } } := by
  unfold filterWhitelist narrowed
  dsimp only
  split
  · rfl
  · simp only [bind_assoc]
    congr 1
    funext patterns
    congr 1
    funext _
    split
    · rfl
    · rfl

/-- The rules that join sections look at no secret but the credentials and the settings of the
server. -/
theorem matched_consistent {ε : Type} {seen : Log.Entry → Option ε}
    {matching : Config → Config → Prop} {first second : Config}
    (same : first.unsecret = second.unsecret)
    (credentials : Traced.Matched seen Eq first.checkCredentials second.checkCredentials)
    (access : first.remoteAccess.filterMap seen = second.remoteAccess.filterMap seen)
    (narrowed : ∀ kept,
      matching { first with exchange := { first.exchange with whitelist := kept } }
        { second with exchange := { second.exchange with whitelist := kept } }) :
    Traced.Matched seen matching first.consistent second.consistent := by
  have stoploss := eq_of_unsecret same checkStoploss fun _ => rfl
  have price := eq_of_unsecret same priceRules fun _ => rfl
  have edge := eq_of_unsecret same edgeRules fun _ => rfl
  have whitelist := eq_of_unsecret same (fun config => Config.narrowed config.hasStaticList
    config.exchange.whitelist config.exchange.blacklist config.stakeCurrency) fun _ => rfl
  unfold consistent
  refine credentials.bind fun _ _ _ => ?_
  rw [stoploss, price, edge, filterWhitelist_eq first, filterWhitelist_eq second, whitelist]
  refine (Traced.Matched.refl (fun _ => rfl) _).bind fun _ _ (_ : _ = _) => ?_
  refine (Traced.Matched.refl (fun _ => rfl) _).bind fun _ _ (_ : _ = _) => ?_
  refine (Traced.Matched.refl (fun _ => rfl) _).bind fun _ _ (_ : _ = _) => ?_
  simp only [bind_assoc, pure_bind]
  refine (Traced.Matched.refl (fun _ => rfl) _).bind fun kept other (sameKept : kept = other) => ?_
  subst sameKept
  exact (Traced.Matched.reportAll access).bind fun _ _ _ => .pure (narrowed kept)

end Config

end BotConfig
