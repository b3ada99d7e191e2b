import BotConfig.Loader
import BotConfig.Proofs.Acceptable
import BotConfig.Proofs.Traced

/-!
Which configurations are loaded.

A document that can be decoded is loaded exactly when the configuration in it is acceptable.  The
whitelist is narrowed and credentials are removed only after the rules about them.
-/

namespace BotConfig

namespace Config

/-- What is asked of the fields and sections by themselves. -/
structure FieldsAcceptable (config : Config) : Prop where
  stakeCurrency : Text.IsVisible config.stakeCurrency
  exchange : config.exchange.Acceptable
  stake : config.stake.Acceptable
  tradableRatio : Binary64.zero false < config.tradableRatio ∧
    config.tradableRatio ≤ Binary64.one
  availableCapital : ∀ capital ∈ config.availableCapital, 0 < capital.signed
  dryRunWallet : 0 < config.dryRunWallet.signed
  marginMode : config.tradingMode ≠ .spot → ∃ mode, config.marginMode = some mode
  unfilledTimeout : config.unfilledTimeout.Acceptable
  orderTypes : config.orderTypes.Acceptable
  entryPricing : config.entryPricing.Acceptable
  exitPricing : config.exitPricing.Acceptable
  pairlists : PairlistChain.Acceptable config.pairlists
  edge : ∀ edge ∈ config.edge, edge.Acceptable
  apiServer : ∀ server ∈ config.apiServer, server.Acceptable
  telegram : ∀ telegram ∈ config.telegram, telegram.Acceptable
  internals : config.internals.Acceptable

theorem allHold_rulesOf_iff {α : Type} (rules : α → List Rule) (data : Option α) :
    Rule.AllHold (rulesOf rules data) ↔ ∀ given ∈ data, Rule.AllHold (rules given) := by
  cases data <;> simp [rulesOf]

theorem allHold_fieldRules_iff {config : Config} (staged : config.pairlists ≠ []) :
    Rule.AllHold config.fieldRules ↔ config.FieldsAcceptable := by
  simp only [fieldRules, List.cons_append, Rule.allHold_cons, Rule.allHold_append,
    Rule.allHold_nil, allHold_rulesOf_iff, Exchange.allHold_rules_iff, Stake.allHold_rules_iff,
    UnfilledTimeout.allHold_rules_iff, OrderTypes.allHold_rules_iff, Pricing.allHold_rules_iff,
    PairlistChain.allHold_rules_iff staged, Edge.allHold_rules_iff, ApiServer.allHold_rules_iff,
    Telegram.allHold_rules_iff, Internals.allHold_rules_iff, Bool.not_eq_true',
    Text.isBlankText_eq_false_iff, Binary64.isRatio_eq_true_iff, Option.all_eq_true,
    Decimal.isPositive_eq_true_iff, Bool.or_eq_true, beq_iff_eq, Option.isSome_iff_exists,
    Decidable.or_iff_not_imp_left, and_assoc, true_and]
  constructor
  · rintro ⟨stakeCurrency, exchange, stake, tradableFrom, tradableTo, availableCapital,
      dryRunWallet, marginMode, unfilledTimeout, orderTypes, entryPricing, exitPricing, pairlists,
      edge, apiServer, telegram, internals⟩
    exact ⟨stakeCurrency, exchange, stake, ⟨tradableFrom, tradableTo⟩, availableCapital,
      dryRunWallet, marginMode, unfilledTimeout, orderTypes, entryPricing, exitPricing, pairlists,
      edge, apiServer, telegram, internals⟩
  · intro acceptable
    exact ⟨acceptable.stakeCurrency, acceptable.exchange, acceptable.stake,
      acceptable.tradableRatio.1, acceptable.tradableRatio.2, acceptable.availableCapital,
      acceptable.dryRunWallet, acceptable.marginMode, acceptable.unfilledTimeout,
      acceptable.orderTypes, acceptable.entryPricing, acceptable.exitPricing,
      acceptable.pairlists, acceptable.edge, acceptable.apiServer, acceptable.telegram,
      acceptable.internals⟩

@[simp]
theorem withStages_pairlists_ne_nil (config : Config) : config.withStages.pairlists ≠ [] := by
  unfold withStages
  split
  · exact List.cons_ne_nil _ _
  · rename_i given
    simpa using given

theorem ofDocument_eq_ok_iff {document : Fields} {decoded : Config}
    (decodes : decode (.mapping document) = .ok decoded) (config : Config) :
    ofDocument document = .ok config ↔ decoded.withStages.FieldsAcceptable ∧
      config = { decoded.withStages with
        extra := extraOf document, unrecognized := unrecognizedOf document } := by
  rw [← allHold_fieldRules_iff decoded.withStages_pairlists_ne_nil,
    ← Rule.firstBroken?_eq_none_iff]
  have converted : (decode (.mapping document)).mapError ConfigError.ofFailure = .ok decoded := by
    rw [decodes]
    rfl
  simp only [ofDocument, converted, bind, Except.bind]
  cases Rule.firstBroken? decoded.withStages.fieldRules with
  | none =>
      constructor
      · rintro ⟨⟩
        exact ⟨rfl, rfl⟩
      · rintro ⟨-, rfl⟩
        rfl
  | some error =>
      constructor
      · rintro ⟨⟩
      · rintro ⟨⟨⟩, -⟩

/-! ### Rules that join sections -/

/-- A pair is quoted in the stake currency, and no pattern of the blacklist fits it. -/
structure Tradable (blacklist : List String) (currency : String) (pair : Pair) : Prop where
  quote : pair.quote = currency
  allowed : ∀ text ∈ blacklist, ∀ pattern, Pattern.ofText? text = some pattern →
    pattern.accepts pair.text = false

/-- What is asked across sections. -/
structure Consistent (config : Config) : Prop where
  credentials : config.dryRun = false → config.exchange.key ≠ "" ∧ config.exchange.secret ≠ ""
  stoploss : config.orderTypes.stoplossOnExchange = true → ∀ supported,
    StoplossSupport.orderTypes? config.exchange.name config.tradingMode = some supported →
      config.orderTypes.stoploss ∈ supported
  entrySide : config.orderTypes.entry = .market →
    config.entryPricing.side = .ask ∨ config.entryPricing.side = .other
  exitSide : config.orderTypes.exit = .market →
    config.exitPricing.side = .bid ∨ config.exitPricing.side = .other
  exitSignal : ∀ edge ∈ config.edge, edge.enabled = true → config.useExitSignal = true
  whitelist : (∃ first, config.pairlists.head? = some first ∧ first.method = .staticPairList) →
    ∃ pair ∈ config.exchange.whitelist,
      Tradable config.exchange.blacklist config.stakeCurrency pair

/-- Entries that mean nothing are not asked about. -/
theorem consistent_withExtra_iff (config : Config) (extra : Fields) (unrecognized : List String) :
    Consistent { config with extra := extra, unrecognized := unrecognized } ↔
      config.Consistent := by
  constructor
  · rintro ⟨credentials, stoploss, entrySide, exitSide, exitSignal, whitelist⟩
    exact ⟨credentials, stoploss, entrySide, exitSide, exitSignal, whitelist⟩
  · rintro ⟨credentials, stoploss, entrySide, exitSide, exitSignal, whitelist⟩
    exact ⟨credentials, stoploss, entrySide, exitSide, exitSignal, whitelist⟩

theorem succeeds_checkCredentials_iff (config : Config) :
    config.checkCredentials.Succeeds ↔
      (config.dryRun = false → config.exchange.key ≠ "" ∧ config.exchange.secret ≠ "") := by
  unfold checkCredentials
  cases config.dryRun with
  | true => simp
  | false =>
      by_cases noKey : config.exchange.key = ""
      · simp [noKey]
      · by_cases noSecret : config.exchange.secret = "" <;> simp [noKey, noSecret]

theorem succeeds_checkStoploss_iff (config : Config) :
    config.checkStoploss.Succeeds ↔
      (config.orderTypes.stoplossOnExchange = true → ∀ supported,
        StoplossSupport.orderTypes? config.exchange.name config.tradingMode = some supported →
          config.orderTypes.stoploss ∈ supported) := by
  unfold checkStoploss
  dsimp only
  cases config.orderTypes.stoplossOnExchange with
  | false => simp
  | true =>
      cases StoplossSupport.orderTypes? config.exchange.name config.tradingMode with
      | none => simp
      | some supported =>
          cases supported with
          | nil => simp
          | cons first rest =>
              by_cases holds : config.orderTypes.stoploss ∈ first :: rest <;> simp [holds]

theorem succeeds_require_iff (rules : List Rule) :
    (require rules).Succeeds ↔ Rule.AllHold rules := by
  rw [← Rule.firstBroken?_eq_none_iff]
  unfold require
  cases Rule.firstBroken? rules <;> simp

theorem allHold_priceRules_iff (config : Config) :
    Rule.AllHold config.priceRules ↔
      (config.orderTypes.entry = .market →
        config.entryPricing.side = .ask ∨ config.entryPricing.side = .other) ∧
      (config.orderTypes.exit = .market →
        config.exitPricing.side = .bid ∨ config.exitPricing.side = .other) := by
  simp only [priceRules, Rule.allHold_cons, Rule.allHold_nil, Bool.or_eq_true, bne_iff_ne, ne_eq,
    beq_iff_eq, or_assoc, Decidable.imp_iff_not_or, and_true]

theorem allHold_edgeRules_iff (config : Config) :
    Rule.AllHold config.edgeRules ↔
      ∀ edge ∈ config.edge, edge.enabled = true → config.useExitSignal = true := by
  cases sized : config.edge with
  | none => simp [edgeRules, sized]
  | some edge => cases enabled : edge.enabled <;> simp [edgeRules, sized, enabled]

/-! ### The whitelist -/

theorem patternsFrom_eq_ok_iff (position : Nat) (texts : List String) (patterns : List Pattern) :
    patternsFrom position texts = .ok patterns ↔
      (∀ text ∈ texts, Pattern.IsReadable text) ∧ patterns = texts.filterMap Pattern.ofText? := by
  induction texts generalizing position patterns with
  | nil => simp [patternsFrom, eq_comm]
  | cons text rest inductionHypothesis =>
      unfold patternsFrom
      cases reads : Pattern.ofText? text with
      | none => simp [Pattern.IsReadable, reads]
      | some pattern =>
          have readable : Pattern.IsReadable text := ⟨pattern, reads⟩
          simp only [List.forall_mem_cons, readable, true_and, List.filterMap_cons, reads]
          cases others : patternsFrom (position + 1) rest with
          | error error =>
              have broken : ¬ ∀ text ∈ rest, Pattern.IsReadable text := by
                intro allReadable
                have succeeds := (inductionHypothesis (position + 1) _).mpr ⟨allReadable, rfl⟩
                rw [others] at succeeds
                cases succeeds
              constructor
              · rintro ⟨⟩
              · rintro ⟨allReadable, -⟩
                exact absurd allReadable broken
          | ok found =>
              obtain ⟨allReadable, same⟩ := (inductionHypothesis (position + 1) found).mp others
              subst same
              constructor
              · rintro ⟨⟩
                exact ⟨allReadable, rfl⟩
              · rintro ⟨-, rfl⟩
                rfl

theorem objection?_eq_none_iff (texts : List String) (currency : String) (pair : Pair) :
    objection? (texts.filterMap Pattern.ofText?) currency pair = none ↔
      Tradable texts currency pair := by
  have allowedIff : ((texts.filterMap Pattern.ofText?).any fun pattern =>
      pattern.accepts pair.text) = false ↔ ∀ text ∈ texts, ∀ pattern,
        Pattern.ofText? text = some pattern → pattern.accepts pair.text = false := by
    simp only [List.any_eq_false, List.mem_filterMap, Bool.not_eq_true]
    constructor
    · intro allowed text listed pattern reads
      exact allowed pattern ⟨text, listed, reads⟩
    · rintro allowed pattern ⟨text, listed, reads⟩
      exact allowed text listed pattern reads
  unfold objection?
  constructor
  · intro unopposed
    split at unopposed
    · cases unopposed
    · rename_i unmatched
      split at unopposed
      · cases unopposed
      · rename_i quoted
        exact ⟨Decidable.not_not.mp quoted, allowedIff.mp (Bool.not_eq_true _ ▸ unmatched)⟩
  · rintro ⟨quote, allowed⟩
    rw [if_neg (by rw [allowedIff.mpr allowed]; decide), if_neg (Decidable.not_not.mpr quote)]

/-- The pairs of the whitelist that can be traded. -/
def keptPairs (config : Config) : List Pair :=
  config.exchange.whitelist.filter fun pair =>
    (objection? (config.exchange.blacklist.filterMap Pattern.ofText?) config.stakeCurrency
      pair).isNone

theorem mem_keptPairs_iff (config : Config) (pair : Pair) :
    pair ∈ config.keptPairs ↔ pair ∈ config.exchange.whitelist ∧
      Tradable config.exchange.blacklist config.stakeCurrency pair := by
  rw [keptPairs, List.mem_filter, Option.isNone_iff_eq_none, objection?_eq_none_iff]

theorem keptPairs_ne_nil_iff (config : Config) :
    config.keptPairs ≠ [] ↔ ∃ pair ∈ config.exchange.whitelist,
      Tradable config.exchange.blacklist config.stakeCurrency pair := by
  rw [← List.isEmpty_eq_false_iff, List.isEmpty_eq_false_iff_exists_mem]
  simp only [mem_keptPairs_iff]

theorem hasStaticList_eq_true_iff (config : Config) :
    config.hasStaticList = true ↔
      ∃ first, config.pairlists.head? = some first ∧ first.method = .staticPairList := by
  simp [hasStaticList, Option.any_eq_true]

/-- Narrowing succeeds when all patterns can be read and a static list keeps some pair. Nothing but
the whitelist changes. -/
theorem filterWhitelist_eq_ok_iff (config narrowed : Config) :
    config.filterWhitelist.outcome = .ok narrowed ↔
      (∀ text ∈ config.exchange.blacklist, Pattern.IsReadable text) ∧
      (config.hasStaticList = true → config.keptPairs ≠ []) ∧
      narrowed = { config with exchange := { config.exchange with
        whitelist := config.keptPairs } } := by
  unfold filterWhitelist
  dsimp only
  simp only [Traced.outcome_unless_eq_ok_iff, Traced.outcome_bind_eq_ok_iff,
    Traced.outcome_ofExcept, Traced.outcome_reportAll, Traced.outcome_pure,
    patternsFrom_eq_ok_iff, Bool.and_eq_false_imp, List.isEmpty_eq_false_iff]
  constructor
  · rintro ⟨-, -, ⟨readable, rfl⟩, -, -, remains, ⟨⟩⟩
    exact ⟨readable, remains, rfl⟩
  · rintro ⟨readable, remains, rfl⟩
    refine ⟨?_, _, ⟨readable, rfl⟩, (), trivial, remains, rfl⟩
    intro isStatic noPairs
    exact remains isStatic (by rw [keptPairs, noPairs]; rfl)

theorem succeeds_filterWhitelist_iff (config : Config) :
    config.filterWhitelist.Succeeds ↔
      (∀ text ∈ config.exchange.blacklist, Pattern.IsReadable text) ∧
      ((∃ first, config.pairlists.head? = some first ∧ first.method = .staticPairList) →
        ∃ pair ∈ config.exchange.whitelist,
          Tradable config.exchange.blacklist config.stakeCurrency pair) := by
  unfold Traced.Succeeds
  simp only [filterWhitelist_eq_ok_iff, hasStaticList_eq_true_iff, keptPairs_ne_nil_iff]
  constructor
  · rintro ⟨narrowed, readable, remains, -⟩
    exact ⟨readable, remains⟩
  · rintro ⟨readable, remains⟩
    exact ⟨_, readable, remains, rfl⟩

/-- The rules that join sections hold exactly when the configuration is consistent. -/
theorem succeeds_consistent_iff (config : Config) :
    config.consistent.Succeeds ↔ config.Consistent ∧
      ∀ text ∈ config.exchange.blacklist, Pattern.IsReadable text := by
  unfold consistent
  rw [Traced.succeeds_check_iff, Traced.succeeds_check_iff, Traced.succeeds_check_iff,
    Traced.succeeds_check_iff, succeeds_checkCredentials_iff, succeeds_checkStoploss_iff,
    succeeds_require_iff, succeeds_require_iff, allHold_priceRules_iff, allHold_edgeRules_iff,
    Traced.succeeds_bind_iff]
  simp only [Traced.succeeds_check_iff, Traced.succeeds_reportAll, Traced.succeeds_pure, and_true,
    and_assoc]
  have narrowing := succeeds_filterWhitelist_iff config
  unfold Traced.Succeeds at narrowing
  rw [narrowing]
  constructor
  · rintro ⟨credentials, stoploss, entrySide, exitSide, exitSignal, readable, whitelist⟩
    exact ⟨⟨credentials, stoploss, entrySide, exitSide, exitSignal, whitelist⟩, readable⟩
  · rintro ⟨⟨credentials, stoploss, entrySide, exitSide, exitSignal, whitelist⟩, readable⟩
    exact ⟨credentials, stoploss, entrySide, exitSide, exitSignal, readable, whitelist⟩

/-- A configuration that is asked nothing more of. -/
structure Acceptable (config : Config) : Prop where
  fields : config.FieldsAcceptable
  consistent : config.Consistent

end Config

namespace Loader

/-- Removing credentials always succeeds. -/
theorem succeeds_forgetCredentials (config : Config) : (forgetCredentials config).Succeeds := by
  unfold forgetCredentials
  split
  · exact (Traced.succeeds_check_iff _ _).mpr ⟨Traced.succeeds_report _, Traced.succeeds_pure _⟩
  · exact Traced.succeeds_pure _

theorem exists_decode_of_succeeds_settle {merged : Merged} (settles : (settle merged).Succeeds) :
    ∃ decoded, Config.decode (.mapping (aligned merged)) = .ok decoded := by
  obtain ⟨config, yields, _⟩ := (Traced.succeeds_bind_iff _ _).mp settles
  cases decodes : Config.decode (.mapping (aligned merged)) with
  | ok decoded => exact ⟨decoded, rfl⟩
  | error failure =>
      rw [Traced.outcome_ofExcept, Config.ofDocument, decodes] at yields
      cases yields

theorem succeeds_settle_iff {merged : Merged} {decoded : Config}
    (decodes : Config.decode (.mapping (aligned merged)) = .ok decoded) :
    (settle merged).Succeeds ↔ decoded.withStages.Acceptable := by
  unfold settle
  rw [Traced.succeeds_bind_iff]
  simp only [Traced.outcome_ofExcept, Config.ofDocument_eq_ok_iff decodes,
    Traced.succeeds_check_iff, Traced.succeeds_reportAll, true_and]
  constructor
  · rintro ⟨config, ⟨fields, rfl⟩, continues⟩
    obtain ⟨narrowed, narrows, _⟩ := (Traced.succeeds_bind_iff _ _).mp continues
    obtain ⟨consistent, _⟩ := (Config.succeeds_consistent_iff _).mp ⟨narrowed, narrows⟩
    exact ⟨fields, (Config.consistent_withExtra_iff _ _ _).mp consistent⟩
  · rintro ⟨fields, consistent⟩
    obtain ⟨narrowed, narrows⟩ := (Config.succeeds_consistent_iff _).mpr
      ⟨(Config.consistent_withExtra_iff _ (Config.extraOf (aligned merged))
        (Config.unrecognizedOf (aligned merged))).mpr consistent, fields.exchange.readable⟩
    obtain ⟨forgotten, forgets⟩ := succeeds_forgetCredentials narrowed
    refine ⟨_, ⟨fields, rfl⟩, (Traced.succeeds_bind_iff _ _).mpr ⟨narrowed, narrows, ?_⟩⟩
    exact (Traced.succeeds_bind_iff _ _).mpr ⟨forgotten, forgets, _, rfl⟩

/-- A document that can be decoded is loaded exactly when the configuration in it, with the
standard chain in place of an empty one, is acceptable. -/
theorem load_succeeds_iff_acceptable {loader : Loader} {world : World} {sources : List Source}
    {merged : Merged} {decoded : Config}
    (merges : (loader.merge world sources).outcome = .ok merged)
    (decodes : Config.decode (.mapping (aligned merged)) = .ok decoded) :
    (∃ config, (loader.load world sources).outcome = .ok config) ↔
      decoded.withStages.Acceptable := by
  rw [← succeeds_settle_iff decodes]
  change (loader.merge world sources >>= settle).Succeeds ↔ _
  rw [Traced.succeeds_bind_iff]
  constructor
  · rintro ⟨other, found, settles⟩
    rw [merges] at found
    cases found
    exact settles
  · intro settles
    exact ⟨merged, merges, settles⟩

/-- A document with a stake currency, an exchange and a pair. -/
def small : Source := .inline "small.yaml" ("max_open_trades: 3\nstake_currency: USDT\n" ++
  "exchange:\n  name: kraken\n  pair_whitelist: [BTC/USDT]")

theorem load_succeeds_iff_acceptable_small :
    ∃ merged decoded,
      (merge ⟨none⟩ ⟨fun _ => .error .notFound, []⟩ [small]).outcome = .ok merged ∧
      Config.decode (.mapping (aligned merged)) = .ok decoded ∧
      decoded.withStages.Acceptable := by
  have loads : (load ⟨none⟩ ⟨fun _ => .error .notFound, []⟩ [small]).Succeeds := by
    decide +kernel
  obtain ⟨merged, merges, settles⟩ := (Traced.succeeds_bind_iff _ _).mp loads
  obtain ⟨decoded, decodes⟩ := exists_decode_of_succeeds_settle settles
  exact ⟨merged, decoded, merges, decodes,
    (load_succeeds_iff_acceptable merges decodes).mp loads⟩

end Loader

end BotConfig
