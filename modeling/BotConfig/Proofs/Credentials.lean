import BotConfig.Proofs.Alike
import BotConfig.Proofs.Matching

/-!
Simulations forget credentials.

Documents that differ in nothing but the credentials of the exchange are decoded to configurations
that differ in nothing else, no rule of a simulation looks at a credential, and none is left when
the configuration is complete.  If an override moves the section of the exchange away, what is
decoded has no exchange at all and is refused.
-/

namespace BotConfig

/-- A text, a number or a truth value. -/
inductive Value.Plain : Value → Prop
  | text (content : String) : Plain (.text content)
  | number (value : Number) : Plain (.number value)
  | boolean (flag : Bool) : Plain (.boolean flag)

instance : DecidablePred Value.Plain
  | .text content => isTrue (.text content)
  | .number value => isTrue (.number value)
  | .boolean flag => isTrue (.boolean flag)
  | .null => isFalse nofun
  | .list _ => isFalse nofun
  | .mapping _ => isFalse nofun

theorem Value.Plain.alignIn {value : Value} (plain : value.Plain) (path : List String) :
    Key.alignIn path value = value := by
  cases plain <;> rfl

theorem Value.Plain.freeText {value : Value} (plain : value.Plain) :
    ∃ content, Decode.freeText value = .ok content := by
  cases plain with
  | text content => exact ⟨content, rfl⟩
  | number value => exact ⟨value.text, rfl⟩
  | boolean flag => exact ⟨toString flag, rfl⟩

theorem Value.Plain.optionalFreeText {value : Value} (plain : value.Plain) :
    ∃ content, Decode.optionalFreeText value = .ok content := by
  obtain ⟨content, reads⟩ := plain.freeText
  exact ⟨if content.isEmpty then none else some content, by
    simp [Decode.optionalFreeText, reads, Except.map]⟩

/-- A plain value at a key in lower case stays where it is or is taken away. -/
theorem Key.plain_get?_align {key : String} {path : List String} (keyLower : IsLower key)
    (lower : ∀ name ∈ path, IsLower name) {fields : Fields} (ordered : fields.Ordered)
    {accepts : Value → Prop} (plain : ∀ value, accepts value → value.Plain)
    (accepted : ∀ value ∈ Fields.get? key fields, accepts value) :
    ∀ value ∈ Fields.get? key (align path fields), accepts value := by
  intro value found
  obtain none | mapped := get?_align_of_isLower keyLower lower ordered
  · rw [none] at found
    cases found
  · rw [mapped, Option.mem_def, Option.map_eq_some_iff] at found
    obtain ⟨original, originalFound, rfl⟩ := found
    have originalAccepted := accepted original originalFound
    rw [(plain original originalAccepted).alignIn]
    exact originalAccepted

/-! ### The section of the exchange -/

namespace Exchange

/-- The keys of credentials. -/
def credentialKeys : List String := ["key", "secret", "password", "uid"]

/-- Sections that hold the same at keys that are not hidden, and nothing or plain values as
credentials. -/
structure SameBut (hidden : String → Prop) (first second : Fields) : Prop where
  same : ∀ key, ¬ hidden key → Fields.get? key first = Fields.get? key second
  plain : ∀ key ∈ credentialKeys, ∀ value ∈ Fields.get? key first, value.Plain
  otherPlain : ∀ key ∈ credentialKeys, ∀ value ∈ Fields.get? key second, value.Plain

/-- The key of a credential in any spelling. -/
def SpellsCredential (key : String) : Prop :=
  ∃ credential ∈ credentialKeys, Key.folded key = Key.folded credential

instance : DecidablePred SpellsCredential :=
  fun key => inferInstanceAs (Decidable (∃ credential ∈ credentialKeys,
    Key.folded key = Key.folded credential))

theorem isLower_credentialKeys : ∀ key ∈ credentialKeys, Key.IsLower key := by
  simp only [Key.IsLower]
  decide

theorem SameBut.loosen {first second : Fields} (same : SameBut (· ∈ credentialKeys) first second) :
    SameBut SpellsCredential first second :=
  ⟨fun key other => same.same key fun membership => other ⟨key, membership, rfl⟩, same.plain,
    same.otherPlain⟩

theorem SameBut.align {first second : Fields} (same : SameBut SpellsCredential first second)
    (ordered : first.Ordered) (otherOrdered : second.Ordered) {path : List String}
    (lower : ∀ name ∈ path, Key.IsLower name) :
    SameBut SpellsCredential (Key.align path first) (Key.align path second) := by
  refine ⟨?_, ?_, ?_⟩
  · intro key other
    refine Fields.get?_align_congr ordered otherOrdered (fun spelling folds => ?_) path
    refine same.same spelling ?_
    rintro ⟨credential, membership, folded⟩
    exact other ⟨credential, membership, folds.symm.trans folded⟩
  · intro key membership
    exact Key.plain_get?_align (isLower_credentialKeys key membership) lower ordered
      (fun _ plain => plain) (same.plain key membership)
  · intro key membership
    exact Key.plain_get?_align (isLower_credentialKeys key membership) lower otherOrdered
      (fun _ plain => plain) (same.otherPlain key membership)

theorem withoutCredentials_eq {exchange : Exchange} (none : exchange.holdsCredential = false) :
    exchange.withoutCredentials = exchange := by
  rcases exchange with ⟨name, key, secret, password, uid⟩
  simp only [holdsCredential, Bool.or_eq_false_iff, Bool.not_eq_false', String.isEmpty_iff,
    Option.isSome_eq_false_iff, Option.isNone_iff_eq_none] at none
  obtain ⟨⟨⟨rfl, rfl⟩, rfl⟩, rfl⟩ := none
  rfl

/-- A credential is read from plain values and from nothing. -/
theorem matched_credential {α : Type} {first second : Fields} {name : String}
    {decode : Decode.Decoder α} {fallback : α}
    (reads : ∀ value, value.Plain → ∃ data, decode value = .ok data)
    (plain : ∀ value ∈ Fields.get? name first, value.Plain)
    (otherPlain : ∀ value ∈ Fields.get? name second, value.Plain) :
    Decode.Record.Matched (fun _ _ => True) (.defaulted name decode fallback) first second := by
  have done (fields : Fields) (plain : ∀ value ∈ Fields.get? name fields, value.Plain) :
      ∃ data, (Decode.Record.defaulted name decode fallback).fromFields fields = .done data := by
    simp only [Decode.Record.defaulted, Decode.Record.field]
    cases found : Fields.get? name fields with
    | none => exact ⟨fallback, rfl⟩
    | some value =>
        obtain ⟨data, yields⟩ := reads value (plain value found)
        exact ⟨data, by simp only [Decode.Record.present, yields]⟩
  obtain ⟨data, yields⟩ := done first plain
  obtain ⟨other, otherYields⟩ := done second otherPlain
  rw [Decode.Record.Matched, yields, otherYields]
  exact .done trivial

/-- Sections that differ in credentials are decoded to settings that differ in credentials. -/
theorem matched_decode {first second : Fields} (same : SameBut SpellsCredential first second) :
    Matched (fun exchange other : Exchange =>
      exchange.withoutCredentials = other.withoutCredentials)
      (decode (.mapping first)) (decode (.mapping second)) := by
  have field {α : Type} (name : String) {decode : Decode.Decoder α} {fallback : Option α}
      (other : ¬ SpellsCredential name) :
      Decode.Record.Matched Eq (.field name decode fallback) first second :=
    .field (same.same name other)
  have credential {α : Type} (name : String) {decode : Decode.Decoder α} {fallback : α}
      (reads : ∀ value, value.Plain → ∃ data, decode value = .ok data)
      (membership : name ∈ credentialKeys) :
      Decode.Record.Matched (fun _ _ => True) (.defaulted name decode fallback) first second :=
    matched_credential reads (same.plain name membership) (same.otherPlain name membership)
  refine Decode.Record.Matched.decoder ?_ "ExchangeConfig"
  unfold record
  refine .seqSame ?_ (field "unknown_fee_rate" (by decide))
  refine .seqSame ?_ (field "skip_pair_validation" (by decide))
  refine .seqSame ?_ (field "markets_refresh_interval" (by decide))
  refine .seqSame ?_ (field "enable_ws" (by decide))
  refine .seqSame ?_ (field "pair_blacklist" (by decide))
  refine .seqSame ?_ (field "pair_whitelist" (by decide))
  refine .seqSame ?_ (field "ccxt_async_config" (by decide))
  refine .seqSame ?_ (field "ccxt_config" (by decide))
  refine .seq ?_ (credential "uid" (fun _ => Value.Plain.optionalFreeText) (by decide))
  refine .seq ?_ (credential "password" (fun _ => Value.Plain.optionalFreeText) (by decide))
  refine .seq ?_ (credential "secret" (fun _ => Value.Plain.freeText) (by decide))
  refine .seq ?_ (credential "key" (fun _ => Value.Plain.freeText) (by decide))
  refine .mapSame ?_ (field "name" (by decide))
  intros
  rfl

end Exchange

/-! ### Documents -/

namespace Config

/-- Documents that differ at most in credentials of the exchange, where each holds nothing or a
plain value. -/
def SameButCredentials (first second : Fields) : Prop :=
  first.Alike (fun key value other => key = "exchange" ∧ ∃ inside otherInside,
    value = .mapping inside ∧ other = .mapping otherInside ∧
    Exchange.SameBut (· ∈ Exchange.credentialKeys) inside otherInside) second

/-- What may differ under any spelling of the key of the exchange. -/
def MayDifferInCredentials (key : String) (value other : Value) : Prop :=
  Key.folded key = Key.folded "exchange" ∧ ∃ inside otherInside,
    value = .mapping inside ∧ other = .mapping otherInside ∧
    Exchange.SameBut Exchange.SpellsCredential inside otherInside

theorem steady_mayDifferInCredentials : Fields.Steady MayDifferInCredentials := by
  constructor
  · rintro key other value replaced sameFolded ⟨isExchange, inside⟩
    exact ⟨sameFolded.symm.trans isExchange, inside⟩
  · rintro key _ _ path lower ordered otherOrdered ⟨isExchange, inside, otherInside, rfl, rfl, same⟩
    rw [Fields.ordered_mapping_iff] at ordered otherOrdered
    exact ⟨isExchange, _, _, rfl, rfl, same.align ordered otherOrdered lower⟩

theorem SameButCredentials.loosen {first second : Fields}
    (same : SameButCredentials first second) : first.Alike MayDifferInCredentials second := by
  intro key
  obtain sameThere |
    ⟨value, other, found, otherFound, rfl, inside, otherInside, rfl, rfl, differ⟩ := same key
  · exact .inl sameThere
  · exact .inr ⟨_, _, found, otherFound, rfl, inside, otherInside, rfl, rfl, differ.loosen⟩

/-- A configuration without credentials of the exchange. -/
def withoutCredentials (config : Config) : Config :=
  { config with exchange := config.exchange.withoutCredentials }

/-- Configurations of simulations that differ in nothing but credentials. -/
structure SimulatedAlike (first second : Config) : Prop where
  dryRun : first.dryRun = true
  same : first.withoutCredentials = second.withoutCredentials

theorem withoutCredentials_withStages (config : Config) :
    config.withStages.withoutCredentials = config.withoutCredentials.withStages := by
  unfold withStages withoutCredentials
  dsimp only
  split <;> rfl

theorem dryRun_withStages (config : Config) : config.withStages.dryRun = config.dryRun := by
  unfold withStages
  split <;> rfl

theorem exchange_withStages (config : Config) : config.withStages.exchange = config.exchange := by
  unfold withStages
  split <;> rfl

theorem SimulatedAlike.withStages {first second : Config} (alike : SimulatedAlike first second) :
    SimulatedAlike first.withStages second.withStages := by
  refine ⟨(dryRun_withStages first).trans alike.dryRun, ?_⟩
  rw [withoutCredentials_withStages, withoutCredentials_withStages, alike.same]

/-- What does not look at credentials is the same in both configurations. -/
theorem SimulatedAlike.view {α : Type} {first second : Config} (alike : SimulatedAlike first second)
    (view : Config → α) (isBlind : ∀ config, view config.withoutCredentials = view config) :
    view first = view second := by
  rw [← isBlind first, alike.same, isBlind second]

/-! ### Decoding -/

/-- What is asked of two documents before they are decoded. -/
structure DecodedAlike (first second : Fields) : Prop where
  alike : first.Alike MayDifferInCredentials second
  settled : Fields.Settled "exchange" first second
  simulated : ∀ value ∈ Fields.get? "dry_run" first, value = .boolean true

theorem DecodedAlike.align {first second : Fields} (given : DecodedAlike first second)
    {path : List String} (lower : ∀ name ∈ path, Key.IsLower name) (ordered : first.Ordered)
    (otherOrdered : second.Ordered) :
    DecodedAlike (Key.align path first) (Key.align path second) := by
  have exchangeLower : Key.IsLower "exchange" := by
    unfold Key.IsLower
    decide
  have dryRunLower : Key.IsLower "dry_run" := by
    unfold Key.IsLower
    decide
  refine ⟨given.alike.align steady_mayDifferInCredentials ordered otherOrdered lower,
    given.settled.align (given.alike.get?_eq_none_iff _) exchangeLower ordered otherOrdered lower,
    Key.plain_get?_align dryRunLower lower ordered ?_ given.simulated⟩
  rintro value rfl
  exact .boolean true

theorem DecodedAlike.get?_of_mem_modeledKeys {first second : Fields}
    (given : DecodedAlike first second) {key : String} (modeled : key ∈ modeledKeys)
    (other : key ≠ "exchange") : Fields.get? key first = Fields.get? key second := by
  obtain same | ⟨_, _, _, _, isExchange, _⟩ := given.alike key
  · exact same
  · have lower : ∀ key ∈ modeledKeys,
        Key.folded key = Key.folded "exchange" → key = "exchange" := by
      decide +kernel
    exact absurd (lower key modeled isExchange) other

theorem matched_exchange {first second : Fields} (given : DecodedAlike first second) :
    Decode.Record.Matched
      (fun exchange other : Exchange => exchange.withoutCredentials = other.withoutCredentials ∧
        (Fields.get? "exchange" first = none → exchange = .absent))
      (.defaulted "exchange" Exchange.decode .absent) first second := by
  obtain same | ⟨value, other, found, otherFound, _, inside, otherInside, rfl, rfl, differ⟩ :=
    given.alike "exchange"
  · cases found : Fields.get? "exchange" first with
    | none =>
        simp only [Decode.Record.Matched, Decode.Record.defaulted, Decode.Record.field, ← same,
          found]
        exact .done ⟨rfl, fun _ => rfl⟩
    | some value =>
        refine .field_of_decode found (same ▸ found) (.refl (fun exchange => ⟨rfl, ?_⟩) _)
        intro absent
        cases absent
  · refine .field_of_decode found otherFound ((Exchange.matched_decode differ).mono ?_)
    intro exchange otherExchange sameOtherwise
    refine ⟨sameOtherwise, fun absent => ?_⟩
    rw [found] at absent
    cases absent

theorem matched_dryRun {first second : Fields} (given : DecodedAlike first second) :
    Decode.Record.Matched (fun dryRun other => dryRun = true ∧ other = true)
      (.defaulted "dry_run" Decode.boolean true) first second := by
  have same := given.get?_of_mem_modeledKeys (by decide : "dry_run" ∈ modeledKeys) (by decide)
  simp only [Decode.Record.Matched, Decode.Record.defaulted, Decode.Record.field, ← same]
  cases found : Fields.get? "dry_run" first with
  | none => exact .done ⟨rfl, rfl⟩
  | some value =>
      rw [given.simulated value found]
      exact .done ⟨rfl, rfl⟩

/-- Documents that differ at most in credentials are decoded to configurations that do. -/
theorem matched_decode_of_decodedAlike {first second : Fields}
    (given : DecodedAlike first second) :
    Matched (fun config other => SimulatedAlike config other ∧
      (Fields.get? "exchange" first = none → config.exchange = .absent))
      (decode (.mapping first)) (decode (.mapping second)) := by
  have same (key : String) (modeled : key ∈ modeledKeys) (unpaired : key ∉ pairedKeys) :
      Fields.get? key first = Fields.get? key second := by
    refine given.get?_of_mem_modeledKeys modeled ?_
    rintro rfl
    exact unpaired (by decide)
  refine (matched_decode same (matched_dryRun given) (matched_exchange given)
    (.field (given.get?_of_mem_modeledKeys (by decide) (by decide)))
    (.field (given.get?_of_mem_modeledKeys (by decide) (by decide)))).mono ?_
  rintro config other ⟨⟨dryRun, otherDryRun⟩, ⟨exchange, absent⟩, apiServer, telegram, rest⟩
  refine ⟨⟨dryRun, ?_⟩, absent⟩
  rw [rest]
  simp only [withoutCredentials, ← exchange, ← apiServer, ← telegram, dryRun, otherDryRun]

/-- Where the section of the exchange is still in its place, nothing else differs. -/
theorem DecodedAlike.extraOf_eq {first second : Fields} (given : DecodedAlike first second)
    (ordered : first.Ordered) (otherOrdered : second.Ordered)
    (present : Fields.get? "exchange" first ≠ none) : extraOf first = extraOf second := by
  refine extraOf_congr ordered.ascending otherOrdered.ascending fun key outside => ?_
  obtain same | ⟨_, _, _, _, isExchange, _⟩ := given.alike key
  · exact same
  · have aside : key ≠ "exchange" := by
      rintro rfl
      exact outside (by decide)
    obtain ⟨absent, _⟩ | others := given.settled
    · exact absurd absent present
    · exact others key aside isExchange

theorem matched_ofDocument_of_decodedAlike {first second : Fields}
    (given : DecodedAlike first second) (ordered : first.Ordered) (otherOrdered : second.Ordered) :
    Matched SimulatedAlike (ofDocument first) (ofDocument second) := by
  refine matched_ofDocument (matched_decode_of_decodedAlike given) ?_ ?_
  · rintro config other ⟨alike, _⟩
    exact alike.withStages.view fieldRules fun _ => rfl
  · rintro config other ⟨alike, absent⟩ holds
    have present : Fields.get? "exchange" first ≠ none := by
      intro nothing
      have named := ((allHold_fieldRules_iff config.withStages_pairlists_ne_nil).mp
        holds).exchange.named
      rw [exchange_withStages, absent nothing, ← Text.isBlankText_eq_false_iff] at named
      cases named
    have same := alike.withStages
    have sameExtra := given.extraOf_eq ordered otherOrdered present
    refine ⟨same.dryRun, ?_⟩
    calc (completed first config).withoutCredentials
        = { config.withStages.withoutCredentials with
            extra := extraOf first, unrecognized := unrecognizedOf first } := rfl
      _ = { other.withStages.withoutCredentials with
            extra := extraOf second, unrecognized := unrecognizedOf second } := by
          rw [same.same, unrecognizedOf, unrecognizedOf, sameExtra]
      _ = (completed second other).withoutCredentials := rfl

end Config

namespace Loader

/-- An observer who sees no report. -/
def unseen : Log.Entry → Option Unit := fun _ => none

theorem filterMap_unseen (entries others : List Log.Entry) :
    entries.filterMap unseen = others.filterMap unseen := by
  have nothing (entries : List Log.Entry) : entries.filterMap unseen = [] :=
    List.filterMap_eq_nil_iff.mpr fun _ _ => rfl
  rw [nothing, nothing]

/-- A simulation ends without credentials. -/
theorem outcome_forgetCredentials {config : Config} (dryRun : config.dryRun = true) :
    (forgetCredentials config).outcome = .ok config.withoutCredentials := by
  unfold forgetCredentials
  cases held : config.exchange.holdsCredential with
  | true =>
      rw [if_pos (by rw [dryRun, Bool.and_self])]
      rfl
  | false =>
      rw [if_neg (by rw [Bool.and_false]; exact Bool.false_ne_true), Config.withoutCredentials,
        Exchange.withoutCredentials_eq held]
      rfl

theorem matched_settle_of_decodedAlike {first second : Merged}
    (given : Config.DecodedAlike (aligned first) (aligned second))
    (ordered : (aligned first).Ordered) (otherOrdered : (aligned second).Ordered)
    (sameFiles : first.files = second.files) :
    Traced.Matched unseen (fun config other => config = other ∧
        config = config.withoutCredentials) (settle first) (settle second) := by
  unfold settle
  refine (Traced.Matched.ofExcept (Config.matched_ofDocument_of_decodedAlike given ordered
    otherOrdered)).bind fun config other alike => ?_
  refine (Traced.Matched.reportAll (filterMap_unseen _ _)).bind fun _ _ _ => ?_
  refine (Traced.Matched.reportAll (filterMap_unseen _ _)).bind fun _ _ _ => ?_
  have consistent : Traced.Matched unseen Config.SimulatedAlike config.consistent
      other.consistent := by
    refine Config.matched_consistent (alike.view Config.unsecret fun _ => rfl) ?_
      (filterMap_unseen _ _) fun kept => ⟨alike.dryRun, ?_⟩
    · have otherDryRun := (alike.view Config.dryRun fun _ => rfl).symm.trans alike.dryRun
      rw [Config.checkCredentials, Config.checkCredentials, alike.dryRun, otherDryRun]
      exact .refl (fun _ => rfl) _
    · exact alike.view (fun config => { config.withoutCredentials with
        exchange := { config.withoutCredentials.exchange with whitelist := kept } }) fun _ => rfl
  refine consistent.bind fun narrowed otherNarrowed narrowedAlike => ?_
  have forgets : Traced.Matched unseen (fun config other => config = other ∧
      config = config.withoutCredentials) (forgetCredentials narrowed)
        (forgetCredentials otherNarrowed) := by
    refine ⟨filterMap_unseen _ _, ?_⟩
    have otherDryRun :=
      (narrowedAlike.view Config.dryRun fun _ => rfl).symm.trans narrowedAlike.dryRun
    rw [outcome_forgetCredentials narrowedAlike.dryRun, outcome_forgetCredentials otherDryRun]
    exact .ok ⟨narrowedAlike.same, rfl⟩
  refine forgets.bind fun forgotten otherForgotten same => ?_
  obtain ⟨rfl, clean⟩ := same
  rw [sameFiles]
  refine (Traced.Matched.refl (fun _ => rfl) _).bind fun _ _ _ => .pure ⟨rfl, ?_⟩
  exact congrArg (fun config : Config => { config with files := second.files }) clean

/-- Loading two documents of simulations that differ at most in credentials of the exchange ends
with the same error, or with one configuration that holds no credentials. -/
theorem load_forgets_credentials {loader otherLoader : Loader} {world otherWorld : World}
    {sources otherSources : List Source} {first second : Merged}
    (merges : (loader.merge world sources).outcome = .ok first)
    (otherMerges : (otherLoader.merge otherWorld otherSources).outcome = .ok second)
    (sameFiles : first.files = second.files)
    (samePaths : first.overrides.map Override.path = second.overrides.map Override.path)
    (same : Config.SameButCredentials first.document second.document)
    (simulated : ∀ value ∈ Fields.get? "dry_run" first.document, value = .boolean true) :
    (∃ error, (loader.load world sources).outcome = .error error ∧
        (otherLoader.load otherWorld otherSources).outcome = .error error) ∨
      ∃ config, (loader.load world sources).outcome = .ok config ∧
        (otherLoader.load otherWorld otherSources).outcome = .ok config ∧
        config.exchange.key = "" ∧ config.exchange.secret = "" ∧
        config.exchange.password = none ∧ config.exchange.uid = none := by
  have ordered := ordered_of_outcome_merge merges
  have otherOrdered := ordered_of_outcome_merge otherMerges
  have initial : Config.DecodedAlike first.document second.document := by
    refine ⟨same.loosen, .inr fun key aside _ => ?_, simulated⟩
    obtain sameThere | ⟨_, _, _, _, isExchange, _⟩ := same key
    · exact sameThere
    · exact absurd isExchange aside
  have kept : Config.DecodedAlike (aligned first) (aligned second) :=
    aligned_induction (fun lower ordered otherOrdered given =>
      given.align lower ordered otherOrdered) (lower_of_outcome_merge merges) samePaths ordered
      otherOrdered initial
  have settles := (matched_settle_of_decodedAlike kept (ordered_aligned ordered)
    (ordered_aligned otherOrdered) sameFiles).outcome
  rw [outcome_load_of_merge merges, outcome_load_of_merge otherMerges]
  generalize (settle first).outcome = outcome, (settle second).outcome = other at settles
  cases settles with
  | error error => exact .inl ⟨error, rfl, rfl⟩
  | @ok config other holds =>
      obtain ⟨rfl, clean⟩ := holds
      refine .inr ⟨config, rfl, rfl, ?_⟩
      rw [clean]
      exact ⟨rfl, rfl, rfl, rfl⟩

/-- The document of `small` with a number as key of the exchange. -/
def small.keyed : Source := .inline "small.yaml" ("max_open_trades: 3\nstake_currency: USDT\n" ++
  "exchange:\n  key: 7\n  name: kraken\n  pair_whitelist: [BTC/USDT]")

/-- What `small` holds, with credentials. -/
def small.document (credentials : Fields) : Fields := [
  ("exchange", .mapping (credentials ++
    [("name", .text "kraken"), ("pair_whitelist", .list [.text "BTC/USDT"])])),
  ("max_open_trades", .number (.integer 3)),
  ("stake_currency", .text "USDT")]

theorem sameButCredentials_small :
    Config.SameButCredentials (small.document [("key", .number (.integer 7))])
      (small.document []) := by
  intro key
  by_cases isExchange : key = "exchange"
  · subst isExchange
    refine .inr ⟨_, _, rfl, rfl, rfl, _, _, rfl, rfl, ?_, ?_, ?_⟩
    · intro key other
      have aside : "key" ≠ key := by
        rintro rfl
        exact other (by decide)
      rw [List.singleton_append, Fields.get?_cons, if_neg aside, List.nil_append]
    · decide +kernel
    · decide +kernel
  · have tail (inside : Value) (rest : Fields) :
        Fields.get? key (("exchange", inside) :: rest) = Fields.get? key rest := by
      rw [Fields.get?_cons, if_neg (Ne.symm isExchange)]
    exact .inl ((tail _ _).trans (tail _ _).symm)

/-- The two configurations are one, though only one document has a key. -/
theorem load_forgets_credentials_small :
    ∃ first second config,
      (merge ⟨none⟩ ⟨fun _ => .error .notFound, []⟩ [small.keyed]).outcome = .ok first ∧
      first.document = small.document [("key", .number (.integer 7))] ∧
      (merge ⟨none⟩ ⟨fun _ => .error .notFound, []⟩ [small]).outcome = .ok second ∧
      second.document = small.document [] ∧
      Config.SameButCredentials first.document second.document ∧
      (load ⟨none⟩ ⟨fun _ => .error .notFound, []⟩ [small.keyed]).outcome = .ok config ∧
      (load ⟨none⟩ ⟨fun _ => .error .notFound, []⟩ [small]).outcome = .ok config ∧
      config.exchange.key = "" := by
  have keyed : (merge ⟨none⟩ ⟨fun _ => .error .notFound, []⟩
      [small.keyed]).outcome.toOption.any (fun merged => decide (merged.files = ["small.yaml"] ∧
        merged.overrides = [] ∧
        merged.document = small.document [("key", .number (.integer 7))])) = true := by
    decide +kernel
  have plain : (merge ⟨none⟩ ⟨fun _ => .error .notFound, []⟩
      [small]).outcome.toOption.any (fun merged => decide (merged.files = ["small.yaml"] ∧
        merged.overrides = [] ∧ merged.document = small.document [])) = true := by
    decide +kernel
  have succeeds : (load ⟨none⟩ ⟨fun _ => .error .notFound, []⟩ [small]).Succeeds := by
    decide +kernel
  obtain ⟨first, merges, firstFacts⟩ := Traced.exists_eq_ok_of_any keyed
  obtain ⟨second, otherMerges, secondFacts⟩ := Traced.exists_eq_ok_of_any plain
  obtain ⟨files, overrides, document⟩ := of_decide_eq_true firstFacts
  obtain ⟨otherFiles, otherOverrides, otherDocument⟩ := of_decide_eq_true secondFacts
  have same : Config.SameButCredentials first.document second.document := by
    rw [document, otherDocument]
    exact sameButCredentials_small
  have simulated : ∀ value ∈ Fields.get? "dry_run" first.document, value = .boolean true := by
    simp [document, small.document]
  obtain ⟨error, _, fails⟩ | ⟨config, loads, otherLoads, key, -⟩ := load_forgets_credentials merges
    otherMerges (files.trans otherFiles.symm) (by rw [overrides, otherOverrides]) same simulated
  · obtain ⟨config, loads⟩ := succeeds
    cases loads.symm.trans fails
  · exact ⟨first, second, config, merges, document, otherMerges, otherDocument, same, loads,
      otherLoads, key⟩

end Loader

end BotConfig
