import BotConfig.Proofs.RoundTrip
import BotConfig.Proofs.Unambiguous

/-!
Configurations that are written alike are the same.

A text gives the value that it is written from, and the value gives the configuration: every field
but the stake is read back, the stake has an amount or a word of its own, and what is not decoded is
written as it is.
-/

namespace BotConfig

/-! ### The stake -/

theorem Stake.encode_injective : Function.Injective Stake.encode := by
  intro first second same
  cases first with
  | unlimited =>
      cases second with
      | unlimited => rfl
      | fixed amount =>
          injection same with texts
          exact absurd texts.symm (amount_text_ne amount)
  | fixed amount =>
      cases second with
      | unlimited =>
          injection same with texts
          exact absurd texts (amount_text_ne amount)
      | fixed other =>
          injection same with texts
          exact congrArg Stake.fixed (Decimal.text_injective texts)

namespace Config

/-- The configuration with another stake. -/
def withStake (config : Config) (stake : Stake) : Config := { config with stake }

theorem encode_withStake (config : Config) (stake : Stake) :
    (config.withStake stake).encode =
      .mapping (config.encode.entries.set 3 ("stake_amount", stake.encode)) := rfl

section Fields

variable {config other : Config}

theorem get?_encode (same : config.encode = other.encode) (key : String) :
    Fields.get? key config.encode.entries = Fields.get? key other.encode.entries := by
  rw [same]

theorem stake_eq_of_encode (same : config.encode = other.encode) : config.stake = other.stake :=
  Stake.encode_injective (Option.some.inj (get?_encode same "stake_amount"))

theorem extra_eq_of_encode (same : config.encode = other.encode) : config.extra = other.extra :=
  Value.mapping.inj (Option.some.inj (get?_encode same "extra"))

theorem texts_injective : Function.Injective (Encode.listOf Value.text) := by
  intro first second same
  injection same with items
  exact List.map_injective_iff.mpr (fun _ _ texts => Value.text.inj texts) items

theorem unrecognized_eq_of_encode (same : config.encode = other.encode) :
    config.unrecognized = other.unrecognized :=
  texts_injective (Option.some.inj (get?_encode same "unrecognized_keys"))

theorem files_eq_of_encode (same : config.encode = other.encode) : config.files = other.files :=
  texts_injective (Option.some.inj (get?_encode same "config_files"))

/-- With the whole balance as its stake a configuration is read back, apart from what is not
decoded. -/
theorem decode_withStake (sound : config.Sound) :
    decode (config.withStake .unlimited).toValue =
      .ok { config.withStake .unlimited with extra := [], unrecognized := [], files := [] } :=
  decode_toValue { sound with }

/-- Sound configurations are told from each other by the values that they are written as. -/
theorem eq_of_encode (sound : config.Sound) (otherSound : other.Sound)
    (same : config.encode = other.encode) : config = other := by
  have stakes := stake_eq_of_encode same
  have extras := extra_eq_of_encode same
  have unrecognized := unrecognized_eq_of_encode same
  have files := files_eq_of_encode same
  have values : (config.withStake .unlimited).toValue = (other.withStake .unlimited).toValue := by
    rw [toValue, toValue, encode_withStake, encode_withStake, same]
  have decoded := decode_withStake sound
  rw [values, decode_withStake otherSound] at decoded
  injection decoded with decoded
  rcases config with ⟨_, _, _, stake, _, _, _, _, _, _, _, _, _, _, _, _, _, _, _, _, _, _, _, _, _,
    _, extra, unrecognizedKeys, sources⟩
  rcases other with ⟨_, _, _, otherStake, _, _, _, _, _, _, _, _, _, _, _, _, _, _, _, _, _, _, _,
    _, _, _, otherExtra, otherKeys, otherSources⟩
  cases stakes
  cases extras
  cases unrecognized
  cases files
  cases decoded
  rfl

end Fields

end Config

/-! ### Equality -/

@[simp]
theorem Binary64.agrees_self (x : Binary64) : x.agrees x = true := beq_self_eq_true _

@[simp]
theorem Decimal.agrees_self (amount : Decimal) : amount.agrees amount = true := beq_self_eq_true _

@[simp]
theorem Number.agrees_self (number : Number) : number.agrees number = true := by
  cases number with
  | integer value => exact beq_self_eq_true value
  | real value => exact value.agrees_self

namespace Value

mutual

theorem agrees_self (value : Value) : value.agrees value = true := by
  cases value with
  | null => rfl
  | boolean flag => exact beq_self_eq_true flag
  | number number => exact number.agrees_self
  | text content => exact beq_self_eq_true content
  | list items => exact itemsAgree_self items
  | mapping fields => exact fieldsAgree_self fields

theorem itemsAgree_self (items : List Value) : itemsAgree items items = true := by
  cases items with
  | nil => rfl
  | cons item rest => rw [itemsAgree, agrees_self item, itemsAgree_self rest, Bool.and_self]

theorem fieldsAgree_self (fields : List (String × Value)) : fieldsAgree fields fields = true := by
  rcases fields with _ | ⟨⟨key, value⟩, rest⟩
  · rfl
  · rw [fieldsAgree, beq_self_eq_true, agrees_self value, fieldsAgree_self rest, Bool.and_self,
      Bool.and_self]

end

attribute [simp] agrees_self

end Value

namespace Config

theorem optionAgrees_self {α : Type} {agrees : α → α → Bool} (reflexive : ∀ data, agrees data data)
    (data : Option α) : optionAgrees agrees data data = true := by
  cases data with
  | none => rfl
  | some given => exact reflexive given

theorem listAgrees_self {α : Type} {agrees : α → α → Bool} (reflexive : ∀ data, agrees data data)
    (items : List α) : listAgrees agrees items items = true := by
  induction items with
  | nil => rfl
  | cons item rest inductionHypothesis =>
      rw [listAgrees, reflexive item, inductionHypothesis, Bool.and_self]

theorem agrees_self (config : Config) : config.agrees config = true := by
  have stake : config.stake.agrees config.stake = true := by
    cases config.stake with
    | unlimited => rfl
    | fixed amount => exact amount.agrees_self
  have rate : Exchange.rateAgrees config.exchange.unknownFeeRate config.exchange.unknownFeeRate =
      true := by
    cases config.exchange.unknownFeeRate <;> simp [Exchange.rateAgrees]
  have level (telegram : Telegram) : Telegram.levelAgrees telegram.dustLevel telegram.dustLevel =
      true := by
    cases telegram.dustLevel <;> simp [Telegram.levelAgrees]
  have stages : listAgrees PairlistStage.agrees config.pairlists config.pairlists = true :=
    listAgrees_self (fun stage => by simp [PairlistStage.agrees]) _
  have edge : optionAgrees Edge.agrees config.edge config.edge = true :=
    optionAgrees_self (fun data => by simp [Edge.agrees]) _
  have telegram : optionAgrees Telegram.agrees config.telegram config.telegram = true :=
    optionAgrees_self (fun data => by simp [Telegram.agrees, level]) _
  have capital : optionAgrees Decimal.agrees config.availableCapital config.availableCapital =
      true := optionAgrees_self Decimal.agrees_self _
  simp [agrees, stake, stages, edge, telegram, capital, rate, OrderTypes.agrees, Pricing.agrees,
    MarketDepth.agrees, Exchange.agrees, Internals.agrees]

end Config

namespace Loader

/-- Configurations that are loaded, from whatever sources, files and environments, are equal if
their texts on one line are. -/
theorem eq_of_serialized {loader otherLoader : Loader} {world otherWorld : World}
    {sources otherSources : List Source} {config other : Config}
    (loads : (loader.load world sources).outcome = .ok config)
    (otherLoads : (otherLoader.load otherWorld otherSources).outcome = .ok other)
    (same : config.serialized = other.serialized) :
    config = other ∧ config.agrees other = true := by
  have equal := Config.eq_of_encode (sound_load loader world sources config loads)
    (sound_load otherLoader otherWorld otherSources other otherLoads) (Value.compact_injective same)
  exact ⟨equal, equal ▸ config.agrees_self⟩

/-- The same document with its keys in another order. -/
def small.turned : Source := .inline "small.yaml" ("exchange:\n  pair_whitelist: [BTC/USDT]\n" ++
  "  name: kraken\nstake_currency: USDT\nmax_open_trades: 3")

theorem eq_of_serialized_small :
    ∃ config other, (load ⟨none⟩ ⟨fun _ => .error .notFound, []⟩ [small]).outcome = .ok config ∧
      (load ⟨none⟩ ⟨fun _ => .error .notFound, []⟩ [small.turned]).outcome = .ok other ∧
      config.serialized = other.serialized ∧ config = other := by
  have values : (load ⟨none⟩ ⟨fun _ => .error .notFound, []⟩ [small]).outcome.toOption.any
      (fun config =>
        (load ⟨none⟩ ⟨fun _ => .error .notFound, []⟩ [small.turned]).outcome.toOption.any
          fun other => config.encode.same other.encode) = true := by
    decide +kernel
  obtain ⟨config, loads, values⟩ := Traced.exists_eq_ok_of_any values
  obtain ⟨other, otherLoads, values⟩ := Traced.exists_eq_ok_of_any values
  have same : config.serialized = other.serialized :=
    congrArg Value.compact ((Value.same_iff _ _).mp values)
  exact ⟨config, other, loads, otherLoads, same, (eq_of_serialized loads otherLoads same).1⟩

end Loader

end BotConfig
