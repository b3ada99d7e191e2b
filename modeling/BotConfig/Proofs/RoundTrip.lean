import BotConfig.Proofs.Alike
import BotConfig.Proofs.Matching
import BotConfig.Proofs.Sections

/-!
A configuration that is loaded is read back as it is written, unless its stake is an amount.

The stake is written as a text, and of all texts only the word for the whole balance is read as a
stake.  All other amounts are written as texts too, and read back from them.
-/

namespace BotConfig

open Decode

/-! ### The stake -/

namespace Stake

theorem amount_text_ne (amount : Decimal) : amount.text ≠ unlimitedSpelling := by
  intro same
  obtain ⟨c, membership, isDigit⟩ := amount.exists_isDigit_text
  rw [same] at membership
  have noDigit : unlimitedSpelling.toList.any Char.isDigit = false := by decide
  exact List.any_eq_false.mp noDigit c membership isDigit

/-- What is written for a fixed stake is not read as a stake. -/
theorem decode_encode (stake : Stake) : decode stake.encode =
    match stake with
    | .unlimited => .ok .unlimited
    | .fixed amount => .error ⟨[], .unknownStake amount.text⟩ := by
  cases stake with
  | unlimited => rfl
  | fixed amount => exact if_neg (amount_text_ne amount)

end Stake

/-! ### Configurations that have been read -/

namespace Config

/-- What keeps a configuration from being read back otherwise. -/
structure Sound (config : Config) : Prop where
  maxOpenTrades : config.maxOpenTrades < twoTo 32
  availableCapital : ∀ amount ∈ config.availableCapital, amount.Sound
  dryRunWallet : config.dryRunWallet.Sound
  unfilledTimeout : Rereads UnfilledTimeout.decode UnfilledTimeout.encode config.unfilledTimeout
  orderTypes : Rereads OrderTypes.decode OrderTypes.encode config.orderTypes
  entryPricing : Rereads Pricing.decode Pricing.encode config.entryPricing
  exitPricing : Rereads Pricing.decode Pricing.encode config.exitPricing
  exchange : config.exchange.Sound
  pairlists : ∀ stage ∈ config.pairlists, stage.Sound
  edge : ∀ edge ∈ config.edge, Rereads Edge.decode Edge.encode edge
  apiServer : ∀ server ∈ config.apiServer, Rereads ApiServer.decode ApiServer.encode server
  telegram : ∀ telegram ∈ config.telegram, Rereads Telegram.decode Telegram.encode telegram
  internals : Rereads Internals.decode Internals.encode config.internals

theorem ensures_sound : Ensures Sound decode := by
  refine Record.Ensures.decoder ?_ "TradingConfig"
  -- From the last field back to the first one.
  refine .seqPure (.seqPure (.seqPure ?_))
  refine .seq ?_ (.defaulted Internals.faithful (Internals.rereads (by decide)))
  refine .seqAny (.seqAny ?_)
  refine .seq ?_ (.defaulted Telegram.faithful.optional (by simp))
  refine .seq ?_ (.defaulted ApiServer.faithful.optional (by simp))
  refine .seq ?_ (.defaulted Edge.faithful.optional (by simp))
  refine .seq ?_ (.defaulted PairlistStage.ensures_sound.listOf PairlistStage.sound_standard)
  refine .seq ?_ (.defaulted Exchange.ensures_sound Exchange.sound_absent)
  refine .seq ?_ (.defaulted Pricing.faithful (Pricing.rereads (by decide)))
  refine .seq ?_ (.defaulted Pricing.faithful (Pricing.rereads (by decide)))
  refine .seqAny ?_
  refine .seq ?_ (.defaulted OrderTypes.faithful (OrderTypes.rereads (by decide)))
  refine .seq ?_ (.defaulted UnfilledTimeout.faithful
    (UnfilledTimeout.rereads (by decide) (by decide) (by decide)))
  refine .seqAny (.seqAny (.seqAny (.seqAny (.seqAny ?_))))
  refine .seq ?_ (.defaulted ensures_decimal (Decimal.sound_ofInt (by decide)))
  refine .seqAny ?_
  refine .seq ?_ (.defaulted ensures_decimal.optional (by simp))
  refine .seqAny (.seqAny (.seqAny ?_))
  refine .seq ?_ (.required (ensures_unsigned 32))
  refine .mapAny ?_
  intro botName maxOpenTrades maxFits stakeCurrency stake ratio capital capitalSound dryRun wallet
    walletSound tradingMode marginMode currency cancel useExitSignal timeout timeoutRereads types
    typesReread times entryPricing entryRereads exitPricing exitRereads exchange exchangeSound
    pairlists pairlistsSound edge edgeRereads apiServer apiServerRereads telegram telegramRereads
    initialState forced internals internalsReread
  exact ⟨maxFits, capitalSound, walletSound, timeoutRereads, typesReread, entryRereads, exitRereads,
    exchangeSound, pairlistsSound, edgeRereads, apiServerRereads, telegramRereads,
    internalsReread⟩

/-- All fields but the stake are read back. -/
theorem gives_record {config : Config} (sound : config.Sound) :
    Record.Gives record (Value.sortedFields config.encode.entries)
      ((Record.present Stake.decode "stake_amount" config.stake.encode.sorted).map fun stake =>
        { config with stake := stake, extra := [], unrecognized := [], files := [] }) := by
  obtain ⟨botName, maxOpenTrades, stakeCurrency, stake, ratio, capital, dryRun, wallet, tradingMode,
    marginMode, currency, cancel, useExitSignal, timeout, types, times, entryPricing, exitPricing,
    exchange, pairlists, edge, apiServer, telegram, initialState, forced, internals, extra,
    unrecognized, files⟩ := config
  refine .openSeq (.openSeq (.openSeq ?_ rfl) rfl) rfl
  refine .openSeq ?_ (.field sound.internals rfl)
  refine .openSeq ?_ (.field (rereads_boolean forced) rfl)
  refine .openSeq ?_ (.field initialState.rereads rfl)
  refine .openSeq ?_ (.field (rereads_optional sound.telegram fun _ => nofun) rfl)
  refine .openSeq ?_ (.field (rereads_optional sound.apiServer fun _ => nofun) rfl)
  refine .openSeq ?_ (.field (rereads_optional sound.edge fun _ => nofun) rfl)
  refine .openSeq ?_ (.field (rereads_listOf fun stage membership =>
    PairlistStage.rereads (sound.pairlists stage membership)) rfl)
  refine .openSeq ?_ (.field (Exchange.rereads sound.exchange) rfl)
  refine .openSeq ?_ (.field sound.exitPricing rfl)
  refine .openSeq ?_ (.field sound.entryPricing rfl)
  refine .openSeq ?_ (.field times.rereads rfl)
  refine .openSeq ?_ (.field sound.orderTypes rfl)
  refine .openSeq ?_ (.field sound.unfilledTimeout rfl)
  refine .openSeq ?_ (.field (rereads_boolean useExitSignal) rfl)
  refine .openSeq ?_ (.field (rereads_boolean cancel) rfl)
  refine .openSeq ?_ (.field (rereads_optionalText rereads_text currency) rfl)
  refine .openSeq ?_ (.field (rereads_optionalText MarginMode.rereads marginMode) rfl)
  refine .openSeq ?_ (.field tradingMode.rereads rfl)
  refine .openSeq ?_ (.field (rereads_decimal sound.dryRunWallet) rfl)
  refine .openSeq ?_ (.field (rereads_boolean dryRun) rfl)
  refine .openSeq ?_ (.field (rereads_optional (fun amount given =>
    rereads_decimal (sound.availableCapital amount given)) fun _ => nofun) rfl)
  refine .openSeq ?_ (.field (rereads_real ratio) rfl)
  -- Whether the stake is read decides about the whole, as all fields around it are read.
  refine .seqOpen ?_ (.fieldOpen rfl)
  refine .seq ?_ (.field (rereads_text stakeCurrency) rfl)
  refine .seq ?_ (.field (rereads_unsigned sound.maxOpenTrades) rfl)
  exact .map (.field (rereads_text botName) rfl)

/-- A sound configuration is read back, without what is not decoded, if its stake is. -/
theorem decode_toValue {config : Config} (sound : config.Sound) : decode config.toValue =
    match config.stake with
    | .unlimited => .ok { config with extra := [], unrecognized := [], files := [] }
    | .fixed amount => .error ⟨[.key "stake_amount"], .unknownStake amount.text⟩ := by
  have decodes := (gives_record sound).decoder_eq "TradingConfig"
  rcases config with ⟨_, _, _, (_ | amount)⟩
  · exact decodes
  · have fails : Stake.decode (Stake.fixed amount).encode.sorted =
        .error ⟨[], .unknownStake amount.text⟩ := Stake.decode_encode (.fixed amount)
    rw [Record.present, fails] at decodes
    exact decodes

/-! ### Configurations that are loaded -/

theorem Sound.withStages {config : Config} (sound : config.Sound) : config.withStages.Sound := by
  unfold Config.withStages
  split
  · exact { sound with pairlists := PairlistStage.sound_standard }
  · exact sound

theorem sound_ofDocument {document : Fields} (regular : (Value.mapping document).Regular) :
    Yields Sound (ofDocument document) := by
  rw [ofDocument_eq]
  refine ((ensures_sound _ regular).mapError _).bind fun decoded sound => ?_
  unfold complete
  split
  · exact .error _
  · exact .ok { sound.withStages with }

theorem Sound.filterWhitelist {config : Config} (sound : config.Sound) :
    Yields Sound config.filterWhitelist.outcome := by
  intro narrowed narrows
  obtain ⟨-, -, rfl⟩ := (filterWhitelist_eq_ok_iff config narrowed).mp narrows
  have keptReread : ∀ pair ∈ config.keptPairs,
      Rereads Decode.pair (fun pair => .text pair.text) pair := by
    intro pair kept
    exact sound.exchange.whitelist pair ((mem_keptPairs_iff config pair).mp kept).1
  exact { sound with exchange := { sound.exchange with whitelist := keptReread } }

theorem Sound.consistent {config : Config} (sound : config.Sound) :
    Yields Sound config.consistent.outcome := by
  unfold Config.consistent
  refine Traced.yields_bind (.any _) fun _ _ => ?_
  refine Traced.yields_bind (.any _) fun _ _ => ?_
  refine Traced.yields_bind (.any _) fun _ _ => ?_
  refine Traced.yields_bind (.any _) fun _ _ => ?_
  refine Traced.yields_bind sound.filterWhitelist fun narrowed narrowedSound => ?_
  exact Traced.yields_bind (.any _) fun _ _ => .ok narrowedSound

end Config

namespace Loader

theorem sound_forgetCredentials {config : Config} (sound : config.Sound) :
    Yields Config.Sound (forgetCredentials config).outcome := by
  unfold forgetCredentials
  split
  · exact Traced.yields_bind (.any _) fun _ _ =>
      .ok { sound with exchange := sound.exchange.withoutCredentials }
  · exact .ok sound

theorem sound_settle {merged : Merged} (regular : (Value.mapping (aligned merged)).Regular) :
    Yields Config.Sound (settle merged).outcome := by
  unfold settle
  refine Traced.yields_bind (Config.sound_ofDocument regular) fun decoded sound => ?_
  refine Traced.yields_bind (.any _) fun _ _ => ?_
  refine Traced.yields_bind (.any _) fun _ _ => ?_
  refine Traced.yields_bind sound.consistent fun narrowed narrowedSound => ?_
  refine Traced.yields_bind (sound_forgetCredentials narrowedSound) fun forgotten stillSound => ?_
  exact Traced.yields_bind (.any _) fun _ _ => .ok { stillSound with }

theorem sound_load (loader : Loader) (world : World) (sources : List Source) :
    Yields Config.Sound (loader.load world sources).outcome := by
  intro config loads
  obtain ⟨merged, merges, settles⟩ := (Traced.outcome_bind_eq_ok_iff _ _ _).mp loads
  have regular := holds_of_outcome_merge Value.closed_regular merges
  have alignedRegular := holds_foldl_align Value.closed_regular regular merged.overrides
  exact sound_settle alignedRegular config settles

/-- A stake is given back by its decoder, from what it is written as, if it is the whole balance,
and a fixed stake is not read at all.  So a configuration that is loaded is given back, apart from
what is not decoded, if its stake is the whole balance, and otherwise the stake is what is wrong
with it. -/
theorem load_reread {loader : Loader} {world : World} {sources : List Source} {config : Config}
    (loads : (loader.load world sources).outcome = .ok config) :
    (∀ stake : Stake, Stake.decode stake.encode =
      match stake with
      | .unlimited => .ok .unlimited
      | .fixed amount => .error ⟨[], .unknownStake amount.text⟩) ∧
    Config.decode config.toValue =
      match config.stake with
      | .unlimited => .ok { config with extra := [], unrecognized := [], files := [] }
      | .fixed amount => .error ⟨[.key "stake_amount"], .unknownStake amount.text⟩ := by
  have sound := sound_load loader world sources config loads
  exact ⟨Stake.decode_encode, Config.decode_toValue sound⟩

theorem load_reread_small :
    ∃ config, (load ⟨none⟩ ⟨fun _ => .error .notFound, []⟩ [small]).outcome = .ok config ∧
      config.files = ["small.yaml"] ∧ config.stake = .unlimited ∧
      Config.decode config.toValue =
        .ok { config with extra := [], unrecognized := [], files := [] } := by
  have reads : (load ⟨none⟩ ⟨fun _ => .error .notFound, []⟩ [small]).outcome.toOption.any
      (fun config =>
        decide (config.files = ["small.yaml"] ∧ config.stake = .unlimited)) = true := by
    decide +kernel
  obtain ⟨config, loads, facts⟩ := Traced.exists_eq_ok_of_any reads
  obtain ⟨files, stake⟩ := of_decide_eq_true facts
  obtain ⟨-, reread⟩ := load_reread loads
  rw [stake] at reread
  refine ⟨config, loads, files, stake, ?_⟩
  rw [stake]
  exact reread

/-- A document with an amount as its stake. -/
def small.staked : Source := .inline "small.yaml" ("max_open_trades: 3\nstake_currency: USDT\n" ++
  "stake_amount: 25\nexchange:\n  name: kraken\n  pair_whitelist: [BTC/USDT]")

theorem load_not_reread :
    ∃ config, (load ⟨none⟩ ⟨fun _ => .error .notFound, []⟩ [small.staked]).outcome = .ok config ∧
      config.stake = .fixed (.ofInt 25) ∧
      Stake.decode config.stake.encode = .error ⟨[], .unknownStake "25"⟩ ∧
      Config.decode config.toValue = .error ⟨[.key "stake_amount"], .unknownStake "25"⟩ := by
  have reads : (load ⟨none⟩ ⟨fun _ => .error .notFound, []⟩ [small.staked]).outcome.toOption.any
      (fun config => decide (config.stake = .fixed (.ofInt 25))) = true := by
    decide +kernel
  obtain ⟨config, loads, facts⟩ := Traced.exists_eq_ok_of_any reads
  have stake := of_decide_eq_true facts
  have reread := Config.decode_toValue (sound_load _ _ _ config loads)
  rw [stake] at reread
  refine ⟨config, loads, stake, ?_, reread⟩
  rw [stake]
  exact Stake.decode_encode (.fixed (.ofInt 25))

end Loader

end BotConfig
