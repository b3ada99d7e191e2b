import BotConfig.Proofs.Exposure
import BotConfig.Proofs.Ignoring
import BotConfig.Proofs.Matching

/-!
Sections and configurations do not look at what they do not write.
-/

namespace BotConfig

open Decode Key

/-! ### Sections -/

theorem UnfilledTimeout.ignores : Ignores decode encode := by
  refine Record.Reads.ignores (fun grown => ?_) "UnfilledTimeout" fun _ => rfl
  refine .seq (.seq (.seq (.map ?_)))
  intro entry entryGives exit exitGives count countGives unit unitGives unseen
  refine .seq ?_ (Record.plain unseen (refuses_choice _) unitGives rfl)
  refine .seq ?_ (Record.plain unseen (refuses_unsigned 32) countGives rfl)
  refine .seq ?_ (Record.plain unseen (refuses_unsigned 32) exitGives rfl)
  exact .map (Record.plain unseen (refuses_unsigned 32) entryGives rfl)

theorem OrderTypes.ignores : Ignores decode encode := by
  refine Record.Reads.ignores (fun grown => ?_) "OrderTypes" fun _ => rfl
  refine .seq (.seq (.seq (.seq (.seq (.seq (.seq (.seq (.seq (.map ?_)))))))))
  intro entry entryGives exit exitGives emergencyExit emergencyExitGives forceExit forceExitGives
    forceEntry forceEntryGives stoploss stoplossGives onExchange onExchangeGives interval
    intervalGives ratio ratioGives priceType priceTypeGives unseen
  -- Where the later entries stand depends on the styles that are set.
  refine .seq ?_ (Record.plain unseen (refuses_choice _).optional priceTypeGives
    (by cases forceExit <;> cases forceEntry <;> rfl))
  refine .seq ?_ (Record.plain unseen refuses_real ratioGives
    (by cases forceExit <;> cases forceEntry <;> rfl))
  refine .seq ?_ (Record.plain unseen (refuses_unsigned 32) intervalGives
    (by cases forceExit <;> cases forceEntry <;> rfl))
  refine .seq ?_ (Record.plain unseen refuses_boolean onExchangeGives
    (by cases forceExit <;> cases forceEntry <;> rfl))
  refine .seq ?_ (Record.plain unseen (refuses_choice _) stoplossGives
    (by cases forceExit <;> cases forceEntry <;> rfl))
  refine .seq ?_ (Record.plainIfSet (fun type => .text type.name) unseen
    (refuses_choice _) (by unfold IsLower; decide) forceEntryGives
    (by cases forceExit <;> cases forceEntry <;> rfl))
  refine .seq ?_ (Record.plainIfSet (fun type => .text type.name) unseen
    (refuses_choice _) (by unfold IsLower; decide) forceExitGives
    (by cases forceExit <;> cases forceEntry <;> rfl))
  refine .seq ?_ (Record.plain unseen (refuses_choice _) emergencyExitGives rfl)
  refine .seq ?_ (Record.plain unseen (refuses_choice _) exitGives rfl)
  exact .map (Record.plain unseen (refuses_choice _) entryGives rfl)

theorem OrderTimeInForce.ignores : Ignores decode encode := by
  refine Record.Reads.ignores (fun grown => ?_) "OrderTimeInForce" fun _ => rfl
  refine .seq (.map ?_)
  intro entry entryGives exit exitGives unseen
  refine .seq ?_ (Record.plain unseen (refuses_choice _) exitGives rfl)
  exact .map (Record.plain unseen (refuses_choice _) entryGives rfl)

theorem MarketDepth.ignores : Ignores decode encode := by
  refine Record.Reads.ignores (fun grown => ?_) "DepthOfMarket" fun _ => rfl
  refine .seq (.map ?_)
  intro enabled enabledGives bidsToAsks bidsToAsksGives unseen
  refine .seq ?_ (Record.plain unseen refuses_real bidsToAsksGives rfl)
  exact .map (Record.plain unseen refuses_boolean enabledGives rfl)

theorem Pricing.ignores : Ignores decode encode := by
  refine Record.Reads.ignores (fun grown => ?_) "PricingConfig" fun _ => rfl
  refine .seq (.seq (.seq (.seq (.map ?_))))
  intro side sideGives useOrderBook useOrderBookGives top topGives lastBalance lastBalanceGives
    depth depthGives unseen
  refine .seq ?_ (Record.nested unseen MarketDepth.ignores (by unfold IsLower; decide)
    depthGives rfl)
  refine .seq ?_ (Record.plain unseen refuses_real lastBalanceGives rfl)
  refine .seq ?_ (Record.plain unseen (refuses_unsigned 32) topGives rfl)
  refine .seq ?_ (Record.plain unseen refuses_boolean useOrderBookGives rfl)
  exact .map (Record.plain unseen (refuses_choice _) sideGives rfl)

theorem Internals.ignores : Ignores decode encode := by
  refine Record.Reads.ignores (fun grown => ?_) "InternalsConfig" fun _ => rfl
  refine .seq (.seq (.map ?_))
  intro throttle throttleGives heartbeat heartbeatGives notifySystem notifySystemGives unseen
  refine .seq ?_ (Record.plain unseen refuses_boolean notifySystemGives rfl)
  refine .seq ?_ (Record.plain unseen (refuses_unsigned 32) heartbeatGives rfl)
  exact .map (Record.plain unseen refuses_real throttleGives rfl)

theorem Edge.ignores : Ignores decode encode := by
  refine Record.Reads.ignores (fun grown => ?_) "EdgeConfig" fun _ => rfl
  refine .seq (.seq (.seq (.seq (.seq (.seq (.seq (.seq (.seq (.seq (.seq (.map ?_)))))))))))
  intro enabled enabledGives throttle throttleGives days daysGive risk riskGives minimum
    minimumGives maximum maximumGives step stepGives winRate winRateGives expectancy expectancyGives
    trades tradesGive longest longestGives removePumps removePumpsGives unseen
  refine .seq ?_ (Record.plain unseen refuses_boolean removePumpsGives rfl)
  refine .seq ?_ (Record.plain unseen (refuses_unsigned 32) longestGives rfl)
  refine .seq ?_ (Record.plain unseen (refuses_unsigned 32) tradesGive rfl)
  refine .seq ?_ (Record.plain unseen refuses_real expectancyGives rfl)
  refine .seq ?_ (Record.plain unseen refuses_real winRateGives rfl)
  refine .seq ?_ (Record.plain unseen refuses_real stepGives rfl)
  refine .seq ?_ (Record.plain unseen refuses_real maximumGives rfl)
  refine .seq ?_ (Record.plain unseen refuses_real minimumGives rfl)
  refine .seq ?_ (Record.plain unseen refuses_real riskGives rfl)
  refine .seq ?_ (Record.plain unseen (refuses_unsigned 32) daysGive rfl)
  refine .seq ?_ (Record.plain unseen (refuses_unsigned 64) throttleGives rfl)
  exact .map (Record.plain unseen refuses_boolean enabledGives rfl)

theorem Address.refuses : Refuses decode := nofun

theorem ApiServer.ignores : Ignores decode encode := by
  refine Record.Reads.ignores (fun grown => ?_) "ApiServerConfig" fun _ => rfl
  refine .seq (.seq (.seq (.seq (.seq (.seq (.seq (.seq (.map ?_))))))))
  intro enabled enabledGives address addressGives port portGives username usernameGives password
    passwordGives tokenKey tokenKeyGives tokens tokensGive origins originsGive verbosity
    verbosityGives unseen
  refine .seq ?_ (Record.plain unseen (refuses_choice _) verbosityGives rfl)
  refine .seq ?_ (Record.plainTwoWays unseen (refuses_listOf _) (by decide) originsGive rfl)
  refine .seq ?_ (Record.plain unseen refuses_texts tokensGive rfl)
  refine .seq ?_ (Record.plain unseen refuses_optionalFreeText tokenKeyGives rfl)
  refine .seq ?_ (Record.plain unseen refuses_freeText passwordGives rfl)
  refine .seq ?_ (Record.plain unseen refuses_freeText usernameGives rfl)
  refine .seq ?_ (Record.plain unseen (refuses_unsigned 16).optional portGives rfl)
  refine .seq ?_ (Record.plain unseen Address.refuses.optional addressGives rfl)
  exact .map (Record.plain unseen refuses_boolean enabledGives rfl)

theorem Telegram.ignores : Ignores decode encode := by
  refine Record.Reads.ignores (fun grown => ?_) "TelegramConfig" fun _ => rfl
  refine .seq (.seq (.seq (.seq (.seq (.seq (.seq (.map ?_)))))))
  intro enabled enabledGives token tokenGives chatId chatIdGives topicId topicIdGives users
    usersGive reload reloadGives dustLevel dustLevelGives notices noticesGive unseen
  refine .seq ?_ (Record.nested unseen ignores_fields (by unfold IsLower; decide) noticesGive rfl)
  refine .seq ?_ (Record.plain unseen refuses_real.optional dustLevelGives rfl)
  refine .seq ?_ (Record.plain unseen refuses_boolean reloadGives rfl)
  refine .seq ?_ (Record.plain unseen (refuses_listOf _) usersGive rfl)
  refine .seq ?_ (Record.plain unseen refuses_optionalFreeText topicIdGives rfl)
  refine .seq ?_ (Record.plain unseen refuses_freeText chatIdGives rfl)
  refine .seq ?_ (Record.plain unseen refuses_freeText tokenGives rfl)
  exact .map (Record.plain unseen refuses_boolean enabledGives rfl)

theorem Exchange.ignores : Ignores decode encode := by
  refine Record.Reads.ignores (fun grown => ?_) "ExchangeConfig" fun _ => rfl
  refine .seq (.seq (.seq (.seq (.seq (.seq (.seq (.seq (.seq (.seq (.seq (.seq (.map ?_))))))))))))
  intro name nameGives key keyGives secret secretGives password passwordGives uid uidGives
    clientOptions clientOptionsGive asyncClientOptions asyncClientOptionsGive whitelist
    whitelistGives blacklist blacklistGives useWebsocket useWebsocketGives interval intervalGives
    skip skipGives rate rateGives unseen
  refine .seq ?_ (Record.plain unseen refuses_real.optional rateGives rfl)
  refine .seq ?_ (Record.plain unseen refuses_boolean skipGives rfl)
  refine .seq ?_ (Record.plain unseen (refuses_unsigned 32) intervalGives rfl)
  refine .seq ?_ (Record.plain unseen refuses_boolean useWebsocketGives rfl)
  refine .seq ?_ (Record.plain unseen (refuses_listOf _) blacklistGives rfl)
  refine .seq ?_ (Record.plain unseen (refuses_listOf _) whitelistGives rfl)
  refine .seq ?_ (Record.nested unseen ignores_fields (by unfold IsLower; decide)
    asyncClientOptionsGive rfl)
  refine .seq ?_ (Record.nested unseen ignores_fields (by unfold IsLower; decide)
    clientOptionsGive rfl)
  refine .seq ?_ (Record.plain unseen refuses_optionalFreeText uidGives rfl)
  refine .seq ?_ (Record.plain unseen refuses_optionalFreeText passwordGives rfl)
  refine .seq ?_ (Record.plain unseen refuses_freeText secretGives rfl)
  refine .seq ?_ (Record.plain unseen refuses_freeText keyGives rfl)
  exact .map (Record.plain unseen refuses_text nameGives rfl)

/-! ### Configurations -/

theorem Stake.refuses : Refuses decode := nofun

namespace Config

theorem withStages_eq (config : Config) :
    config.withStages = { config with pairlists := config.withStages.pairlists } := by
  unfold withStages
  split <;> rfl

/-- A configuration is written with its stages and with what is not decoded. -/
theorem ignores (stages : List PairlistStage) (extra : Fields) (unrecognized files : List String) :
    Ignores decode fun config => encode { config with
      pairlists := stages, extra := extra, unrecognized := unrecognized, files := files } := by
  refine Record.Reads.ignores (fun grown => ?_) "TradingConfig" fun _ => rfl
  refine .seq (.seq (.seq ?_))
  refine .seq (.seq (.seq (.seq (.seq (.seq (.seq (.seq (.seq (.seq (.seq (.seq (.seq (.seq (.seq
    (.seq (.seq (.seq (.seq (.seq (.seq (.seq (.seq (.seq (.seq (.map ?_)))))))))))))))))))))))))
  intro name nameGives trades tradesGive currency currencyGives stake stakeGives ratio ratioGives
    capital capitalGives simulated simulatedGives wallet walletGives mode modeGives margin
    marginGives display displayGives cancel cancelGives exitSignal exitSignalGives timeout
    timeoutGives types typesGive times timesGive entry entryGives exit exitGives exchange
    exchangeGives pairlists pairlistsGive edge edgeGives server serverGives telegram telegramGives
    state stateGives forced forcedGives internals internalsGive
  rintro _ ⟨⟩ _ ⟨⟩ _ ⟨⟩ unseen
  refine .seq (.seq (.seq ?_ rfl) rfl) rfl
  refine .seq ?_ (Record.nested unseen Internals.ignores (by unfold IsLower; decide)
    internalsGive rfl)
  refine .seq ?_ (Record.plain unseen refuses_boolean forcedGives rfl)
  refine .seq ?_ (Record.plain unseen (refuses_choice _) stateGives rfl)
  refine .seq ?_ (Record.nested unseen Telegram.ignores.optional (by unfold IsLower; decide)
    telegramGives rfl)
  refine .seq ?_ (Record.nested unseen ApiServer.ignores.optional (by unfold IsLower; decide)
    serverGives rfl)
  refine .seq ?_ (Record.nested unseen Edge.ignores.optional (by unfold IsLower; decide)
    edgeGives rfl)
  refine .seq ?_ (Record.plain unseen (refuses_listOf _) pairlistsGive rfl)
  refine .seq ?_ (Record.nested unseen Exchange.ignores (by unfold IsLower; decide)
    exchangeGives rfl)
  refine .seq ?_ (Record.nested unseen Pricing.ignores (by unfold IsLower; decide) exitGives rfl)
  refine .seq ?_ (Record.nested unseen Pricing.ignores (by unfold IsLower; decide) entryGives rfl)
  refine .seq ?_ (Record.nested unseen OrderTimeInForce.ignores (by unfold IsLower; decide)
    timesGive rfl)
  refine .seq ?_ (Record.nested unseen OrderTypes.ignores (by unfold IsLower; decide) typesGive rfl)
  refine .seq ?_ (Record.nested unseen UnfilledTimeout.ignores (by unfold IsLower; decide)
    timeoutGives rfl)
  refine .seq ?_ (Record.plain unseen refuses_boolean exitSignalGives rfl)
  refine .seq ?_ (Record.plain unseen refuses_boolean cancelGives rfl)
  refine .seq ?_ (Record.plain unseen refuses_text.optional displayGives rfl)
  refine .seq ?_ (Record.plain unseen (refuses_choice _).optional marginGives rfl)
  refine .seq ?_ (Record.plain unseen (refuses_choice _) modeGives rfl)
  refine .seq ?_ (Record.plain unseen refuses_decimal walletGives rfl)
  refine .seq ?_ (Record.plain unseen refuses_boolean simulatedGives rfl)
  refine .seq ?_ (Record.plain unseen refuses_decimal.optional capitalGives rfl)
  refine .seq ?_ (Record.plain unseen refuses_real ratioGives rfl)
  refine .seq ?_ (Record.plain unseen Stake.refuses stakeGives rfl)
  refine .seq ?_ (Record.plain unseen refuses_text currencyGives rfl)
  refine .seq ?_ (Record.plain unseen (refuses_unsigned 32) tradesGive rfl)
  exact .map (Record.plain unseen refuses_text nameGives rfl)

theorem keys_encode (config : Config) : config.encode.entries.keys = [
    "bot_name", "max_open_trades", "stake_currency", "stake_amount", "tradable_balance_ratio",
    "available_capital", "dry_run", "dry_run_wallet", "trading_mode", "margin_mode",
    "fiat_display_currency", "cancel_open_orders_on_exit", "use_exit_signal", "unfilledtimeout",
    "order_types", "order_time_in_force", "entry_pricing", "exit_pricing", "exchange", "pairlists",
    "edge", "api_server", "telegram", "initial_state", "force_entry_enable", "internals", "extra",
    "unrecognized_keys", "config_files"] := rfl

/-- Every key that is decoded is written. -/
theorem exists_written {key : String} (modeled : key ∈ modeledKeys) (decoded : key ≠ includeKey)
    (config : Config) : ∃ value, Fields.get? key config.encode.entries = some value := by
  refine (Fields.mem_keys_iff key config.encode.entries).mp ?_
  rw [keys_encode]
  revert key
  decide +kernel

variable {path : List String} {first second document : Fields} {config : Config}

theorem not_resolves_of_extra {key name : String} {rest : List String} {value : Value}
    (extraUnresolved : resolves (key :: rest) (.mapping (extraOf document)) = false)
    (unmodeled : name ∉ modeledKeys) (folds : folded name = folded key)
    (found : Fields.get? name document = some value) : resolves rest value = false := by
  refine Fields.resolves_of_get? extraUnresolved ?_ folds
  rw [get?_extraOf, if_neg unmodeled, found]

/-- A key that leads to nothing in a configuration is not in its document, however it is spelled. -/
theorem unspelled_of_not_resolves {key : String}
    (includesNone : Fields.get? includeKey document = none)
    (unresolved : resolves [key] config.toValue = false)
    (extraUnresolved : resolves [key] (.mapping (extraOf document)) = false) :
    Unspelled key document := by
  intro name folds
  by_cases modeled : name ∈ modeledKeys
  · by_cases included : name = includeKey
    · rw [included, includesNone]
    · obtain ⟨value, written⟩ := exists_written modeled included config
      have shown : Fields.get? name (Value.sortedFields config.encode.entries) =
          some value.sorted := by
        rw [Fields.get?_sortedFields, written, Option.map_some]
      cases Fields.resolves_of_get? unresolved shown folds
  · cases found : Fields.get? name document with
    | none => rfl
    | some value => cases not_resolves_of_extra extraUnresolved modeled folds found

/-- Where nothing is decoded two documents do not differ at a path that leads to nothing. -/
theorem get?_eq_of_grown (grown : Grown path first second)
    (includesNone : Fields.get? includeKey second = none)
    (unresolved : resolves path config.toValue = false)
    (extraUnresolved : resolves path (.mapping (extraOf second)) = false) {name : String}
    (unmodeled : name ∉ modeledKeys) : Fields.get? name first = Fields.get? name second := by
  obtain ⟨key, rest, rfl⟩ := List.exists_cons_of_ne_nil grown.nonempty
  by_cases different : folded name ≠ folded key
  · exact grown.elsewhere.get?_eq different
  have folds : folded name = folded key := Decidable.not_not.mp different
  cases rest with
  | nil =>
      have unspelled := unspelled_of_not_resolves includesNone unresolved extraUnresolved
      rw [grown.elsewhere.2 unspelled name folds, unspelled name folds]
  | cons next others =>
      obtain same | ⟨child, otherChild, found, otherFound, below⟩ :=
        grown.elsewhere.around name folds
      · exact same
      · have same : child = otherChild := below.eq_of_not_resolves (List.cons_ne_nil next others)
          ((Fields.ordered_mapping_iff child).mp (grown.ordered.get? found))
          ((Fields.ordered_mapping_iff otherChild).mp (grown.otherOrdered.get? otherFound))
          (not_resolves_of_extra extraUnresolved unmodeled folds otherFound)
        rw [found, otherFound, same]

/-- What stands at a path that leads to nothing in a configuration does not matter for it. -/
theorem ofDocument_of_grown (grown : Grown path first second)
    (includesNone : Fields.get? includeKey second = none) (holds : ofDocument second = .ok config)
    (unresolved : resolves path config.toValue = false)
    (extraUnresolved : resolves path (.mapping config.extra) = false) :
    ofDocument first = .ok config := by
  cases decodes : decode (.mapping second) with
  | error failure =>
      rw [ofDocument, decodes] at holds
      cases holds
  | ok decoded =>
      obtain ⟨acceptable, rfl⟩ := (ofDocument_eq_ok_iff decodes config).mp holds
      have shown : completed second decoded = { decoded with
          pairlists := decoded.withStages.pairlists, extra := extraOf second,
          unrecognized := unrecognizedOf second, files := decoded.files } := by
        rw [completed, withStages_eq]
      change resolves path (completed second decoded).toValue = false at unresolved
      rw [shown] at unresolved
      have decodesToo := ignores _ _ _ _ grown decoded decodes unresolved
      have sameExtra : extraOf first = extraOf second :=
        extraOf_congr grown.ordered.ascending grown.otherOrdered.ascending fun _ unmodeled =>
          get?_eq_of_grown grown includesNone unresolved extraUnresolved unmodeled
      refine (ofDocument_eq_ok_iff decodesToo _).mpr ⟨acceptable, ?_⟩
      rw [unrecognizedOf, unrecognizedOf, sameExtra]

end Config

end BotConfig
