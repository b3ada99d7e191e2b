import BotConfig.Proofs.Unseen

/-!
Where the entries of a document go.

A document is read part by part, and each part has a key of its own.  An entry under any other key
means nothing: it is kept as it is, and nothing that is read depends on it.
-/

namespace BotConfig

namespace Config

/-! ### Parts -/

/-- A part of a configuration, with the key that it is read from. -/
structure Part where
  key : String
  /-- The part is what a document with this value, or with nothing, at the key makes of it. -/
  ReadFrom : Option Value → Config → Prop

/-- The part that a decoder reads. -/
def part {α : Type} (key : String) (decode : Decode.Decoder α) (fallback : Option α)
    (view : Config → α) : Part where
  key := key
  ReadFrom
    | some value, config => decode value = .ok (view config)
    | none, config => fallback = some (view config)

/-- The standard chain in place of an empty one. -/
def staged (stages : List PairlistStage) : List PairlistStage :=
  if stages.isEmpty then PairlistChain.standard else stages

/-- The parts in the order of the fields. -/
def parts : List Part := [
  part "bot_name" Decode.text (some standardName) botName,
  part "max_open_trades" (Decode.unsigned 32) none maxOpenTrades,
  part "stake_currency" Decode.text (some "") stakeCurrency,
  part "stake_amount" Stake.decode (some .unlimited) stake,
  part "tradable_balance_ratio" Decode.real (some standardRatio) tradableRatio,
  part "available_capital" (Decode.optional Decode.decimal) (some none) availableCapital,
  part "dry_run" Decode.boolean (some true) dryRun,
  part "dry_run_wallet" Decode.decimal (some standardWallet) dryRunWallet,
  part "trading_mode" TradingMode.decode (some .spot) tradingMode,
  part "margin_mode" (Decode.optional MarginMode.decode) (some none) marginMode,
  part "fiat_display_currency" (Decode.optional Decode.text) (some none) displayCurrency,
  part "cancel_open_orders_on_exit" Decode.boolean (some false) cancelOrdersOnExit,
  part "use_exit_signal" Decode.boolean (some true) useExitSignal,
  part "unfilledtimeout" UnfilledTimeout.decode (some .standard) unfilledTimeout,
  part "order_types" OrderTypes.decode (some .standard) orderTypes,
  part "order_time_in_force" OrderTimeInForce.decode (some .standard) orderTimeInForce,
  part "entry_pricing" Pricing.decode (some .standard) entryPricing,
  part "exit_pricing" Pricing.decode (some .standard) exitPricing,
  part "exchange" Exchange.decode (some .absent) exchange,
  part "pairlists" (fun value => (Decode.listOf PairlistStage.decode value).map staged)
    (some PairlistChain.standard) pairlists,
  part "edge" (Decode.optional Edge.decode) (some none) edge,
  part "api_server" (Decode.optional ApiServer.decode) (some none) apiServer,
  part "telegram" (Decode.optional Telegram.decode) (some none) telegram,
  part "initial_state" InitialState.decode (some .stopped) initialState,
  part "force_entry_enable" Decode.boolean (some false) allowForcedEntry,
  part "internals" Internals.decode (some .standard) internals]

/-- The parts and the list of included files have all the keys that are modeled, each of them
one. -/
theorem perm_modeledKeys : modeledKeys.Perm (includeKey :: parts.map Part.key) := by decide

theorem nodup_modeledKeys : modeledKeys.Nodup := by decide

theorem mem_modeledKeys_iff (key : String) :
    key ∈ modeledKeys ↔ key = includeKey ∨ ∃ part ∈ parts, part.key = key := by
  rw [perm_modeledKeys.mem_iff, List.mem_cons, List.mem_map]

/-- A field that has been read is the part of it. -/
theorem readFrom_of_gives {α : Type} {key : String} {decode : Decode.Decoder α}
    {fallback : Option α} {view : Config → α} {document : Fields} {config : Config}
    (gives : (Decode.Record.field key decode fallback).Gives document (.done (view config))) :
    (part key decode fallback view).ReadFrom (Fields.get? key document) config := by
  cases found : Fields.get? key document with
  | some value => exact Decode.Record.decode_of_gives_field found gives
  | none => exact Decode.Record.fallback_of_gives_field found gives

theorem withStages_pairlists (config : Config) :
    config.withStages.pairlists = staged config.pairlists := by
  unfold withStages staged
  split <;> rfl

/-- The chain that has been read, with the standard one in place of an empty one. -/
theorem readFrom_pairlists {document : Fields} {stages : List PairlistStage} {config : Config}
    (gives : (Decode.Record.defaulted "pairlists" (Decode.listOf PairlistStage.decode)
      PairlistChain.standard).Gives document (.done stages))
    (isStaged : config.pairlists = staged stages) :
    (part "pairlists" (fun value => (Decode.listOf PairlistStage.decode value).map staged)
      (some PairlistChain.standard) pairlists).ReadFrom (Fields.get? "pairlists" document)
        config := by
  have read : (part "pairlists" (Decode.listOf PairlistStage.decode) (some PairlistChain.standard)
      fun _ => stages).ReadFrom (Fields.get? "pairlists" document) config :=
    readFrom_of_gives gives
  cases found : Fields.get? "pairlists" document with
  | some value =>
      rw [found] at read
      have decodes : Decode.listOf PairlistStage.decode value = .ok stages := read
      change Except.map staged (Decode.listOf PairlistStage.decode value) = .ok config.pairlists
      rw [decodes, isStaged]
      rfl
  | none =>
      rw [found] at read
      have standard : PairlistChain.standard = stages := Option.some.inj read
      change some PairlistChain.standard = some config.pairlists
      rw [isStaged, ← standard]
      rfl

/-- Every part of a configuration is read from its own key. -/
theorem readFrom_of_decode {document : Fields} {decoded : Config}
    (decodes : decode (.mapping document) = .ok decoded) :
    ∀ part ∈ parts, part.ReadFrom (Fields.get? part.key document) (completed document decoded) := by
  rw [completed, withStages_eq, withStages_pairlists]
  suffices reads : Decode.Record.Reads record document fun decoded => ∀ part ∈ parts,
      part.ReadFrom (Fields.get? part.key document) { decoded with
        pairlists := staged decoded.pairlists, extra := extraOf document
        unrecognized := unrecognizedOf document } from
    reads decoded (Decode.Record.gives_of_decoder decodes)
  refine .seq (.seq (.seq ?_))
  refine .seq (.seq (.seq (.seq (.seq (.seq (.seq (.seq (.seq (.seq (.seq (.seq (.seq (.seq (.seq
    (.seq (.seq (.seq (.seq (.seq (.seq (.seq (.seq (.seq (.seq (.map ?_)))))))))))))))))))))))))
  intro name nameGives trades tradesGive currency currencyGives stake stakeGives ratio ratioGives
    capital capitalGives simulated simulatedGives wallet walletGives mode modeGives margin
    marginGives display displayGives cancel cancelGives exitSignal exitSignalGives timeout
    timeoutGives types typesGive times timesGive entry entryGives exit exitGives exchange
    exchangeGives pairlists pairlistsGive edge edgeGives server serverGives telegram telegramGives
    state stateGives forced forcedGives internals internalsGive
  rintro _ ⟨⟩ _ ⟨⟩ _ ⟨⟩
  unfold parts
  refine List.forall_mem_cons.mpr ⟨readFrom_of_gives nameGives, ?_⟩
  refine List.forall_mem_cons.mpr ⟨readFrom_of_gives tradesGive, ?_⟩
  refine List.forall_mem_cons.mpr ⟨readFrom_of_gives currencyGives, ?_⟩
  refine List.forall_mem_cons.mpr ⟨readFrom_of_gives stakeGives, ?_⟩
  refine List.forall_mem_cons.mpr ⟨readFrom_of_gives ratioGives, ?_⟩
  refine List.forall_mem_cons.mpr ⟨readFrom_of_gives capitalGives, ?_⟩
  refine List.forall_mem_cons.mpr ⟨readFrom_of_gives simulatedGives, ?_⟩
  refine List.forall_mem_cons.mpr ⟨readFrom_of_gives walletGives, ?_⟩
  refine List.forall_mem_cons.mpr ⟨readFrom_of_gives modeGives, ?_⟩
  refine List.forall_mem_cons.mpr ⟨readFrom_of_gives marginGives, ?_⟩
  refine List.forall_mem_cons.mpr ⟨readFrom_of_gives displayGives, ?_⟩
  refine List.forall_mem_cons.mpr ⟨readFrom_of_gives cancelGives, ?_⟩
  refine List.forall_mem_cons.mpr ⟨readFrom_of_gives exitSignalGives, ?_⟩
  refine List.forall_mem_cons.mpr ⟨readFrom_of_gives timeoutGives, ?_⟩
  refine List.forall_mem_cons.mpr ⟨readFrom_of_gives typesGive, ?_⟩
  refine List.forall_mem_cons.mpr ⟨readFrom_of_gives timesGive, ?_⟩
  refine List.forall_mem_cons.mpr ⟨readFrom_of_gives entryGives, ?_⟩
  refine List.forall_mem_cons.mpr ⟨readFrom_of_gives exitGives, ?_⟩
  refine List.forall_mem_cons.mpr ⟨readFrom_of_gives exchangeGives, ?_⟩
  refine List.forall_mem_cons.mpr ⟨readFrom_pairlists pairlistsGive rfl, ?_⟩
  refine List.forall_mem_cons.mpr ⟨readFrom_of_gives edgeGives, ?_⟩
  refine List.forall_mem_cons.mpr ⟨readFrom_of_gives serverGives, ?_⟩
  refine List.forall_mem_cons.mpr ⟨readFrom_of_gives telegramGives, ?_⟩
  refine List.forall_mem_cons.mpr ⟨readFrom_of_gives stateGives, ?_⟩
  refine List.forall_mem_cons.mpr ⟨readFrom_of_gives forcedGives, ?_⟩
  exact List.forall_mem_singleton.mpr (readFrom_of_gives internalsGive)

/-! ### Entries that are kept -/

/-- A configuration without what is kept of the document. -/
def modeled (config : Config) : Config := { config with extra := [], unrecognized := [] }

/-- Documents that hold the same at the keys that are modeled are decoded alike. -/
theorem decode_congr {first second : Fields}
    (same : ∀ key ∈ modeledKeys, Fields.get? key first = Fields.get? key second) :
    decode (.mapping first) = decode (.mapping second) := by
  have matched : Matched (Paired Eq Eq Eq Eq) (decode (.mapping first))
      (decode (.mapping second)) := by
    refine matched_decode (fun key isModeled _ => same key isModeled) ?_ ?_ ?_ ?_
    · exact .field (same _ (by decide))
    · exact .field (same _ (by decide))
    · exact .field (same _ (by decide))
    · exact .field (same _ (by decide))
  exact Matched.eq (matched.mono fun _ _ paired => paired.eq)

/-- Documents that hold the same at the keys that are modeled end with the same error or with
configurations that differ only in what is kept. -/
theorem modeled_ofDocument_congr {first second : Fields}
    (same : ∀ key ∈ modeledKeys, Fields.get? key first = Fields.get? key second) :
    (ofDocument first).map modeled = (ofDocument second).map modeled := by
  rw [ofDocument_eq, ofDocument_eq, decode_congr same]
  cases (decode (.mapping second)).mapError ConfigError.ofFailure with
  | error error => rfl
  | ok config =>
      change (complete first config).map modeled = (complete second config).map modeled
      unfold complete
      split <;> rfl

theorem mem_unrecognizedOf_iff (document : Fields) (key : String) :
    key ∈ unrecognizedOf document ↔ key ∈ (extraOf document).keys ∧ key ∉ foreignKeys := by
  simp [unrecognizedOf, Fields.keys]

theorem ascending_unrecognizedOf {document : Fields} (ascending : document.Ascending) :
    (unrecognizedOf document).Pairwise (· < ·) :=
  (ascending_extraOf ascending).sublist List.filter_sublist

/-- No two parts are read from one key. -/
theorem existsUnique_part {key : String} (isModeled : key ∈ modeledKeys)
    (isNoList : key ≠ includeKey) : ∃! part, part ∈ parts ∧ part.key = key := by
  obtain isList | ⟨part, listed, rfl⟩ := (mem_modeledKeys_iff key).mp isModeled
  · exact absurd isList isNoList
  have distinct : (parts.map Part.key).Nodup :=
    (List.nodup_cons.mp (perm_modeledKeys.nodup nodup_modeledKeys)).2
  refine ⟨part, ⟨listed, rfl⟩, ?_⟩
  rintro other ⟨otherListed, sameKey⟩
  exact List.inj_on_of_nodup_map distinct otherListed listed sameKey

/-- What has become of the entries of a document. -/
structure Conserves (document : Fields) (config : Config) : Prop where
  extra : ∀ key, Fields.get? key config.extra =
    if key ∈ modeledKeys then none else Fields.get? key document
  extraAscending : config.extra.Ascending
  unrecognized : ∀ key, key ∈ config.unrecognized ↔ key ∈ config.extra.keys ∧ key ∉ foreignKeys
  unrecognizedAscending : config.unrecognized.Pairwise (· < ·)
  /-- An entry is read as one part of the configuration, or it is kept with its value. -/
  readOrKept : ∀ key value, Fields.get? key document = some value → key ≠ includeKey →
    (∃! part, part ∈ parts ∧ part.key = key) ∧
        (∀ part ∈ parts, part.key = key → part.ReadFrom (some value) config) ∧
        Fields.get? key config.extra = none ∨
      (∀ part ∈ parts, part.key ≠ key) ∧ Fields.get? key config.extra = some value

theorem conserves_completed {document : Fields} {decoded : Config}
    (ascending : document.Ascending) (decodes : decode (.mapping document) = .ok decoded) :
    Conserves document (completed document decoded) where
  extra key := get?_extraOf key document
  extraAscending := ascending_extraOf ascending
  unrecognized := mem_unrecognizedOf_iff document
  unrecognizedAscending := ascending_unrecognizedOf ascending
  readOrKept := by
    intro key value found isNoList
    have kept : Fields.get? key (completed document decoded).extra = _ :=
      get?_extraOf key document
    by_cases isModeled : key ∈ modeledKeys
    · rw [if_pos isModeled] at kept
      refine .inl ⟨existsUnique_part isModeled isNoList, ?_, kept⟩
      rintro part listed rfl
      rw [← found]
      exact readFrom_of_decode decodes part listed
    · rw [if_neg isModeled, found] at kept
      refine .inr ⟨fun part listed sameKey => isModeled ?_, kept⟩
      exact (mem_modeledKeys_iff key).mpr (.inr ⟨part, listed, sameKey⟩)

/-- Entries that are not modeled are kept and change nothing else: whatever stands there, the
outcome is the same error or the same configuration apart from what is kept. -/
theorem ofDocument_conserves {document : Fields} (ascending : document.Ascending) :
    (∀ other : Fields, (∀ key ∈ modeledKeys, Fields.get? key document = Fields.get? key other) →
      (ofDocument document).map modeled = (ofDocument other).map modeled) ∧
    ∀ config, ofDocument document = .ok config → Conserves document config := by
  refine ⟨fun other same => modeled_ofDocument_congr same, fun config reads => ?_⟩
  obtain ⟨decoded, decodes, rfl⟩ := exists_completed reads
  exact conserves_completed ascending decodes

/-- A document with an entry of another part of the bot and an entry that nobody knows. -/
def smallDocument : Fields := [
  ("exchange", .mapping [("name", .text "kraken"), ("pair_whitelist", .list [.text "BTC/USDT"])]),
  ("max_open_trades", .number (.integer 3)),
  ("stake_curency", .text "USDT"),
  ("stake_currency", .text "USDT"),
  ("strategy", .text "Trend")]

theorem ofDocument_conserves_small :
    smallDocument.Ascending ∧
    (ofDocument smallDocument).map modeled =
      (ofDocument (smallDocument.filter fun entry => modeledKeys.contains entry.1)).map modeled ∧
    ∃ config, ofDocument smallDocument = .ok config ∧
      config.unrecognized = ["stake_curency"] ∧ Conserves smallDocument config := by
  have ascending : smallDocument.Ascending := by
    unfold Fields.Ascending
    decide
  have reads : (ofDocument smallDocument).toOption.any (fun config =>
      decide (config.unrecognized = ["stake_curency"])) = true := by
    decide +kernel
  obtain ⟨config, isOk, unrecognized⟩ := Traced.exists_eq_ok_of_any reads
  obtain ⟨alike, conserves⟩ := ofDocument_conserves ascending
  refine ⟨ascending, alike _ ?_, config, isOk, of_decide_eq_true unrecognized,
    conserves config isOk⟩
  decide

end Config

end BotConfig
