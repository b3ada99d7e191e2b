import BotConfig.Proofs.Matching
import BotConfig.Proofs.MergePatch
import BotConfig.Proofs.Sections

/-!
Defaults that are written out.

A section has two kinds of defaults: those of its fields, for a section that leaves some of them
out, and one for the section as a whole, for a document that leaves it out.  Where the two agree, it
makes no difference whether a default is written.  They agree for all sections but the exchange,
where they differ in two fields.
-/

namespace BotConfig

theorem Matched.holds_of_ok {ε α β : Type} {matching : α → β → Prop} {first : Except ε α}
    {second : Except ε β} {result : α} {other : β} (matched : Matched matching first second)
    (isResult : first = .ok result) (isOther : second = .ok other) : matching result other := by
  subst isResult isOther
  cases matched with
  | ok holds => exact holds

/-! ### Records that fill in defaults -/

namespace Decode

variable {α β : Type} {defaults : Fields}

/-- What is left out means its default: where a mapping lacks a key, it makes no difference whether
the default of the key is written there. -/
def FillsIn (defaults : Fields) (decode : Decoder α) : Prop :=
  ∀ key value, Fields.get? key defaults = some value →
    ∀ fields, Fields.get? key fields = none →
      decode (.mapping (Fields.insert key value fields)) = decode (.mapping fields)

namespace Record

/-- A record comes to the same with and without a default. -/
def FillsIn (defaults : Fields) (record : Record α) : Prop :=
  ∀ key value, Fields.get? key defaults = some value →
    ∀ fields, Fields.get? key fields = none →
      record.fromFields (Fields.insert key value fields) = record.fromFields fields

theorem FillsIn.pure (data : α) : FillsIn defaults (Pure.pure data) :=
  fun _ _ _ _ _ => rfl

theorem FillsIn.seq {function : Record (α → β)} {argument : Record α}
    (functions : FillsIn defaults function) (arguments : FillsIn defaults argument) :
    FillsIn defaults (function <*> argument) := by
  intro key value isDefault fields absent
  have sameFunction := functions key value isDefault fields absent
  have sameArgument := arguments key value isDefault fields absent
  exact congrArg₂ Reading.both sameFunction sameArgument

theorem FillsIn.map {function : α → β} {argument : Record α}
    (arguments : FillsIn defaults argument) : FillsIn defaults (function <$> argument) :=
  .seq (.pure function) arguments

variable {name : String} {decode : Decoder α}

/-- A field whose key has no default here is not touched. -/
theorem FillsIn.untouched {fallback : Option α} (noDefault : Fields.get? name defaults = none) :
    FillsIn defaults (.field name decode fallback) := by
  intro key value isDefault fields absent
  have different : key ≠ name := by
    rintro rfl
    rw [noDefault] at isDefault
    cases isDefault
  simp only [field, Fields.get?_insert_of_ne different]

/-- A field falls back to what its default is decoded to. -/
theorem FillsIn.defaulted {fallback : α} {default : Value}
    (written : Fields.get? name defaults = some default)
    (decodes : decode default = .ok fallback) :
    FillsIn defaults (.defaulted name decode fallback) := by
  intro key value isDefault fields absent
  by_cases here : key = name
  · subst here
    rw [written] at isDefault
    cases isDefault
    simp only [Record.defaulted, field, Fields.get?_insert_self, absent, present, decodes,
      Record.absent]
  · simp only [Record.defaulted, field, Fields.get?_insert_of_ne here]

theorem FillsIn.decoder {record : Record α} (fillsIn : FillsIn defaults record) (name : String) :
    Decode.FillsIn defaults (record.decoder name) := by
  intro key value isDefault fields absent
  simp only [Record.decoder, fillsIn key value isDefault fields absent]

/-- A field that falls back to something else than what is written. -/
theorem Matched.writtenOut {matching : α → α → Prop} {fallback data : α} {value : Value}
    {fields : Fields} (absent : Fields.get? name fields = none)
    (decodes : decode value = .ok data) (holds : matching fallback data) :
    Matched matching (.defaulted name decode fallback) fields
      (Fields.insert name value fields) := by
  simp only [Matched, Record.defaulted, Record.field, absent, Fields.get?_insert_self, present,
    decodes]
  exact .done holds

/-- What a field gives where its key is left out and where a key is written: its own default and
then what is written, or the same twice if another key is written. -/
def Replaced (isWritten : Prop) (own written first second : α) : Prop :=
  (isWritten → first = own ∧ second = written) ∧ (¬ isWritten → first = second)

/-- Only the field whose key is written gives something else than its own default. -/
theorem Matched.replaced {own written : α} {value : Value} {fields : Fields} {key : String}
    (absent : Fields.get? key fields = none) (decodes : key = name → decode value = .ok written) :
    Matched (Replaced (key = name) own written) (.defaulted name decode own) fields
      (Fields.insert key value fields) := by
  by_cases here : key = name
  · subst here
    exact .writtenOut absent (decodes rfl)
      ⟨fun _ => ⟨rfl, rfl⟩, fun elsewhere => absurd rfl elsewhere⟩
  · have same : Fields.get? name fields = Fields.get? name (Fields.insert key value fields) :=
      (Fields.get?_insert_of_ne here value fields).symm
    refine Reading.Matched.mono (Matched.field same) ?_
    rintro data _ rfl
    exact ⟨fun isHere => absurd isHere here, fun _ => rfl⟩

end Record

end Decode

open Decode (FillsIn)

/-! ### Sections -/

theorem UnfilledTimeout.fillsIn_decode : FillsIn standard.encode.sorted.entries decode := by
  refine Decode.Record.FillsIn.decoder ?_ "UnfilledTimeout"
  refine .seq ?_ (.defaulted rfl (rereads_unit standard.unit))
  refine .seq ?_ (.defaulted rfl (Decode.rereads_unsigned (by decide)))
  refine .seq ?_ (.defaulted rfl (Decode.rereads_unsigned (by decide)))
  exact .map (.defaulted rfl (Decode.rereads_unsigned (by decide)))

theorem OrderTypes.fillsIn_decode : FillsIn standard.encode.sorted.entries decode := by
  refine Decode.Record.FillsIn.decoder ?_ "OrderTypes"
  have intervalFits : standardInterval < twoTo 32 := by decide
  -- No digit of the ratio matters.
  unfold record standard
  generalize standardLimitRatio = ratio
  refine .seq ?_ (.defaulted rfl (Decode.rereads_optionalText StoplossPriceType.rereads none))
  refine .seq ?_ (.defaulted rfl (Decode.rereads_real ratio))
  refine .seq ?_ (.defaulted rfl (Decode.rereads_unsigned intervalFits))
  refine .seq ?_ (.defaulted rfl (Decode.rereads_boolean false))
  refine .seq ?_ (.defaulted rfl (OrderType.rereads .limit))
  refine .seq (.seq ?_ (.untouched rfl)) (.untouched rfl)
  refine .seq ?_ (.defaulted rfl (OrderType.rereads .market))
  refine .seq ?_ (.defaulted rfl (OrderType.rereads .limit))
  exact .map (.defaulted rfl (OrderType.rereads .limit))

theorem OrderTimeInForce.fillsIn_decode : FillsIn standard.encode.sorted.entries decode := by
  refine Decode.Record.FillsIn.decoder ?_ "OrderTimeInForce"
  refine .seq ?_ (.defaulted rfl (TimeInForce.rereads .goodTillCancelled))
  exact .map (.defaulted rfl (TimeInForce.rereads .goodTillCancelled))

theorem Pricing.fillsIn_decode : FillsIn standard.encode.sorted.entries decode := by
  refine Decode.Record.FillsIn.decoder ?_ "PricingConfig"
  refine .seq ?_ (.defaulted rfl standard.depth.rereads)
  refine .seq ?_ (.defaulted rfl (Decode.rereads_real standard.lastBalance))
  refine .seq ?_ (.defaulted rfl (Decode.rereads_unsigned (by decide)))
  refine .seq ?_ (.defaulted rfl (Decode.rereads_boolean standard.useOrderBook))
  exact .map (.defaulted rfl standard.side.rereads)

theorem Internals.fillsIn_decode : FillsIn standard.encode.sorted.entries decode := by
  refine Decode.Record.FillsIn.decoder ?_ "InternalsConfig"
  refine .seq ?_ (.defaulted rfl (Decode.rereads_boolean standard.notifySystem))
  refine .seq ?_ (.defaulted rfl (Decode.rereads_unsigned (by decide)))
  exact .map (.defaulted rfl (Decode.rereads_real standard.throttle))

/-! ### The exchange -/

namespace Exchange

/-- The defaults of the section as a whole that its fields share. -/
def sharedDefaults : Fields :=
  Fields.erase "enable_ws" (Fields.erase "markets_refresh_interval" absent.encode.sorted.entries)

theorem fillsIn_decode : FillsIn sharedDefaults decode := by
  refine Decode.Record.FillsIn.decoder ?_ "ExchangeConfig"
  refine .seq ?_ (.defaulted rfl rfl)
  refine .seq ?_ (.defaulted rfl (Decode.rereads_boolean false))
  refine .seq (.seq ?_ (.untouched rfl)) (.untouched rfl)
  refine .seq (.seq ?_ (.defaulted rfl rfl)) (.defaulted rfl rfl)
  refine .seq (.seq ?_ (.defaulted rfl rfl)) (.defaulted rfl rfl)
  refine .seq (.seq ?_ (.defaulted rfl rfl)) (.defaulted rfl rfl)
  refine .seq (.seq ?_ (.defaulted rfl rfl)) (.defaulted rfl rfl)
  exact .map (.defaulted rfl rfl)

variable {fields : Fields} {key : String} {value : Value}

/-- Where a default of the section as a whole is written for one of the two fields, that field has
it instead of its own default, and nothing else differs. -/
theorem matched_insert (isDefault : Fields.get? key absent.encode.sorted.entries = some value)
    (notGiven : Fields.get? key fields = none)
    (isOne : key = "enable_ws" ∨ key = "markets_refresh_interval") :
    Matched (fun exchange other =>
        Decode.Record.Replaced (key = "enable_ws") true false
          exchange.useWebsocket other.useWebsocket ∧
        Decode.Record.Replaced (key = "markets_refresh_interval") 60 0
          exchange.marketsRefreshInterval other.marketsRefreshInterval ∧
        other = { exchange with
          useWebsocket := other.useWebsocket
          marketsRefreshInterval := other.marketsRefreshInterval })
      (decode (.mapping fields)) (decode (.mapping (Fields.insert key value fields))) := by
  have field {α : Type} (name : String) {decode : Decode.Decoder α} {fallback : Option α}
      (isOther : name ≠ "enable_ws" ∧ name ≠ "markets_refresh_interval") :
      Decode.Record.Matched Eq (.field name decode fallback) fields
        (Fields.insert key value fields) := by
    refine .field (Fields.get?_insert_of_ne ?_ value fields).symm
    rintro rfl
    exact isOne.elim isOther.1 isOther.2
  have websocket : Decode.Record.Matched (Decode.Record.Replaced (key = "enable_ws") true false)
      (.defaulted "enable_ws" Decode.boolean standard.useWebsocket) fields
      (Fields.insert key value fields) := by
    refine .replaced notGiven ?_
    rintro rfl
    cases isDefault
    rfl
  have interval : Decode.Record.Matched
      (Decode.Record.Replaced (key = "markets_refresh_interval") 60 0)
      (.defaulted "markets_refresh_interval" (Decode.unsigned 32)
        standard.marketsRefreshInterval) fields (Fields.insert key value fields) := by
    refine .replaced notGiven ?_
    rintro rfl
    cases isDefault
    exact Decode.rereads_unsigned (by decide)
  refine Decode.Record.Matched.decoder ?_ "ExchangeConfig"
  unfold record
  refine .seqSame ?_ (field "unknown_fee_rate" (by decide))
  refine .seqSame ?_ (field "skip_pair_validation" (by decide))
  refine .seq (.seq ?_ websocket) interval
  refine .seqSame ?_ (field "pair_blacklist" (by decide))
  refine .seqSame ?_ (field "pair_whitelist" (by decide))
  refine .seqSame ?_ (field "ccxt_async_config" (by decide))
  refine .seqSame ?_ (field "ccxt_config" (by decide))
  refine .seqSame ?_ (field "uid" (by decide))
  refine .seqSame ?_ (field "password" (by decide))
  refine .seqSame ?_ (field "secret" (by decide))
  refine .seqSame ?_ (field "key" (by decide))
  refine .mapSame ?_ (field "name" (by decide))
  intro name key secret password uid options asyncOptions whitelist blacklist _ _ websockets _ _
    intervals skip rate
  exact ⟨websockets, intervals, rfl⟩

/-- A default of the section as a whole may be written where a field is left out, unless it is one
of the two. -/
theorem decode_insert_iff {exchange : Exchange}
    (isDefault : Fields.get? key absent.encode.sorted.entries = some value)
    (notGiven : Fields.get? key fields = none) (decodes : decode (.mapping fields) = .ok exchange) :
    decode (.mapping (Fields.insert key value fields)) = .ok exchange ↔
      key ≠ "enable_ws" ∧ key ≠ "markets_refresh_interval" := by
  constructor
  · intro same
    constructor
    · intro isWebsocket
      obtain ⟨websocket, -, -⟩ :=
        (matched_insert isDefault notGiven (.inl isWebsocket)).holds_of_ok decodes same
      obtain ⟨used, unused⟩ := websocket.1 isWebsocket
      cases used.symm.trans unused
    · intro isInterval
      obtain ⟨-, interval, -⟩ :=
        (matched_insert isDefault notGiven (.inr isInterval)).holds_of_ok decodes same
      obtain ⟨hourly, never⟩ := interval.1 isInterval
      cases hourly.symm.trans never
  · rintro ⟨notWebsocket, notInterval⟩
    have isShared : Fields.get? key sharedDefaults = some value := by
      rw [sharedDefaults, Fields.get?_erase_of_ne notWebsocket.symm,
        Fields.get?_erase_of_ne notInterval.symm, isDefault]
    rw [fillsIn_decode key value isShared fields notGiven, decodes]

end Exchange

/-! ### Sections that are written empty -/

theorem UnfilledTimeout.decode_nil : decode (.mapping []) = .ok standard := rfl

theorem OrderTypes.decode_nil : decode (.mapping []) = .ok standard := rfl

theorem OrderTimeInForce.decode_nil : decode (.mapping []) = .ok standard := rfl

theorem Pricing.decode_nil : decode (.mapping []) = .ok standard := rfl

theorem Exchange.decode_nil : decode (.mapping []) = .ok standard := rfl

theorem Internals.decode_nil : decode (.mapping []) = .ok standard := by
  unfold decode record standard
  generalize Binary64.ofInt 5 = throttle
  rfl

/-! ### Documents -/

namespace Config

/-- The sections whose two kinds of defaults agree. -/
def agreeingSections : List String := [
  "unfilledtimeout", "order_types", "order_time_in_force", "entry_pricing", "exit_pricing",
  "internals"]

/-- The sections that may be left out. -/
def defaultedSections : List String := "exchange" :: agreeingSections

theorem fillsIn_decode :
    FillsIn (agreeingSections.map fun name => (name, Value.mapping [])) decode := by
  refine Decode.Record.FillsIn.decoder ?_ "TradingConfig"
  unfold record
  refine .seq (.seq (.seq ?_ (.pure [])) (.pure [])) (.pure [])
  refine .seq ?_ (.defaulted rfl Internals.decode_nil)
  refine .seq (.seq ?_ (.untouched rfl)) (.untouched rfl)
  refine .seq (.seq ?_ (.untouched rfl)) (.untouched rfl)
  refine .seq (.seq ?_ (.untouched rfl)) (.untouched rfl)
  refine .seq ?_ (.untouched rfl)
  refine .seq ?_ (.defaulted rfl Pricing.decode_nil)
  refine .seq ?_ (.defaulted rfl Pricing.decode_nil)
  refine .seq ?_ (.defaulted rfl OrderTimeInForce.decode_nil)
  refine .seq ?_ (.defaulted rfl OrderTypes.decode_nil)
  refine .seq ?_ (.defaulted rfl UnfilledTimeout.decode_nil)
  refine .seq (.seq ?_ (.untouched rfl)) (.untouched rfl)
  refine .seq (.seq ?_ (.untouched rfl)) (.untouched rfl)
  refine .seq (.seq ?_ (.untouched rfl)) (.untouched rfl)
  refine .seq (.seq ?_ (.untouched rfl)) (.untouched rfl)
  refine .seq (.seq ?_ (.untouched rfl)) (.untouched rfl)
  refine .seq (.seq ?_ (.untouched rfl)) (.untouched rfl)
  exact .map (.untouched rfl)

/-- An exchange that is left out is not the one that is written empty. -/
theorem matched_writtenExchange {document : Fields}
    (notGiven : Fields.get? "exchange" document = none) :
    Matched (fun config other => config.exchange = .absent ∧
        other = { config with exchange := .standard })
      (decode (.mapping document))
      (decode (.mapping (Fields.insert "exchange" (.mapping []) document))) := by
  have elsewhere (key : String) (isOther : key ≠ "exchange") :=
    (Fields.get?_insert_of_ne isOther.symm (.mapping []) document).symm
  have exchange : Decode.Record.Matched
      (fun exchange other => exchange = Exchange.absent ∧ other = Exchange.standard)
      (.defaulted "exchange" Exchange.decode .absent) document
      (Fields.insert "exchange" (.mapping []) document) :=
    .writtenOut notGiven Exchange.decode_nil ⟨rfl, rfl⟩
  have sameKeys (key : String) (_ : key ∈ modeledKeys) (unpaired : key ∉ pairedKeys) :
      Fields.get? key document =
        Fields.get? key (Fields.insert "exchange" (.mapping []) document) := by
    refine elsewhere key ?_
    rintro rfl
    exact unpaired (by decide)
  refine (matched_decode sameKeys (.field (elsewhere "dry_run" (by decide))) exchange
    (.field (elsewhere "api_server" (by decide)))
    (.field (elsewhere "telegram" (by decide)))).mono ?_
  rintro config other ⟨sameDryRun, ⟨isAbsent, isStandard⟩, sameApiServer, sameTelegram, rest⟩
  rw [← sameDryRun, isStandard, ← sameApiServer, ← sameTelegram] at rest
  exact ⟨isAbsent, rest⟩

/-- A section may be written empty where it is left out, unless it is the exchange. -/
theorem decode_insert_empty_iff {name : String} {document : Fields} {config : Config}
    (isDefaulted : name ∈ defaultedSections) (notGiven : Fields.get? name document = none)
    (decodes : decode (.mapping document) = .ok config) :
    decode (.mapping (Fields.insert name (.mapping []) document)) = .ok config ↔
      name ≠ "exchange" := by
  constructor
  · rintro same rfl
    obtain ⟨isAbsent, isStandard⟩ := (matched_writtenExchange notGiven).holds_of_ok decodes same
    rw [isStandard] at isAbsent
    have sameWebsocket := congrArg Exchange.useWebsocket isAbsent
    cases sameWebsocket
  · intro different
    have agrees : name ∈ agreeingSections := (List.mem_cons.mp isDefaulted).resolve_left different
    have isEmpty : Fields.get? name (agreeingSections.map fun name => (name, Value.mapping [])) =
        some (.mapping []) := by
      simp only [agreeingSections, List.mem_cons, List.not_mem_nil, or_false] at agrees
      obtain rfl | rfl | rfl | rfl | rfl | rfl := agrees <;> rfl
    rw [fillsIn_decode name _ isEmpty document notGiven, decodes]

/-- Defaults may be written out where a key is left out.  A section that is left out may be written
empty unless it is the exchange.  A field that is left out of a section may be written as the
section as a whole has it, unless it is one of two fields of the exchange.  These two it has
otherwise than its fields do: written empty, an exchange uses websockets and reloads markets every
hour, left out it does neither, and nothing else differs. -/
theorem sections_fill_in {key : String} {fields : Fields}
    (notGiven : Fields.get? key fields = none) :
    (∀ config, key ∈ defaultedSections → decode (.mapping fields) = .ok config →
      (decode (.mapping (Fields.insert key (.mapping []) fields)) = .ok config ↔
        key ≠ "exchange")) ∧
    (key = "exchange" →
      Matched (fun config other => config.exchange = .absent ∧
          other = { config with exchange := .standard })
        (decode (.mapping fields)) (decode (.mapping (Fields.insert key (.mapping []) fields)))) ∧
    FillsIn UnfilledTimeout.standard.encode.sorted.entries UnfilledTimeout.decode ∧
    FillsIn OrderTypes.standard.encode.sorted.entries OrderTypes.decode ∧
    FillsIn OrderTimeInForce.standard.encode.sorted.entries OrderTimeInForce.decode ∧
    FillsIn Pricing.standard.encode.sorted.entries Pricing.decode ∧
    FillsIn Internals.standard.encode.sorted.entries Internals.decode ∧
    ∀ value, Fields.get? key Exchange.absent.encode.sorted.entries = some value →
      (∀ exchange, Exchange.decode (.mapping fields) = .ok exchange →
        (Exchange.decode (.mapping (Fields.insert key value fields)) = .ok exchange ↔
          key ≠ "enable_ws" ∧ key ≠ "markets_refresh_interval")) ∧
      (key = "enable_ws" →
        Matched (fun exchange other => exchange.useWebsocket = true ∧
            other = { exchange with useWebsocket := false })
          (Exchange.decode (.mapping fields))
          (Exchange.decode (.mapping (Fields.insert key value fields)))) ∧
      (key = "markets_refresh_interval" →
        Matched (fun exchange other => exchange.marketsRefreshInterval = 60 ∧
            other = { exchange with marketsRefreshInterval := 0 })
          (Exchange.decode (.mapping fields))
          (Exchange.decode (.mapping (Fields.insert key value fields)))) := by
  refine ⟨fun config isDefaulted decodes => decode_insert_empty_iff isDefaulted notGiven decodes,
    ?_, UnfilledTimeout.fillsIn_decode, OrderTypes.fillsIn_decode,
    OrderTimeInForce.fillsIn_decode, Pricing.fillsIn_decode, Internals.fillsIn_decode, ?_⟩
  · rintro rfl
    exact matched_writtenExchange notGiven
  · intro value isDefault
    refine ⟨fun exchange decodes => Exchange.decode_insert_iff isDefault notGiven decodes, ?_, ?_⟩
    · rintro rfl
      refine (Exchange.matched_insert isDefault notGiven (.inl rfl)).mono ?_
      rintro exchange other ⟨websocket, interval, rest⟩
      rw [(websocket.1 rfl).2, ← interval.2 (by decide)] at rest
      exact ⟨(websocket.1 rfl).1, rest⟩
    · rintro rfl
      refine (Exchange.matched_insert isDefault notGiven (.inr rfl)).mono ?_
      rintro exchange other ⟨websocket, interval, rest⟩
      rw [(interval.1 rfl).2, ← websocket.2 (by decide)] at rest
      exact ⟨(interval.1 rfl).1, rest⟩

/-- A document that gives nothing but what must be given. -/
def sparse : Fields := [("max_open_trades", Encode.natural 3)]

theorem exists_decode_sparse : ∃ config other, decode (.mapping sparse) = .ok config ∧
    decode (.mapping (Fields.insert "exchange" (.mapping []) sparse)) = .ok other := by
  have succeeds : (decode (.mapping sparse)).isOk = true ∧
      (decode (.mapping (Fields.insert "exchange" (.mapping []) sparse))).isOk = true := by
    decide +kernel
  obtain ⟨isOk, otherIsOk⟩ := succeeds
  cases decoded : decode (.mapping sparse) with
  | error failure =>
      rw [decoded] at isOk
      cases isOk
  | ok config =>
      cases otherDecoded : decode (.mapping (Fields.insert "exchange" (.mapping []) sparse)) with
      | error failure =>
          rw [otherDecoded] at otherIsOk
          cases otherIsOk
      | ok other => exact ⟨config, other, rfl, rfl⟩

theorem sections_fill_in_sparse : ∃ config other,
    decode (.mapping sparse) = .ok config ∧
    decode (.mapping (Fields.insert "order_types" (.mapping []) sparse)) = .ok config ∧
    decode (.mapping (Fields.insert "exchange" (.mapping []) sparse)) = .ok other ∧
    config.exchange = .absent ∧ other = { config with exchange := .standard } ∧
    OrderTypes.decode (.mapping [("entry", .text "limit"), ("exit", .text "market")]) =
      OrderTypes.decode (.mapping [("exit", .text "market")]) ∧
    Exchange.decode (.mapping [("key", .text ""), ("name", .text "kraken")]) =
      .ok { Exchange.standard with name := "kraken" } := by
  obtain ⟨config, other, decodes, otherDecodes⟩ := exists_decode_sparse
  obtain ⟨ofOrderTypes, -, -, orderTypes, -⟩ := @sections_fill_in "order_types" sparse rfl
  obtain ⟨-, ofExchange, -⟩ := @sections_fill_in "exchange" sparse rfl
  obtain ⟨-, -, -, -, -, -, -, exchange⟩ :=
    @sections_fill_in "key" [("name", .text "kraken")] rfl
  obtain ⟨isAbsent, isStandard⟩ := (ofExchange rfl).holds_of_ok decodes otherDecodes
  have emptied := (ofOrderTypes config (by decide) decodes).mpr (by decide)
  have key := ((exchange (.text "") rfl).1 { Exchange.standard with name := "kraken" } rfl).mpr
    (by decide)
  exact ⟨config, other, decodes, emptied, otherDecodes, isAbsent, isStandard,
    orderTypes "entry" (.text "limit") rfl [("exit", .text "market")] rfl, key⟩

/-- Leaving out the exchange and writing it empty give configurations that are not equal. -/
theorem sparse_exchange_differs :
    ∃ config other, decode (.mapping sparse) = .ok config ∧
      decode (.mapping (Fields.insert "exchange" (.mapping []) sparse)) = .ok other ∧
      config.agrees other = false := by
  obtain ⟨config, other, decodes, otherDecodes⟩ := exists_decode_sparse
  obtain ⟨isAbsent, isStandard⟩ :=
    (@matched_writtenExchange sparse rfl).holds_of_ok decodes otherDecodes
  have different : Exchange.absent.agrees .standard = false := by decide
  have exchangesDiffer : config.exchange.agrees other.exchange = false := by
    rw [isAbsent, isStandard]
    exact different
  refine ⟨config, other, decodes, otherDecodes, ?_⟩
  simp only [agrees, exchangesDiffer, Bool.and_false, Bool.false_and]

end Config

end BotConfig
