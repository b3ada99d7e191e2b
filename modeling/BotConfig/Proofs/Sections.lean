import BotConfig.Config
import BotConfig.Proofs.Rereading

/-!
Sections are read back as they are written.
-/

namespace BotConfig

open Decode

/-! ### Choices -/

theorem TradingMode.rereads (mode : TradingMode) :
    Rereads decode (fun mode => .text mode.name) mode := by
  cases mode <;> rfl

theorem MarginMode.rereads (mode : MarginMode) :
    Rereads decode (fun mode => .text mode.name) mode := by
  cases mode <;> rfl

theorem UnfilledTimeout.rereads_unit (unit : TimeoutUnit) :
    Rereads unitDecoder (fun unit => .text unit.name) unit := by
  cases unit <;> rfl

theorem OrderType.rereads (type : OrderType) :
    Rereads decode (fun type => .text type.name) type := by
  cases type <;> rfl

theorem StoplossPriceType.rereads (type : StoplossPriceType) :
    Rereads decode (fun type => .text type.name) type := by
  cases type <;> rfl

theorem TimeInForce.rereads (code : TimeInForce) :
    Rereads decode (fun code => .text code.name) code := by
  cases code <;> rfl

theorem PriceSide.rereads (side : PriceSide) :
    Rereads decode (fun side => .text side.name) side := by
  cases side <;> rfl

theorem InitialState.rereads (state : InitialState) :
    Rereads decode (fun state => .text state.name) state := by
  cases state <;> rfl

theorem ApiVerbosity.rereads (level : ApiVerbosity) :
    Rereads decode (fun level => .text level.name) level := by
  cases level <;> rfl

theorem PairlistMethod.rereads (method : PairlistMethod) :
    Rereads decode (fun method => .text method.name) method := by
  cases method <;> rfl

/-! ### Pairs -/

namespace Pair

theorem eq_append_of_splitFirst? {separator : Char} {text before after : List Char}
    (splits : splitFirst? separator text = some (before, after)) :
    text = before ++ separator :: after := by
  induction text generalizing before with
  | nil => cases splits
  | cons c rest inductionHypothesis =>
      rw [splitFirst?] at splits
      split at splits
      · rename_i isSeparator
        cases splits
        rw [isSeparator, List.nil_append]
      · obtain ⟨⟨first, second⟩, restSplits, same⟩ := Option.map_eq_some_iff.mp splits
        cases same
        rw [inductionHypothesis restSplits, List.cons_append]

theorem toList_text (pair : Pair) : pair.text.toList = pair.base.toList ++ '/' ::
    (pair.quote.toList ++ match pair.settle with
      | some settle => ':' :: settle.toList
      | none => []) := by
  unfold text
  cases pair.settle <;> simp

/-- The text that a pair is read from is the text of the pair. -/
theorem text_of_ofText (content : String) :
    Yields (fun pair => pair.text = content) (ofText content) := by
  unfold ofText ofChars
  split
  · rename_i base rest splits
    refine .bind (.any _) fun _ _ => .bind (.any _) fun _ _ => ?_
    cases settles : splitFirst? ':' rest with
    | none =>
        refine .ok ?_
        rw [← String.toList_inj, toList_text, eq_append_of_splitFirst? splits]
        simp
    | some parts =>
        refine .bind (.any _) fun _ _ => .ok ?_
        rw [← String.toList_inj, toList_text, eq_append_of_splitFirst? splits,
          eq_append_of_splitFirst? settles]
        simp
  · exact .error _

theorem pair_text (content : String) : Decode.pair (.text content) =
    match ofText content with
    | .ok pair => .ok pair
    | .error fault => fail (.malformedPair content fault) := rfl

theorem faithful : Faithful Decode.pair (fun pair => .text pair.text) := by
  intro value _
  cases value with
  | text content =>
      rw [pair_text]
      split
      · rename_i pair reads
        have same : pair.text = content := text_of_ofText content pair reads
        refine .ok ?_
        change Decode.pair (.text pair.text) = .ok pair
        rw [same, pair_text, reads]
      · exact .error _
  | _ => exact .error _

end Pair

/-! ### Addresses -/

namespace Address

theorem parts_append {digits : List Char} (noPoint : '.' ∉ digits) (rest : List Char) :
    parts (digits ++ '.' :: rest) = digits :: parts rest := by
  induction digits with
  | nil => rfl
  | cons c others inductionHypothesis =>
      obtain ⟨different, othersNoPoint⟩ := not_or.mp (mt List.mem_cons.mpr noPoint)
      rw [List.cons_append, parts, inductionHypothesis othersNoPoint]
      exact fun same => different same.symm

theorem parts_of_noPoint {digits : List Char} (noPoint : '.' ∉ digits) :
    parts digits = [digits] := by
  induction digits with
  | nil => rfl
  | cons c others inductionHypothesis =>
      obtain ⟨different, othersNoPoint⟩ := not_or.mp (mt List.mem_cons.mpr noPoint)
      rw [parts, inductionHypothesis othersNoPoint]
      exact fun same => different same.symm

theorem point_notMem_toString (n : Nat) : '.' ∉ (toString n).toList := by
  intro membership
  rw [Decimal.toList_toString] at membership
  exact absurd (Nat.isDigit_of_mem_toDigits (by decide) (by decide) membership) (by decide)

/-- Four bytes. -/
structure Sound (address : Address) : Prop where
  first : address.first < 256
  second : address.second < 256
  third : address.third < 256
  fourth : address.fourth < 256

theorem byte?_toString {n : Nat} (isByte : n < 256) : byte? (toString n).toList = some n := by
  have all : ∀ n < 256, byte? (toString n).toList = some n := by decide +kernel
  exact all n isByte

theorem toList_text (address : Address) : address.text.toList =
    (toString address.first).toList ++ '.' :: ((toString address.second).toList ++ '.' ::
      ((toString address.third).toList ++ '.' :: (toString address.fourth).toList)) := by
  simp [text]

theorem ofText?_text {address : Address} (sound : address.Sound) :
    ofText? address.text = some address := by
  have splits : parts address.text.toList = [(toString address.first).toList,
      (toString address.second).toList, (toString address.third).toList,
      (toString address.fourth).toList] := by
    rw [toList_text, parts_append (point_notMem_toString _), parts_append (point_notMem_toString _),
      parts_append (point_notMem_toString _), parts_of_noPoint (point_notMem_toString _)]
  rw [ofText?, splits]
  simp only [byte?_toString sound.first, byte?_toString sound.second, byte?_toString sound.third,
    byte?_toString sound.fourth]
  rfl

theorem lt_of_byte? {text : List Char} {n : Nat} (reads : byte? text = some n) : n < 256 := by
  unfold byte? at reads
  split at reads
  · cases reads
  · cases reads
    decide
  · cases reads
  · split at reads
    · dsimp only at reads
      split at reads
      · rename_i isByte
        cases reads
        exact isByte
      · cases reads
    · cases reads

theorem sound_of_ofText? {text : String} {address : Address}
    (reads : ofText? text = some address) : address.Sound := by
  unfold ofText? at reads
  split at reads
  · obtain ⟨first, isFirst, reads⟩ := Option.bind_eq_some_iff.mp reads
    obtain ⟨second, isSecond, reads⟩ := Option.bind_eq_some_iff.mp reads
    obtain ⟨third, isThird, reads⟩ := Option.bind_eq_some_iff.mp reads
    obtain ⟨fourth, isFourth, reads⟩ := Option.bind_eq_some_iff.mp reads
    cases reads
    exact ⟨lt_of_byte? isFirst, lt_of_byte? isSecond, lt_of_byte? isThird, lt_of_byte? isFourth⟩
  · cases reads

theorem faithful : Faithful decode (fun address => .text address.text) := by
  intro value _
  unfold decode
  split
  · split
    · rename_i reads
      refine .ok ?_
      simp only [Rereads, Value.sorted, ofText?_text (sound_of_ofText? reads)]
    · exact .error _
  · exact .error _

end Address

/-! ### Stages -/

namespace PairlistStage

/-- The parameters are in order, and the method is none of them. -/
structure Sound (stage : PairlistStage) : Prop where
  ordered : stage.parameters.Ordered
  withoutMethod : Fields.get? methodKey stage.parameters = none

theorem ensures_sound : Ensures Sound decode := by
  intro value regular
  unfold decode
  split
  · split
    · exact .error _
    · split
      · refine .ok ⟨regular.fields.erase methodKey, ?_⟩
        rw [regular.fields.ascending.get?_erase, if_pos rfl]
      · exact .error _
  · exact .error _

theorem rereads {stage : PairlistStage} (sound : stage.Sound) : Rereads decode encode stage := by
  have method : PairlistMethod.decode (.text stage.method.name) = .ok stage.method :=
    stage.method.rereads
  have parameters := Fields.erase_insert sound.ordered.ascending sound.withoutMethod
    (.text stage.method.name)
  rw [Rereads, encode, Value.sorted, Value.sortedFields, sound.ordered.sortedFields_eq]
  simp only [Value.sorted, decode, Fields.get?_insert_self, method, parameters]

theorem faithful : Faithful decode encode :=
  fun value regular stage reads => rereads (ensures_sound value regular stage reads)

theorem sound_standard : ∀ stage ∈ PairlistChain.standard, stage.Sound := by
  intro stage membership
  rw [List.mem_singleton.mp membership]
  exact ⟨Fields.ordered_nil, rfl⟩

end PairlistStage

/-! ### Orders -/

theorem UnfilledTimeout.rereads {timeout : UnfilledTimeout} (entryFits : timeout.entry < twoTo 32)
    (exitFits : timeout.exit < twoTo 32) (countFits : timeout.exitTimeoutCount < twoTo 32) :
    Rereads decode encode timeout := by
  obtain ⟨entry, exit, count, unit⟩ := timeout
  refine Record.Gives.rereads ?_ rfl
  refine .seq ?_ (.field (rereads_unit unit) rfl)
  refine .seq ?_ (.field (rereads_unsigned countFits) rfl)
  refine .seq ?_ (.field (rereads_unsigned exitFits) rfl)
  exact .map (.field (rereads_unsigned entryFits) rfl)

theorem UnfilledTimeout.faithful : Faithful decode encode := by
  refine Record.Ensures.decoder ?_ "UnfilledTimeout"
  refine .seqAny ?_
  refine .seq ?_ (.defaulted (ensures_unsigned 32) (by decide))
  refine .seq ?_ (.defaulted (ensures_unsigned 32) (by decide))
  refine .map ?_ (.defaulted (ensures_unsigned 32) (by decide))
  intro entry entryFits exit exitFits count countFits unit
  exact rereads entryFits exitFits countFits

namespace OrderTypes

/-- A style that is written only if it is set is read back in either case. -/
theorem gives_ifSet {name : String} {entries : Fields} (type : Option OrderType)
    (written : Fields.get? name entries = type.map fun type => .text type.name) :
    Record.Gives (.defaulted name (Decode.optional OrderType.decode) none)
      (Value.sortedFields entries) (.done type) := by
  cases type with
  | none => exact .absent written
  | some type =>
      have rereads := rereads_optionalText OrderType.rereads (some type)
      exact .field rereads written

theorem rereads {types : OrderTypes} (intervalFits : types.stoplossInterval < twoTo 32) :
    Rereads decode encode types := by
  obtain ⟨entry, exit, emergencyExit, forceExit, forceEntry, stoploss, onExchange, interval, ratio,
    priceType⟩ := types
  refine Record.Gives.rereads ?_ rfl
  -- Where the later entries stand depends on the styles that are set.
  refine .seq ?_ (.field (rereads_optionalText StoplossPriceType.rereads priceType)
    (by cases forceExit <;> cases forceEntry <;> rfl))
  refine .seq ?_ (.field (rereads_real ratio) (by cases forceExit <;> cases forceEntry <;> rfl))
  refine .seq ?_ (.field (rereads_unsigned intervalFits)
    (by cases forceExit <;> cases forceEntry <;> rfl))
  refine .seq ?_ (.field (rereads_boolean onExchange)
    (by cases forceExit <;> cases forceEntry <;> rfl))
  refine .seq ?_ (.field stoploss.rereads (by cases forceExit <;> cases forceEntry <;> rfl))
  refine .seq ?_ (gives_ifSet forceEntry (by cases forceExit <;> cases forceEntry <;> rfl))
  refine .seq ?_ (gives_ifSet forceExit (by cases forceExit <;> cases forceEntry <;> rfl))
  refine .seq ?_ (.field emergencyExit.rereads rfl)
  refine .seq ?_ (.field exit.rereads rfl)
  exact .map (.field entry.rereads rfl)

theorem faithful : Faithful decode encode := by
  refine Record.Ensures.decoder ?_ "OrderTypes"
  refine .seqAny (.seqAny ?_)
  refine .seq ?_ (.defaulted (ensures_unsigned 32) (by decide))
  refine .seqAny (.seqAny (.seqAny (.seqAny (.seqAny (.seqAny (.mapAny ?_))))))
  intro entry exit emergencyExit forceExit forceEntry stoploss onExchange interval intervalFits
    ratio priceType
  exact rereads intervalFits

end OrderTypes

theorem OrderTimeInForce.rereads (times : OrderTimeInForce) : Rereads decode encode times := by
  obtain ⟨entry, exit⟩ := times
  refine Record.Gives.rereads ?_ rfl
  refine .seq ?_ (.field exit.rereads rfl)
  exact .map (.field entry.rereads rfl)

theorem OrderTimeInForce.faithful : Faithful decode encode :=
  fun _ _ times _ => times.rereads

/-! ### Prices -/

theorem MarketDepth.rereads (depth : MarketDepth) : Rereads decode encode depth := by
  obtain ⟨enabled, bidsToAsks⟩ := depth
  refine Record.Gives.rereads ?_ rfl
  refine .seq ?_ (.field (rereads_real bidsToAsks) rfl)
  exact .map (.field (rereads_boolean enabled) rfl)

theorem Pricing.rereads {pricing : Pricing} (topFits : pricing.orderBookTop < twoTo 32) :
    Rereads decode encode pricing := by
  obtain ⟨side, useOrderBook, top, lastBalance, depth⟩ := pricing
  refine Record.Gives.rereads ?_ rfl
  refine .seq ?_ (.field depth.rereads rfl)
  refine .seq ?_ (.field (rereads_real lastBalance) rfl)
  refine .seq ?_ (.field (rereads_unsigned topFits) rfl)
  refine .seq ?_ (.field (rereads_boolean useOrderBook) rfl)
  exact .map (.field side.rereads rfl)

theorem Pricing.faithful : Faithful decode encode := by
  refine Record.Ensures.decoder ?_ "PricingConfig"
  refine .seqAny (.seqAny ?_)
  refine .seq ?_ (.defaulted (ensures_unsigned 32) (by decide))
  refine .seqAny (.mapAny ?_)
  intro side useOrderBook top topFits lastBalance depth
  exact rereads topFits

/-! ### The control loop and position sizes -/

theorem Internals.rereads {internals : Internals} (heartbeatFits : internals.heartbeat < twoTo 32) :
    Rereads decode encode internals := by
  obtain ⟨throttle, heartbeat, notifySystem⟩ := internals
  refine Record.Gives.rereads ?_ rfl
  refine .seq ?_ (.field (rereads_boolean notifySystem) rfl)
  refine .seq ?_ (.field (rereads_unsigned heartbeatFits) rfl)
  exact .map (.field (rereads_real throttle) rfl)

theorem Internals.faithful : Faithful decode encode := by
  refine Record.Ensures.decoder ?_ "InternalsConfig"
  refine .seqAny ?_
  refine .seq ?_ (.defaulted (ensures_unsigned 32) (by decide))
  refine .mapAny ?_
  intro throttle heartbeat heartbeatFits notifySystem
  exact rereads heartbeatFits

theorem Edge.faithful : Faithful decode encode := by
  refine Record.Ensures.decoder ?_ "EdgeConfig"
  refine .seqAny ?_
  refine .seq ?_ (.defaulted (ensures_unsigned 32) (by decide))
  refine .seq ?_ (.defaulted (ensures_unsigned 32) (by decide))
  refine .seqAny (.seqAny (.seqAny (.seqAny (.seqAny (.seqAny ?_)))))
  refine .seq ?_ (.defaulted (ensures_unsigned 32) (by decide))
  refine .seq ?_ (.required (ensures_unsigned 64))
  refine .mapAny ?_
  intro enabled throttle throttleFits days daysFit risk minimum maximum step winRate expectancy
    trades tradesFit longest longestFits removePumps
  refine Record.Gives.rereads ?_ rfl
  refine .seq ?_ (.field (rereads_boolean removePumps) rfl)
  refine .seq ?_ (.field (rereads_unsigned longestFits) rfl)
  refine .seq ?_ (.field (rereads_unsigned tradesFit) rfl)
  refine .seq ?_ (.field (rereads_real expectancy) rfl)
  refine .seq ?_ (.field (rereads_real winRate) rfl)
  refine .seq ?_ (.field (rereads_real step) rfl)
  refine .seq ?_ (.field (rereads_real maximum) rfl)
  refine .seq ?_ (.field (rereads_real minimum) rfl)
  refine .seq ?_ (.field (rereads_real risk) rfl)
  refine .seq ?_ (.field (rereads_unsigned daysFit) rfl)
  refine .seq ?_ (.field (rereads_unsigned throttleFits) rfl)
  exact .map (.field (rereads_boolean enabled) rfl)

/-! ### Remote control -/

theorem ApiServer.faithful : Faithful decode encode := by
  refine Record.Ensures.decoder ?_ "ApiServerConfig"
  refine .seqAny ?_
  refine .seq ?_ (.spelledTwoWays (.any _) trivial)
  refine .seqAny ?_
  refine .seq ?_ (.defaulted faithful_optionalFreeText rfl)
  refine .seqAny (.seqAny ?_)
  refine .seq ?_ (.defaulted (ensures_unsigned 16).optional (by simp [standard]))
  refine .seq ?_ (.defaulted Address.faithful.optional (by simp [standard]))
  refine .mapAny ?_
  intro enabled address addressRereads port portFits username password tokenKey tokenKeyRereads
    tokens origins _ verbosity
  refine Record.Gives.rereads ?_ rfl
  refine .seq ?_ (.field verbosity.rereads rfl)
  refine .seq ?_ (.spelledTwoWays (rereads_listOf fun origin _ => rereads_text origin) rfl rfl)
  refine .seq ?_ (.field (rereads_texts tokens) rfl)
  refine .seq ?_ (.field tokenKeyRereads rfl)
  refine .seq ?_ (.field (rereads_freeText password) rfl)
  refine .seq ?_ (.field (rereads_freeText username) rfl)
  refine .seq ?_ (.field (rereads_optional
    (fun port given => rereads_unsigned (portFits port given)) fun _ => nofun) rfl)
  refine .seq ?_ (.field (rereads_optional addressRereads fun _ => nofun) rfl)
  exact .map (.field (rereads_boolean enabled) rfl)

theorem Telegram.faithful : Faithful decode encode := by
  refine Record.Ensures.decoder ?_ "TelegramConfig"
  refine .seq ?_ (.defaulted ensures_fields Fields.ordered_nil)
  refine .seqAny (.seqAny (.seqAny ?_))
  refine .seq ?_ (.defaulted faithful_optionalFreeText rfl)
  refine .seqAny (.seqAny (.mapAny ?_))
  intro enabled token chatId topicId topicIdRereads users reload dustLevel notices noticesOrdered
  refine Record.Gives.rereads ?_ rfl
  refine .seq ?_ (.field (rereads_fields noticesOrdered) rfl)
  refine .seq ?_ (.field (rereads_optional (fun level _ => rereads_real level) fun _ => nofun) rfl)
  refine .seq ?_ (.field (rereads_boolean reload) rfl)
  refine .seq ?_ (.field (rereads_listOf fun user _ => rereads_text user) rfl)
  refine .seq ?_ (.field topicIdRereads rfl)
  refine .seq ?_ (.field (rereads_freeText chatId) rfl)
  refine .seq ?_ (.field (rereads_freeText token) rfl)
  exact .map (.field (rereads_boolean enabled) rfl)

/-! ### The exchange -/

namespace Exchange

/-- What keeps an exchange from being read back otherwise. -/
structure Sound (exchange : Exchange) : Prop where
  password : Rereads optionalFreeText (Encode.optional .text) exchange.password
  uid : Rereads optionalFreeText (Encode.optional .text) exchange.uid
  clientOptions : exchange.clientOptions.Ordered
  asyncClientOptions : exchange.asyncClientOptions.Ordered
  whitelist : ∀ pair ∈ exchange.whitelist, Rereads Decode.pair (fun pair => .text pair.text) pair
  interval : exchange.marketsRefreshInterval < twoTo 32

theorem ensures_sound : Ensures Sound decode := by
  refine Record.Ensures.decoder ?_ "ExchangeConfig"
  refine .seqAny (.seqAny ?_)
  refine .seq ?_ (.defaulted (ensures_unsigned 32) (by decide))
  refine .seqAny (.seqAny ?_)
  refine .seq ?_ (.defaulted Pair.faithful.listOf (by simp [standard]))
  refine .seq ?_ (.defaulted ensures_fields Fields.ordered_nil)
  refine .seq ?_ (.defaulted ensures_fields Fields.ordered_nil)
  refine .seq ?_ (.defaulted faithful_optionalFreeText rfl)
  refine .seq ?_ (.defaulted faithful_optionalFreeText rfl)
  refine .seqAny (.seqAny (.mapAny ?_))
  intro name key secret password passwordRereads uid uidRereads clientOptions clientOrdered
    asyncClientOptions asyncClientOrdered whitelist pairsReread blacklist useWebsocket interval
    intervalFits skip rate
  exact ⟨passwordRereads, uidRereads, clientOrdered, asyncClientOrdered, pairsReread, intervalFits⟩

theorem sound_absent : absent.Sound :=
  ⟨rfl, rfl, Fields.ordered_nil, Fields.ordered_nil, by simp [absent, standard], by decide⟩

theorem rereads {exchange : Exchange} (sound : exchange.Sound) :
    Rereads decode encode exchange := by
  obtain ⟨name, key, secret, password, uid, clientOptions, asyncClientOptions, whitelist, blacklist,
    useWebsocket, interval, skip, rate⟩ := exchange
  refine Record.Gives.rereads ?_ rfl
  refine .seq ?_ (.field (rereads_optional (fun rate _ => rereads_real rate) fun _ => nofun) rfl)
  refine .seq ?_ (.field (rereads_boolean skip) rfl)
  refine .seq ?_ (.field (rereads_unsigned sound.interval) rfl)
  refine .seq ?_ (.field (rereads_boolean useWebsocket) rfl)
  refine .seq ?_ (.field (rereads_listOf fun pattern _ => rereads_text pattern) rfl)
  refine .seq ?_ (.field (rereads_listOf sound.whitelist) rfl)
  refine .seq ?_ (.field (rereads_fields sound.asyncClientOptions) rfl)
  refine .seq ?_ (.field (rereads_fields sound.clientOptions) rfl)
  refine .seq ?_ (.field sound.uid rfl)
  refine .seq ?_ (.field sound.password rfl)
  refine .seq ?_ (.field (rereads_freeText secret) rfl)
  refine .seq ?_ (.field (rereads_freeText key) rfl)
  exact .map (.field (rereads_text name) rfl)

theorem faithful : Faithful decode encode :=
  fun value regular exchange reads => rereads (ensures_sound value regular exchange reads)

theorem Sound.withoutCredentials {exchange : Exchange} (sound : exchange.Sound) :
    exchange.withoutCredentials.Sound :=
  { sound with password := rfl, uid := rfl }

end Exchange

/-! ### Every section -/

/-- Reading a section settles how it is spelled: whatever value it is read from, it is written as a
value that it is read from again. -/
theorem sections_faithful :
    Faithful Exchange.decode Exchange.encode ∧
    Faithful PairlistStage.decode PairlistStage.encode ∧
    Faithful OrderTypes.decode OrderTypes.encode ∧
    Faithful OrderTimeInForce.decode OrderTimeInForce.encode ∧
    Faithful UnfilledTimeout.decode UnfilledTimeout.encode ∧
    Faithful Pricing.decode Pricing.encode ∧
    Faithful Edge.decode Edge.encode ∧
    Faithful ApiServer.decode ApiServer.encode ∧
    Faithful Telegram.decode Telegram.encode ∧
    Faithful Internals.decode Internals.encode :=
  ⟨Exchange.faithful, PairlistStage.faithful, OrderTypes.faithful, OrderTimeInForce.faithful,
    UnfilledTimeout.faithful, Pricing.faithful, Edge.faithful, ApiServer.faithful,
    Telegram.faithful, Internals.faithful⟩

/-- The settings of a server with a number for its password, one token for a list of them, and its
origins under their second spelling. -/
def ApiServer.loose : Fields :=
  Fields.insert "cors_origins" (.list [.text "http://localhost"])
    (Fields.insert "password" (.number (.integer 1234))
      (Fields.insert "ws_token" (.text "token") []))

theorem sections_faithful_loose :
    ∃ server, ApiServer.decode (.mapping ApiServer.loose) = .ok server ∧
      server.password = "1234" ∧ server.websocketTokens = ["token"] ∧
      server.encode.sorted ≠ .mapping ApiServer.loose ∧
      ApiServer.decode server.encode.sorted = .ok server := by
  have regular : (Value.mapping ApiServer.loose).Regular := by
    have closed := Value.closed_regular
    have password : (Value.number (.integer 1234)).Regular :=
      closed.number ⟨by decide, by decide⟩
    have origins : (Value.list [.text "http://localhost"]).Regular :=
      closed.list (List.forall_mem_singleton.mpr (closed.text _))
    exact closed.insert (closed.insert (closed.insert closed.empty (closed.text _) _) password _)
      origins _
  have reads : ApiServer.decode (.mapping ApiServer.loose) =
      .ok { ApiServer.standard with
        password := "1234", websocketTokens := ["token"], origins := ["http://localhost"] } := by
    rfl
  obtain ⟨-, -, -, -, -, -, -, server, -⟩ := sections_faithful
  exact ⟨_, reads, rfl, rfl, by decide, server _ regular _ reads⟩

end BotConfig
