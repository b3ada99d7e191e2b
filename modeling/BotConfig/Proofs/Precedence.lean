import BotConfig.Proofs.Overrides

/-!
Overrides come last.

What is decoded holds the value of an override at the key of its field, as a merge patch for what
the documents hold there, as long as no other override meets its path.  A key beside it that differs
only in case takes the value, the first one if there are several, so that has to be the spelling of
the field.
-/

namespace BotConfig

/-- The key of a field, from the keys that lead to it and its name in lower case. -/
def Config.spelling (outer : List String) (name : String) : String :=
  if outer = ["api_server"] ∧ name = "cors_origins" then "CORS_origins" else name

theorem Config.folded_spelling (outer : List String) (name : String) :
    Key.folded (spelling outer name) = Key.folded name := by
  unfold spelling
  split
  · rename_i isOrigins
    rw [isOrigins.2]
    decide
  · rfl

namespace Loader

theorem holds_foldl_align {holds : Value → Prop} (closed : Value.Closed holds) {document : Fields}
    (given : holds (.mapping document)) (overrides : List Override) :
    holds (.mapping (overrides.foldl (fun document override => Key.align override.path document)
      document)) := by
  refine List.foldlRecOn (motive := fun fields => holds (.mapping fields)) overrides _ given ?_
  intro fields fieldsHold override _
  exact Key.holds_align closed fieldsHold override.path

theorem ordered_foldl_align {document : Fields} (ordered : document.Ordered)
    (overrides : List Override) :
    (overrides.foldl (fun document override => Key.align override.path document)
      document).Ordered :=
  (Fields.ordered_mapping_iff _).mp
    (holds_foldl_align Value.closed_ordered ((Fields.ordered_mapping_iff document).mpr ordered)
      overrides)

/-- Aligning the paths of overrides leaves what stands at a path that leads elsewhere. -/
theorem atPath?_foldl_align_of_apart {overrides : List Override} {path : List String}
    (apart : ∀ other ∈ overrides,
      Key.Apart (other.path.map Key.folded) (path.map Key.folded))
    {document : Fields} (ordered : document.Ordered) :
    (Value.mapping (overrides.foldl (fun document override => Key.align override.path document)
      document)).atPath? path = (Value.mapping document).atPath? path := by
  induction overrides generalizing document with
  | nil => rfl
  | cons override rest inductionHypothesis =>
      obtain ⟨overrideApart, restApart⟩ := List.forall_mem_cons.mp apart
      rw [List.foldl_cons, inductionHypothesis restApart (Key.ordered_align ordered _),
        Key.atPath?_align_of_apart overrideApart ordered]

/-- The document that is decoded differs at the paths that an override may touch only by the
alignment of its own path. -/
theorem atPath?_aligned {merged : Merged} {before after : List Override} {override : Override}
    {path : List String} (ordered : merged.document.Ordered)
    (overrides : merged.overrides = before ++ override :: after)
    (apart : ∀ other ∈ before ++ after,
      Key.Apart (other.path.map Key.folded) (path.map Key.folded)) :
    ∃ document : Fields, document.Ordered ∧
      (∀ other, other.map Key.folded = path.map Key.folded →
        (Value.mapping document).atPath? other = (Value.mapping merged.document).atPath? other) ∧
      ∀ other, other.map Key.folded = path.map Key.folded →
        (Value.mapping (aligned merged)).atPath? other =
          (Value.mapping (Key.align override.path document)).atPath? other := by
  obtain ⟨beforeApart, afterApart⟩ := List.forall_mem_append.mp apart
  have beforeOrdered := ordered_foldl_align ordered before
  refine ⟨_, beforeOrdered, ?_, ?_⟩
  · intro other same
    exact atPath?_foldl_align_of_apart (same ▸ beforeApart) ordered
  · intro other same
    rw [aligned, overrides, List.foldl_append, List.foldl_cons,
      atPath?_foldl_align_of_apart (same ▸ afterApart) (Key.ordered_align beforeOrdered _)]

theorem outcome_merge_without_overrides {loader : Loader} {world : World} {sources : List Source}
    {merged : Merged} (merges : (loader.merge world sources).outcome = .ok merged) :
    ∃ layers, (∀ layer ∈ layers, layer.document.Ordered) ∧
      merged.document = documentOf layers merged.overrides ∧
      merged.overrides = loader.overrides world.environment ∧
      (merge ⟨none⟩ world sources).outcome = .ok ⟨documentOf layers [],
        layers.map Layer.name, []⟩ := by
  obtain ⟨layers, visits, rfl⟩ := (outcome_merge_eq_ok_iff _ _ _ _).mp merges
  exact ⟨layers, visits.ordered, rfl, rfl,
    (outcome_merge_eq_ok_iff _ _ _ _).mpr ⟨layers, visits, rfl⟩⟩

/-- An override whose path no other one meets is a merge patch for what the documents hold there,
and the result is at the key of the field in what is decoded. A null leaves nothing. -/
theorem override_wins {loader : Loader} {world : World} {sources : List Source} {merged : Merged}
    {before after : List Override} {override : Override} {outer : List String} {name : String}
    (merges : (loader.merge world sources).outcome = .ok merged)
    (overrides : loader.overrides world.environment = before ++ override :: after)
    (path : override.path = outer ++ [name])
    (outside : override.path.head? ≠ some Config.includeKey)
    (apart : ∀ other ∈ before ++ after, Key.Apart other.path override.path)
    (first : ∀ key, Key.variant? name ((Value.mapping merged.document).entriesAt outer) = some key →
      key = Config.spelling outer name) :
    ∃ documents, (merge ⟨none⟩ world sources).outcome = .ok documents ∧
      (override.value.isNull = true →
        (Value.mapping (aligned merged)).atPath? (outer ++ [name]) = none) ∧
      (override.value.isNull = false →
        ∃ key, (key = name ∨ key = Config.spelling outer name) ∧
          (Value.mapping (aligned merged)).atPath? (outer ++ [key]) =
            some ((((Value.mapping documents.document).atPath? override.path).getD
              .null).mergePatch override.value) ∧
          ∀ other, other = name ∨ other = Config.spelling outer name → other ≠ key →
            (Value.mapping (aligned merged)).atPath? (outer ++ [other]) = none) := by
  obtain ⟨layers, ordered, document, fromEnvironment, withoutOverrides⟩ :=
    outcome_merge_without_overrides merges
  refine ⟨_, withoutOverrides, ?_⟩
  rw [overrides] at fromEnvironment
  have lower : ∀ other ∈ before ++ override :: after,
      other.path ≠ [] ∧ ∀ key ∈ other.path, Key.IsLower key :=
    fun other membership => Override.lower_of_mem_overrides (overrides ▸ membership)
  have overrideLower := lower override (by simp)
  have mergedOrdered : merged.document.Ordered := by
    rw [document]
    exact ordered_documentOf ordered merged.overrides
  have foldedApart : ∀ other ∈ before ++ after,
      Key.Apart (other.path.map Key.folded) ((outer ++ [name]).map Key.folded) := by
    intro other membership
    rw [← path]
    refine (apart other membership).map_folded (lower other ?_).2 overrideLower.2
    rw [List.mem_append] at membership ⊢
    exact membership.imp_right (List.mem_cons_of_mem _)
  have sameFolded : ∀ key, Key.folded key = Key.folded name →
      (outer ++ [key]).map Key.folded = (outer ++ [name]).map Key.folded := by
    intro key same
    rw [List.map_append, List.map_append, List.map_singleton, List.map_singleton, same]
  obtain ⟨earlier, earlierOrdered, sameEarlier, sameLater⟩ :=
    atPath?_aligned mergedOrdered fromEnvironment foldedApart
  have atOverride := atPath?_documentOf_override ordered overrideLower.1 outside apart
  rw [← fromEnvironment, ← document, path, ← sameEarlier _ rfl] at atOverride
  rw [path] at sameLater ⊢
  refine ⟨fun null => ?_, fun notNull => ?_⟩
  · rw [if_pos null] at atOverride
    rw [sameLater _ rfl]
    exact Key.atPath?_align_of_none earlierOrdered atOverride
  · rw [notNull, if_neg Bool.false_ne_true] at atOverride
    have sameVariant : Key.variant? name ((Value.mapping earlier).entriesAt outer) =
        Key.variant? name ((Value.mapping merged.document).entriesAt outer) := by
      apply Key.variant?_entriesAt_congr ((Fields.ordered_mapping_iff _).mpr earlierOrdered)
        ((Fields.ordered_mapping_iff _).mpr mergedOrdered)
      intro key same
      exact sameEarlier _ (sameFolded key same)
    rw [← sameVariant] at first
    obtain ⟨key, isSpelling, holds, nowhereElse⟩ := Key.atPath?_align_wins earlierOrdered atOverride
      (Config.folded_spelling outer name) first
    have folded : ∀ other, other = name ∨ other = Config.spelling outer name →
        Key.folded other = Key.folded name := by
      rintro other (rfl | rfl)
      · rfl
      · exact Config.folded_spelling outer name
    refine ⟨key, isSpelling, ?_, ?_⟩
    · rw [sameLater _ (sameFolded key (folded key isSpelling)), holds]
    · intro other otherSpelling different
      rw [sameLater _ (sameFolded other (folded other otherSpelling))]
      exact nowhereElse other otherSpelling different

/-- A world without files and with one environment variable. -/
def variableWorld (name content : String) : World :=
  ⟨fun _ => .error .notFound, [(name, content)]⟩

/-- The pairs of a variable stand in place of those of a document. -/
theorem override_wins_whitelist :
    ∃ merged documents key,
      (merge ⟨some "TRADING"⟩ (variableWorld "TRADING__EXCHANGE__PAIR_WHITELIST" "[ETH/USDT]")
        [.inline "pairs.yaml" "exchange:\n  pair_whitelist: [BTC/USDT]"]).outcome = .ok merged ∧
      (merge ⟨none⟩ (variableWorld "TRADING__EXCHANGE__PAIR_WHITELIST" "[ETH/USDT]")
        [.inline "pairs.yaml" "exchange:\n  pair_whitelist: [BTC/USDT]"]).outcome = .ok documents ∧
      (key = "pair_whitelist" ∨ key = Config.spelling ["exchange"] "pair_whitelist") ∧
      (Value.mapping (aligned merged)).atPath? (["exchange"] ++ [key]) =
        some ((((Value.mapping documents.document).atPath? ["exchange", "pair_whitelist"]).getD
          .null).mergePatch (Override.value ⟨["exchange", "pair_whitelist"], "[ETH/USDT]"⟩)) := by
  have spelled : (merge ⟨some "TRADING"⟩
      (variableWorld "TRADING__EXCHANGE__PAIR_WHITELIST" "[ETH/USDT]")
      [.inline "pairs.yaml" "exchange:\n  pair_whitelist: [BTC/USDT]"]).outcome.toOption.any
        (fun merged : Merged => (Key.variant? "pair_whitelist"
          ((Value.mapping merged.document).entriesAt ["exchange"])).isNone) = true := by
    decide +kernel
  obtain ⟨merged, merges, isNone⟩ := Traced.exists_eq_ok_of_any spelled
  have first : ∀ key, Key.variant? "pair_whitelist"
      ((Value.mapping merged.document).entriesAt ["exchange"]) = some key →
        key = Config.spelling ["exchange"] "pair_whitelist" := by
    intro key found
    rw [found] at isNone
    cases isNone
  have overrides : overrides ⟨some "TRADING"⟩
      (variableWorld "TRADING__EXCHANGE__PAIR_WHITELIST" "[ETH/USDT]").environment =
        [] ++ ⟨["exchange", "pair_whitelist"], "[ETH/USDT]"⟩ :: [] := by
    decide +kernel
  have path : ["exchange", "pair_whitelist"] = ["exchange"] ++ ["pair_whitelist"] := rfl
  have notNull :
      (Override.value ⟨["exchange", "pair_whitelist"], "[ETH/USDT]"⟩).isNull = false := by
    decide +kernel
  obtain ⟨documents, alike, -, wins⟩ := override_wins merges overrides path (by decide) (by simp)
    first
  obtain ⟨key, isSpelling, holds, -⟩ := wins notNull
  exact ⟨merged, documents, key, merges, alike, isSpelling, holds⟩

/-- The value of an override need not be what is decoded: a mapping keeps the entries of a document
that it does not name, a number that is too large leaves nothing, and beside a stray key in capitals
the value goes to that one. -/
theorem override_differs :
    (∃ merged,
      (merge ⟨some "TRADING"⟩ (variableWorld "TRADING__EXCHANGE__CCXT_CONFIG" "\x7ba=1\x7d")
        [.inline "options.yaml" "exchange:\n  ccxt_config:\n    b: 2"]).outcome = .ok merged ∧
      merged.overrides = [⟨["exchange", "ccxt_config"], "\x7ba=1\x7d"⟩] ∧
      (Value.mapping (aligned merged)).atPath? ["exchange", "ccxt_config"] ≠
        some (Override.value ⟨["exchange", "ccxt_config"], "\x7ba=1\x7d"⟩)) ∧
    (∃ merged,
      (merge ⟨some "TRADING"⟩ (variableWorld "TRADING__STAKE_AMOUNT" "1.0e999")
        [.inline "name.yaml" "bot_name: a"]).outcome = .ok merged ∧
      merged.overrides = [⟨["stake_amount"], "1.0e999"⟩] ∧
      (Value.mapping (aligned merged)).atPath? ["stake_amount"] = none) ∧
    (∃ merged,
      (merge ⟨some "TRADING"⟩ (variableWorld "TRADING__STAKE_AMOUNT" "25")
        [.inline "stray.yaml" "Stake_amount: 5"]).outcome = .ok merged ∧
      merged.overrides = [⟨["stake_amount"], "25"⟩] ∧
      (Value.mapping (aligned merged)).atPath? ["stake_amount"] = none) := by
  have mappingKept : (merge ⟨some "TRADING"⟩
      (variableWorld "TRADING__EXCHANGE__CCXT_CONFIG" "\x7ba=1\x7d")
      [.inline "options.yaml" "exchange:\n  ccxt_config:\n    b: 2"]).outcome.toOption.any
        (fun merged : Merged =>
          decide (merged.overrides = [⟨["exchange", "ccxt_config"], "\x7ba=1\x7d"⟩]) &&
            ((Value.mapping (aligned merged)).atPath? ["exchange", "ccxt_config", "b"]).isSome) =
        true := by
    decide +kernel
  have nullDropped : (merge ⟨some "TRADING"⟩ (variableWorld "TRADING__STAKE_AMOUNT" "1.0e999")
      [.inline "name.yaml" "bot_name: a"]).outcome.toOption.any (fun merged : Merged =>
        decide (merged.overrides = [⟨["stake_amount"], "1.0e999"⟩]) &&
          ((Value.mapping (aligned merged)).atPath? ["stake_amount"]).isNone) = true := by
    decide +kernel
  have strayTaken : (merge ⟨some "TRADING"⟩ (variableWorld "TRADING__STAKE_AMOUNT" "25")
      [.inline "stray.yaml" "Stake_amount: 5"]).outcome.toOption.any (fun merged : Merged =>
        decide (merged.overrides = [⟨["stake_amount"], "25"⟩]) &&
          ((Value.mapping (aligned merged)).atPath? ["stake_amount"]).isNone) = true := by
    decide +kernel
  have noB : ((Override.value ⟨["exchange", "ccxt_config"], "\x7ba=1\x7d"⟩).atPath?
      ["b"]).isNone = true := by
    decide +kernel
  obtain ⟨mergedMapping, mappingMerges, mappingFacts⟩ := Traced.exists_eq_ok_of_any mappingKept
  obtain ⟨mergedNull, nullMerges, nullFacts⟩ := Traced.exists_eq_ok_of_any nullDropped
  obtain ⟨mergedStray, strayMerges, strayFacts⟩ := Traced.exists_eq_ok_of_any strayTaken
  rw [Bool.and_eq_true, decide_eq_true_eq] at mappingFacts nullFacts strayFacts
  refine ⟨⟨mergedMapping, mappingMerges, mappingFacts.1, ?_⟩,
    ⟨mergedNull, nullMerges, nullFacts.1, Option.isNone_iff_eq_none.mp nullFacts.2⟩,
    ⟨mergedStray, strayMerges, strayFacts.1, Option.isNone_iff_eq_none.mp strayFacts.2⟩⟩
  intro same
  have atB := Value.atPath?_append (.mapping (aligned mergedMapping)) ["exchange", "ccxt_config"]
    ["b"]
  rw [same, Option.bind_some, Option.isNone_iff_eq_none.mp noB] at atB
  exact Option.isSome_iff_ne_none.mp mappingFacts.2 atB

end Loader

end BotConfig
