import BotConfig.Proofs.Precedence

/-!
Overrides of keys that a document spells with capitals.

A chain of keys leads to a value where each key is the only one that a segment of the override
stands for, in another spelling.  The value at the end of the chain is replaced when the chain has
one key.  For a longer one the layer of the override already holds the first segment, which is then
followed in place of the key of the document.
-/

namespace BotConfig

namespace Key

/-- A key is the only one that a segment stands for, and spelled differently. -/
structure IsVariant (segment key : String) (fields : Fields) : Prop where
  different : key ≠ segment
  sameFolded : folded key = folded segment
  alone : ∀ other ∈ fields.keys, folded other = folded segment → other = key

/-- Keys lead to a value, each as the only variant of a segment. -/
inductive Chain : List String → List String → Fields → Value → Prop
  | last {segment key : String} {fields : Fields} {value : Value} :
      IsVariant segment key fields → Fields.get? key fields = some value →
      Chain [segment] [key] fields value
  | step {segment key : String} {rest keys : List String} {fields child : Fields} {value : Value} :
      IsVariant segment key fields → Fields.get? key fields = some (.mapping child) →
      Chain rest keys child value → Chain (segment :: rest) (key :: keys) fields value

instance (segment key : String) (fields : Fields) : Decidable (IsVariant segment key fields) :=
  decidable_of_iff
    (key ≠ segment ∧ folded key = folded segment ∧
      ∀ other ∈ fields.keys, folded other = folded segment → other = key)
    ⟨fun ⟨different, sameFolded, alone⟩ => ⟨different, sameFolded, alone⟩,
      fun ⟨different, sameFolded, alone⟩ => ⟨different, sameFolded, alone⟩⟩

/-- Whether keys lead to some value, each as the only variant of a segment. -/
def leads : List String → List String → Fields → Bool
  | [segment], [key], fields =>
      decide (IsVariant segment key fields) && (Fields.get? key fields).isSome
  | segment :: rest, key :: keys, fields =>
      match Fields.get? key fields with
      | some (.mapping child) => decide (IsVariant segment key fields) && leads rest keys child
      | _ => false
  | _, _, _ => false

theorem leads_iff (path keys : List String) (fields : Fields) :
    leads path keys fields = true ↔ ∃ value, Chain path keys fields value := by
  constructor
  · intro holds
    fun_induction leads path keys fields with
    | case1 segment key fields =>
        obtain ⟨variant, isSome⟩ := Bool.and_eq_true_iff.mp holds
        obtain ⟨value, found⟩ := Option.isSome_iff_exists.mp isSome
        exact ⟨value, .last (of_decide_eq_true variant) found⟩
    | case2 fields segment rest key keys _ child found inductionHypothesis =>
        obtain ⟨variant, below⟩ := Bool.and_eq_true_iff.mp holds
        obtain ⟨value, chain⟩ := inductionHypothesis below
        exact ⟨value, .step (of_decide_eq_true variant) found chain⟩
    | case3 => simp at holds
    | case4 => simp at holds
  · rintro ⟨value, chain⟩
    induction chain with
    | last variant found => simp [leads, variant, found]
    | step variant found below inductionHypothesis =>
        rw [leads, found]
        · simp [variant, inductionHypothesis]
        · rintro rfl rfl
          cases below

namespace IsVariant

variable {segment key : String} {fields : Fields}

theorem get?_segment (variant : IsVariant segment key fields) :
    Fields.get? segment fields = none := by
  rw [Fields.get?_eq_none_iff]
  intro membership
  exact variant.different (variant.alone segment membership rfl).symm

theorem variant?_eq_some (variant : IsVariant segment key fields) {value : Value}
    (found : Fields.get? key fields = some value) : variant? segment fields = some key := by
  have membership := (Fields.mem_keys_iff key fields).mpr ⟨value, found⟩
  cases spelled : variant? segment fields with
  | none =>
      exact absurd ((variant?_eq_none_iff segment fields).mp spelled key membership
        variant.sameFolded) variant.different
  | some other =>
      obtain ⟨inFields, _, sameFolded⟩ := Key.variant?_eq_some spelled
      rw [variant.alone other inFields sameFolded]

theorem step_eq (variant : IsVariant segment key fields) {value : Value}
    (found : Fields.get? key fields = some value) : step segment fields = key := by
  rw [step, variant.variant?_eq_some found, variant.get?_segment]
  rfl

end IsVariant

namespace Chain

variable {path keys : List String} {fields : Fields} {value : Value}

theorem atPath? (chain : Chain path keys fields value) :
    (Value.mapping fields).atPath? keys = some value := by
  induction chain with
  | last variant found => simp [Value.entries, found]
  | step variant found _ inductionHypothesis =>
      rw [Value.atPath?_cons, Value.entries, found, Option.bind_some, inductionHypothesis]

theorem keys_ne_nil (chain : Chain path keys fields value) : keys ≠ [] := by
  cases chain <;> exact List.cons_ne_nil _ _

theorem of_singleton {key : String} (chain : Chain path [key] fields value) :
    ∃ segment, path = [segment] ∧ IsVariant segment key fields ∧
      Fields.get? key fields = some value := by
  cases chain with
  | last variant found => exact ⟨_, rfl, variant, found⟩
  | step _ _ below => cases below

theorem of_cons_cons {key next : String} {others : List String}
    (chain : Chain path (key :: next :: others) fields value) :
    ∃ segment second rest, path = segment :: second :: rest ∧ IsVariant segment key fields := by
  cases chain with
  | step variant _ below => cases below <;> exact ⟨_, _, _, rfl, variant⟩

/-- No segment stands beside its variant. -/
theorem atPath?_segment (chain : Chain path keys fields value) {front back : List String}
    {segment : String} (split : path = front ++ segment :: back) :
    (Value.mapping fields).atPath? (keys.take front.length ++ [segment]) = none := by
  induction chain generalizing front with
  | last variant found =>
      cases front with
      | nil =>
          cases split
          simp [Value.entries, variant.get?_segment]
      | cons first others =>
          obtain ⟨_, impossible⟩ := List.cons.inj split
          simp at impossible
  | step variant found _ inductionHypothesis =>
      cases front with
      | nil =>
          cases split
          simp [Value.entries, variant.get?_segment]
      | cons first others =>
          obtain ⟨_, splitRest⟩ := List.cons.inj split
          rw [List.length_cons, List.take_succ_cons, List.cons_append, Value.atPath?_cons,
            Value.entries, found, Option.bind_some, inductionHypothesis splitRest]

/-- Without the override there is nothing to move. -/
theorem align_eq (chain : Chain path keys fields value) (ordered : fields.Ordered) :
    align path fields = fields := by
  induction chain with
  | last variant found =>
      rw [align_last ordered.ascending, variant.get?_segment]
      split
      · rename_i impossible
        cases impossible
      · rfl
  | @step segment key rest keys fields child value variant found below inductionHypothesis =>
      have childOrdered := (Fields.ordered_mapping_iff child).mp (ordered.get? found)
      obtain ⟨next, others, rfl⟩ : ∃ next others, rest = next :: others := by
        cases below <;> exact ⟨_, _, rfl⟩
      rw [align_cons, variant.step_eq found, found]
      simp only [inductionHypothesis childOrdered]
      exact ordered.ascending.insert_of_get?_eq_some found

end Chain

end Key

namespace Loader

/-- A value is found under the keys of a document, and no segment of the path is left beside its
key. -/
structure Overridden (document : Fields) (path keys : List String) (value : Value) : Prop where
  found : (Value.mapping document).atPath? keys = some value
  uncopied : ∀ front segment back, path = front ++ segment :: back →
    (Value.mapping document).atPath? (keys.take front.length ++ [segment]) = none

variable {layers : List Layer} {override : Override}

/-- An override leaves what the documents hold under another first key. -/
theorem atPath?_documentOf_of_head_ne (ordered : ∀ layer ∈ layers, layer.document.Ordered)
    {segment key : String} {rest : List String} (path : override.path = segment :: rest)
    (different : segment ≠ key) (others : List String) :
    (Value.mapping (documentOf layers [override])).atPath? (key :: others) =
      (Value.mapping (documentOf layers [])).atPath? (key :: others) := by
  apply atPath?_documentOf_of_apart ordered (List.cons_ne_nil key others)
  intro other membership
  rw [List.mem_singleton.mp membership, path]
  exact .of_head_ne different rest others

theorem get?_documentOf_of_head_ne (ordered : ∀ layer ∈ layers, layer.document.Ordered)
    {segment key : String} {rest : List String} (path : override.path = segment :: rest)
    (different : segment ≠ key) :
    Fields.get? key (documentOf layers [override]) = Fields.get? key (documentOf layers []) := by
  have same := atPath?_documentOf_of_head_ne ordered path different []
  simpa [Value.entries] using same

/-- An override of the list of included files changes nothing. -/
theorem documentOf_includeKey (ordered : ∀ layer ∈ layers, layer.document.Ordered)
    (inside : override.path.head? = some Config.includeKey) :
    documentOf layers [override] = documentOf layers [] := by
  obtain ⟨rest, path⟩ : ∃ rest, override.path = Config.includeKey :: rest :=
    List.head?_eq_some_iff.mp inside
  apply Fields.eq_of_get?_eq (ordered_documentOf ordered _).ascending
    (ordered_documentOf ordered _).ascending
  intro key
  by_cases same : Config.includeKey = key
  · rw [← same, get?_includeKey_documentOf ordered, get?_includeKey_documentOf ordered]
  · exact get?_documentOf_of_head_ne ordered path same

/-- The layers of an override of a longer path have a mapping at its first key. -/
theorem exists_mapping_documentOf (ordered : ∀ layer ∈ layers, layer.document.Ordered)
    {first next : String} {rest : List String} (path : override.path = first :: next :: rest)
    (outside : first ≠ Config.includeKey) :
    ∃ child, Fields.get? first (documentOf layers [override]) = some (.mapping child) := by
  have placed : ∀ value, ∃ child, (Value.mapping (Fields.nested override.path value)).atPath?
      [first] = some (.mapping child) := by
    intro value
    rw [path]
    exact ⟨[(next, value.nested rest)], by simp [Fields.nested, Value.nested, Value.entries]⟩
  obtain ⟨oneOrdered, textsOrdered⟩ := List.forall_mem_cons.mp
    (Override.ordered_layers [override])
  obtain ⟨layerChild, inLayer⟩ := placed (Override.parse override.content)
  obtain ⟨oneChild, inOne⟩ := Value.exists_mapping_overlay (.mapping [])
    ((Fields.ordered_mapping_iff _).mpr override.ordered_layer) inLayer
  have afterOne := Value.exists_mapping_overlay
    (.mapping (Fields.overlayAll (layers.map Layer.document)))
    ((Fields.ordered_mapping_iff _).mpr oneOrdered) inOne
  have texts : ∀ patch ∈ ([override].filter Override.isText).map Override.textLayer,
      ∃ child, (Value.mapping patch).atPath? [first] = some (.mapping child) := by
    refine List.forall_mem_map.mpr fun other membership => ?_
    rw [List.mem_singleton.mp (List.mem_filter.mp membership).1]
    exact placed _
  obtain ⟨child, inLaid⟩ : ∃ child, (Value.mapping (laid layers [override])).atPath? [first] =
      some (.mapping child) :=
    Fields.exists_mapping_foldl_overlay textsOrdered texts afterOne
  have inDocument := atPath?_documentOf ordered [override] outside []
  rw [inLaid] at inDocument
  refine ⟨Value.prunedFields child, ?_⟩
  simpa [Value.entries, Value.isNull, Value.pruned] using inDocument

theorem overridden_singleton_iff (document : Fields) (segment key : String) (value : Value) :
    Overridden document [segment] [key] value ↔
      Fields.get? key document = some value ∧ Fields.get? segment document = none := by
  constructor
  · rintro ⟨found, uncopied⟩
    have beside := uncopied [] segment [] rfl
    exact ⟨by simpa [Value.entries] using found, by simpa [Value.entries] using beside⟩
  · rintro ⟨found, beside⟩
    refine ⟨by simpa [Value.entries] using found, ?_⟩
    intro front other back split
    cases front with
    | nil =>
        cases split
        simpa [Value.entries] using beside
    | cons first others =>
        obtain ⟨_, impossible⟩ := List.cons.inj split
        simp at impossible

/-- An override of one key replaces the value under the key of the document, unless it is null. -/
theorem overridden_align_singleton (ordered : ∀ layer ∈ layers, layer.document.Ordered)
    {segment key : String} {found : Value} (path : override.path = [segment])
    (outside : segment ≠ Config.includeKey)
    (variant : Key.IsVariant segment key (documentOf layers []))
    (atKey : Fields.get? key (documentOf layers []) = some found) :
    (Overridden (Key.align [segment] (documentOf layers [override])) [segment] [key]
        override.value.pruned ↔ override.value.isNull = false) ∧
      (override.value.isNull = true →
        Fields.get? key (Key.align [segment] (documentOf layers [override])) = some found) := by
  have mergedAscending := (ordered_documentOf ordered [override]).ascending
  have atSegment : Fields.get? segment (documentOf layers [override]) =
      if override.value.isNull then none else some override.value.pruned := by
    have nonempty : override.path ≠ [] := by simp [path]
    have notIncludes : override.path.head? ≠ some Config.includeKey := by simpa [path] using outside
    have patched : (Value.mapping (documentOf layers ([] ++ override :: []))).atPath?
        override.path = _ :=
      atPath?_documentOf_override ordered nonempty notIncludes (by simp)
    have onNothing : Value.mergePatch .null override.value = override.value.pruned := by
      rw [← Value.overlay_null override.value, Value.pruned_overlay .null override.ordered_value,
        Value.overlay_null]
      rfl
    simpa [path, Value.entries, variant.get?_segment, onNothing] using patched
  have atKeyMerged : Fields.get? key (documentOf layers [override]) = some found :=
    (get?_documentOf_of_head_ne ordered path variant.different.symm).trans atKey
  have mergedVariant : Key.variant? segment (documentOf layers [override]) = some key := by
    rw [← variant.variant?_eq_some atKey]
    apply Key.variant?_congr mergedAscending (ordered_documentOf ordered []).ascending
    intro other different _
    exact get?_documentOf_of_head_ne ordered path different.symm
  rw [overridden_singleton_iff, Key.align_last mergedAscending, mergedVariant, atSegment]
  cases null : override.value.isNull with
  | true =>
      have notNull := atPath?_documentOf_ne_null ordered [override] (List.cons_ne_nil key [])
      rw [(Value.isNull_eq_true_iff _).mp null]
      simp only [if_true, Bool.true_eq_false, iff_false]
      refine ⟨?_, fun _ => atKeyMerged⟩
      rintro ⟨atKeyNull, _⟩
      exact notNull (by simpa [Value.entries, Value.pruned] using atKeyNull)
  | false =>
      simp only [Bool.false_eq_true, if_false, iff_true, false_implies, and_true]
      refine ⟨Fields.get?_insert_self _ _ _, ?_⟩
      rw [Fields.get?_insert_of_ne variant.different, mergedAscending.get?_erase, if_pos rfl]

/-- The mapping of an override of a longer path stands at its first segment, and is followed in
place of the key of the document. -/
theorem not_overridden_align (ordered : ∀ layer ∈ layers, layer.document.Ordered)
    {segment next : String} {rest keys : List String} {value : Value}
    (path : override.path = segment :: next :: rest) (outside : segment ≠ Config.includeKey) :
    ¬ Overridden (Key.align override.path (documentOf layers [override])) override.path keys
      value := by
  obtain ⟨child, atSegment⟩ := exists_mapping_documentOf ordered path outside
  rintro ⟨_, uncopied⟩
  have beside := uncopied [] segment (next :: rest) path
  rw [path, Key.align_cons, Key.step_of_get?_eq_some atSegment, atSegment] at beside
  simp [Value.entries] at beside

/-- An override of a longer path leaves what the document holds under another first key. -/
theorem atPath?_align_of_head_ne (ordered : ∀ layer ∈ layers, layer.document.Ordered)
    {segment next key : String} {rest others : List String}
    (path : override.path = segment :: next :: rest) (outside : segment ≠ Config.includeKey)
    (different : segment ≠ key) :
    (Value.mapping (Key.align override.path (documentOf layers [override]))).atPath?
        (key :: others) =
      (Value.mapping (documentOf layers [])).atPath? (key :: others) := by
  obtain ⟨child, atSegment⟩ := exists_mapping_documentOf ordered path outside
  rw [← atPath?_documentOf_of_head_ne ordered path different, path, Key.align_cons,
    Key.step_of_get?_eq_some atSegment, atSegment]
  simp only [Value.atPath?_cons, Value.entries, Fields.get?_insert_of_ne different]

/-- The value of a document under keys with capitals is replaced by an override exactly when there
is one key and the value is not null. Otherwise it stays. An override of the list of included files
has no effect at all. -/
theorem overridden_in_capitals_iff {loader : Loader} {world : World} {sources : List Source}
    {merged documents : Merged} {keys : List String} {found : Value}
    (merges : (loader.merge world sources).outcome = .ok merged)
    (withoutOverrides : (merge ⟨none⟩ world sources).outcome = .ok documents)
    (single : loader.overrides world.environment = [override])
    (chain : Key.Chain override.path keys documents.document found) :
    (Overridden (aligned merged) override.path keys override.value.pruned ↔
      (override.path.head? = some Config.includeKey ∧ found = override.value.pruned) ∨
      (override.path.head? ≠ some Config.includeKey ∧ keys.length = 1 ∧
        override.value.isNull = false)) ∧
    (¬ Overridden (aligned merged) override.path keys override.value.pruned →
      (Value.mapping (aligned merged)).atPath? keys = some found) := by
  obtain ⟨layers, ordered, document, fromEnvironment, alike⟩ :=
    outcome_merge_without_overrides merges
  rw [alike] at withoutOverrides
  cases withoutOverrides
  rw [single] at fromEnvironment
  have alignedEq : aligned merged =
      Key.align override.path (documentOf layers [override]) := by
    rw [aligned, document, fromEnvironment]
    rfl
  have documentsOrdered := ordered_documentOf ordered []
  rw [alignedEq]
  dsimp only at chain
  by_cases inside : override.path.head? = some Config.includeKey
  · rw [documentOf_includeKey ordered inside, chain.align_eq documentsOrdered]
    have kept : Overridden (documentOf layers []) override.path keys override.value.pruned ↔
        found = override.value.pruned := by
      constructor
      · intro overridden
        exact Option.some.inj (chain.atPath?.symm.trans overridden.found)
      · intro same
        exact ⟨same ▸ chain.atPath?, fun front segment back => chain.atPath?_segment⟩
    refine ⟨?_, fun _ => chain.atPath?⟩
    simp [kept, inside]
  · obtain ⟨key, others, rfl⟩ := List.exists_cons_of_ne_nil chain.keys_ne_nil
    cases others with
    | nil =>
        obtain ⟨segment, path, variant, atKey⟩ := chain.of_singleton
        have outside : segment ≠ Config.includeKey := by simpa [path] using inside
        obtain ⟨replaced, stays⟩ := overridden_align_singleton ordered path outside variant atKey
        rw [path] at inside ⊢
        refine ⟨?_, ?_⟩
        · rw [replaced]
          simp [outside]
        · intro notOverridden
          rw [replaced, Bool.not_eq_false] at notOverridden
          simpa [Value.entries] using stays notOverridden
    | cons next others =>
        obtain ⟨segment, second, rest, path, variant⟩ := chain.of_cons_cons
        have outside : segment ≠ Config.includeKey := by simpa [path] using inside
        have notOverridden : ¬ Overridden (Key.align override.path (documentOf layers [override]))
            override.path (key :: next :: others) override.value.pruned :=
          not_overridden_align ordered path outside
        refine ⟨?_, fun _ => ?_⟩
        · simp [notOverridden, inside]
        · rw [atPath?_align_of_head_ne ordered path outside variant.different.symm, chain.atPath?]

/-- A value under a single key with capitals is replaced. -/
theorem overridden_in_capitals_single :
    ∃ merged documents found,
      (merge ⟨some "TRADING"⟩ (variableWorld "TRADING__WEBHOOK" "y")
        [.inline "single.yaml" "Webhook: x"]).outcome = .ok merged ∧
      (merge ⟨none⟩ (variableWorld "TRADING__WEBHOOK" "y")
        [.inline "single.yaml" "Webhook: x"]).outcome = .ok documents ∧
      Key.Chain ["webhook"] ["Webhook"] documents.document found ∧
      Overridden (aligned merged) ["webhook"] ["Webhook"]
        (Override.value ⟨["webhook"], "y"⟩).pruned := by
  have bothMerge : (merge ⟨some "TRADING"⟩ (variableWorld "TRADING__WEBHOOK" "y")
      [.inline "single.yaml" "Webhook: x"]).outcome.toOption.any (fun _ : Merged => true) =
        true := by
    decide +kernel
  have leading : (merge ⟨none⟩ (variableWorld "TRADING__WEBHOOK" "y")
      [.inline "single.yaml" "Webhook: x"]).outcome.toOption.any (fun documents : Merged =>
        Key.leads ["webhook"] ["Webhook"] documents.document) = true := by
    decide +kernel
  obtain ⟨merged, merges, -⟩ := Traced.exists_eq_ok_of_any bothMerge
  obtain ⟨documents, withoutOverrides, leads⟩ := Traced.exists_eq_ok_of_any leading
  obtain ⟨found, chain⟩ := (Key.leads_iff _ _ _).mp leads
  have single : overrides ⟨some "TRADING"⟩ (variableWorld "TRADING__WEBHOOK" "y").environment =
      [⟨["webhook"], "y"⟩] := by
    decide +kernel
  have notNull : (Override.value ⟨["webhook"], "y"⟩).isNull = false := by decide +kernel
  have exactly := (overridden_in_capitals_iff merges withoutOverrides single chain).1
  exact ⟨merged, documents, found, merges, withoutOverrides, chain,
    exactly.mpr (.inr ⟨by decide, rfl, notNull⟩)⟩

/-- A value under two keys with capitals is not: the value of the override stays beside them. -/
theorem overridden_in_capitals_differs :
    ∃ merged documents found,
      (merge ⟨some "TRADING"⟩ (variableWorld "TRADING__WEBHOOK__URL" "y")
        [.inline "nested.yaml" "Webhook:\n  Url: x"]).outcome = .ok merged ∧
      (merge ⟨none⟩ (variableWorld "TRADING__WEBHOOK__URL" "y")
        [.inline "nested.yaml" "Webhook:\n  Url: x"]).outcome = .ok documents ∧
      merged.overrides = [⟨["webhook", "url"], "y"⟩] ∧
      Key.Chain ["webhook", "url"] ["Webhook", "Url"] documents.document found ∧
      (Value.mapping (aligned merged)).atPath? ["Webhook", "Url"] ≠
        some (Override.value ⟨["webhook", "url"], "y"⟩) ∧
      (Value.mapping (aligned merged)).atPath? ["webhook"] ≠ none := by
  have copied : (merge ⟨some "TRADING"⟩ (variableWorld "TRADING__WEBHOOK__URL" "y")
      [.inline "nested.yaml" "Webhook:\n  Url: x"]).outcome.toOption.any (fun merged : Merged =>
        decide (merged.overrides = [⟨["webhook", "url"], "y"⟩]) &&
          (((Value.mapping (aligned merged)).atPath? ["Webhook", "Url"]).all fun kept =>
            !kept.agrees (Override.value ⟨["webhook", "url"], "y"⟩)) &&
          ((Value.mapping (aligned merged)).atPath? ["webhook"]).isSome) = true := by
    decide +kernel
  have agreesItself : (Override.value ⟨["webhook", "url"], "y"⟩).agrees
      (Override.value ⟨["webhook", "url"], "y"⟩) = true := by
    decide +kernel
  have leading : (merge ⟨none⟩ (variableWorld "TRADING__WEBHOOK__URL" "y")
      [.inline "nested.yaml" "Webhook:\n  Url: x"]).outcome.toOption.any (fun documents : Merged =>
        Key.leads ["webhook", "url"] ["Webhook", "Url"] documents.document) = true := by
    decide +kernel
  obtain ⟨merged, merges, facts⟩ := Traced.exists_eq_ok_of_any copied
  obtain ⟨documents, withoutOverrides, leads⟩ := Traced.exists_eq_ok_of_any leading
  obtain ⟨found, chain⟩ := (Key.leads_iff _ _ _).mp leads
  rw [Bool.and_eq_true, Bool.and_eq_true, decide_eq_true_eq] at facts
  obtain ⟨⟨isOverride, kept⟩, beside⟩ := facts
  refine ⟨merged, documents, found, merges, withoutOverrides, isOverride, chain, ?_,
    Option.isSome_iff_ne_none.mp beside⟩
  intro same
  rw [same, Option.all_some, agreesItself] at kept
  exact Bool.false_ne_true kept

end Loader

end BotConfig
