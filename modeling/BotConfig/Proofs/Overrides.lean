import BotConfig.Proofs.Alignment
import BotConfig.Proofs.Merging

/-!
What an override does to the document of all layers.
-/

namespace BotConfig

/-! ### Paths of overrides -/

theorem Key.toLower_toLower (c : Char) : c.toLower.toLower = c.toLower := by
  unfold Char.toLower
  split
  · split
    · -- A capital letter is moved up by 32, past the last capital letter.
      grind
    · rfl
  · rfl

theorem Key.isLower_ofList {text : List Char} (lower : ∀ c ∈ text, c.toLower = c) :
    IsLower (String.ofList text) := by
  have same : text.map Char.toLower = text.map id := List.map_congr_left lower
  rw [IsLower, folded, String.toList_ofList, same, List.map_id]

namespace Override

theorem segments_ne_nil (text : List Char) : segments text ≠ [] := by
  fun_induction segments text <;> simp_all

theorem mem_of_mem_segments {text part : List Char} (membership : part ∈ segments text) :
    ∀ c ∈ part, c ∈ text := by
  fun_induction segments text generalizing part with
  | case1 => simp_all
  | case2 rest inductionHypothesis =>
      rcases List.mem_cons.mp membership with rfl | inRest
      · simp
      · exact fun c inPart => List.mem_cons_of_mem _ (inductionHypothesis inRest c inPart)
  | case3 first rest _ front others split inductionHypothesis =>
      rw [split] at inductionHypothesis
      rcases List.mem_cons.mp membership with rfl | inOthers
      · intro c inPart
        rcases List.mem_cons.mp inPart with rfl | inFront
        · exact List.mem_cons_self
        · exact List.mem_cons_of_mem _ (inductionHypothesis List.mem_cons_self c inFront)
      · exact fun c inPart => List.mem_cons_of_mem _
          (inductionHypothesis (List.mem_cons_of_mem _ inOthers) c inPart)
  | case4 first rest _ split _ => exact absurd split (segments_ne_nil rest)

/-- The path of an override has keys, all in lower case. -/
theorem lower_of_path? {start name : String} {path : List String}
    (found : path? start name = some path) :
    path ≠ [] ∧ ∀ key ∈ path, Key.IsLower key := by
  unfold path? at found
  rw [Option.bind_eq_bind, Option.bind_eq_some_iff] at found
  obtain ⟨rest, _, found⟩ := found
  dsimp only at found
  split at found
  · cases found
  · cases found
    refine ⟨?_, ?_⟩
    · intro empty
      exact segments_ne_nil _ (List.map_eq_nil_iff.mp empty)
    · refine List.forall_mem_map.mpr fun part membership => Key.isLower_ofList fun c inPart => ?_
      obtain ⟨original, _, rfl⟩ := List.mem_map.mp (mem_of_mem_segments membership c inPart)
      exact Key.toLower_toLower original

theorem lower_of_mem_overrides {loader : Loader} {environment : List (String × String)}
    {override : Override} (membership : override ∈ loader.overrides environment) :
    override.path ≠ [] ∧ ∀ key ∈ override.path, Key.IsLower key := by
  unfold Loader.overrides at membership
  split at membership
  · simp at membership
  · obtain ⟨⟨name, content⟩, _, found⟩ := List.mem_filterMap.mp membership
    dsimp only at found
    split at found
    · cases found
    · obtain ⟨path, isPath, rfl⟩ := Option.map_eq_some_iff.mp found
      exact lower_of_path? isPath

/-! ### Layers of overrides -/

/-- The value that an override gives: a free text as it is, and any other content as it is read. -/
def value (override : Override) : Value :=
  if override.isText then .text override.content else parse override.content

theorem ordered_value (override : Override) : override.value.Ordered := by
  unfold value
  split
  · exact .text _
  · exact ordered_parse _

theorem spares_nested {override : Override} {path : List String}
    (apart : Key.Apart override.path path) (value : Value) :
    (Value.mapping (Fields.nested override.path value)).Spares path := by
  rw [Value.mapping_nested apart.left_ne_nil]
  exact value.spares_nested_of_apart apart

theorem atPath?_mapping_nested {override : Override} (nonempty : override.path ≠ [])
    (value : Value) :
    (Value.mapping (Fields.nested override.path value)).atPath? override.path = some value := by
  rw [Value.mapping_nested nonempty]
  exact value.atPath?_nested override.path

theorem spares_textLayers {overrides : List Override} {path : List String}
    (apart : ∀ other ∈ overrides, Key.Apart other.path path) :
    ∀ layer ∈ (overrides.filter isText).map textLayer, (Value.mapping layer).Spares path :=
  List.forall_mem_map.mpr fun other membership =>
    spares_nested (apart other (List.mem_filter.mp membership).1) _

/-- Overrides of other paths leave alone what stands at a path. -/
theorem spares_layers {overrides : List Override} {path : List String} (nonempty : path ≠ [])
    (apart : ∀ other ∈ overrides, Key.Apart other.path path) :
    ∀ layer ∈ layers overrides, (Value.mapping layer).Spares path := by
  refine List.forall_mem_cons.mpr ⟨Fields.spares_overlayAll nonempty ?_ ?_, ?_⟩
  · exact List.forall_mem_map.mpr fun other _ => other.ordered_layer
  · exact List.forall_mem_map.mpr fun other membership => spares_nested (apart other membership) _
  · exact spares_textLayers apart

/-- In the layer of all overrides the value of one that no other meets is at its path. -/
theorem atPath?_overlayAll_layer {before after : List Override} {override : Override}
    (nonempty : override.path ≠ [])
    (apart : ∀ other ∈ before ++ after, Key.Apart other.path override.path) :
    (Value.mapping (Fields.overlayAll
      ((before ++ override :: after).map layer))).atPath? override.path =
        some (parse override.content) := by
  obtain ⟨key, rest, shape⟩ := List.exists_cons_of_ne_nil nonempty
  have nothing : (Value.mapping []).atPath? override.path = none := by
    rw [shape]
    simp [Value.entries]
  have ordered : ∀ patch ∈ (before ++ override :: after).map layer, patch.Ordered :=
    List.forall_mem_map.mpr fun other _ => other.ordered_layer
  have spares : ∀ patch ∈ before.map layer ++ after.map layer,
      (Value.mapping patch).Spares override.path := by
    rw [← List.map_append]
    exact List.forall_mem_map.mpr fun other membership => spares_nested (apart other membership) _
  rw [List.map_append, List.map_cons] at ordered ⊢
  rw [Fields.overlayAll, Fields.atPath?_foldl_overlay ordered spares
    (atPath?_mapping_nested nonempty (parse override.content)), nothing]
  simp

/-- An override that no other one meets lays its value over what stands at its path. -/
theorem atPath?_foldl_layers {before after : List Override} {override : Override}
    (nonempty : override.path ≠ [])
    (apart : ∀ other ∈ before ++ after, Key.Apart other.path override.path) (base : Fields) :
    (Value.mapping ((layers (before ++ override :: after)).foldl
      Fields.overlay base)).atPath? override.path =
        some ((((Value.mapping base).atPath? override.path).getD .null).overlay
          override.value) := by
  obtain ⟨oneOrdered, textsOrdered⟩ :=
    List.forall_mem_cons.mp (ordered_layers (before ++ override :: after))
  have afterOne : (Value.mapping (Fields.overlay base (Fields.overlayAll
      ((before ++ override :: after).map layer)))).atPath? override.path =
        some ((((Value.mapping base).atPath? override.path).getD .null).overlay
          (parse override.content)) :=
    Value.atPath?_overlay (.mapping base) ((Fields.ordered_mapping_iff _).mpr oneOrdered)
      (atPath?_overlayAll_layer nonempty apart)
  have textsSpare := spares_textLayers apart
  rw [layers, List.foldl_cons]
  rw [List.filter_append, List.map_append] at textsSpare
  unfold value
  cases text : override.isText with
  | true =>
      have texts : ((before ++ override :: after).filter isText).map textLayer =
          (before.filter isText).map textLayer ++
            override.textLayer :: (after.filter isText).map textLayer := by
        simp [text]
      rw [texts] at textsOrdered ⊢
      rw [Fields.atPath?_foldl_overlay textsOrdered textsSpare
        (atPath?_mapping_nested nonempty (.text override.content)), if_pos rfl]
      rfl
  | false =>
      have texts : ((before ++ override :: after).filter isText).map textLayer =
          (before.filter isText).map textLayer ++ (after.filter isText).map textLayer := by
        simp [text]
      rw [texts] at textsOrdered ⊢
      rw [Fields.atPath?_foldl_overlay_of_spares textsOrdered textsSpare, afterOne,
        if_neg Bool.false_ne_true]

end Override

/-! ### The document of all layers -/

namespace Loader

variable {layers : List Layer}

/-- All layers over each other, as `documentOf` has them before it drops anything. -/
def laid (layers : List Layer) (overrides : List Override) : Fields :=
  (Override.layers overrides).foldl Fields.overlay (Fields.overlayAll (layers.map Layer.document))

theorem ordered_overlayAll_documents (ordered : ∀ layer ∈ layers, layer.document.Ordered) :
    (Fields.overlayAll (layers.map Layer.document)).Ordered :=
  Fields.ordered_overlayAll (List.forall_mem_map.mpr ordered)

theorem ordered_laid (ordered : ∀ layer ∈ layers, layer.document.Ordered)
    (overrides : List Override) : (laid layers overrides).Ordered :=
  Fields.Ordered.foldl_overlay (Override.ordered_layers overrides)
    (ordered_overlayAll_documents ordered)

theorem ordered_documentOf (ordered : ∀ layer ∈ layers, layer.document.Ordered)
    (overrides : List Override) : (documentOf layers overrides).Ordered :=
  (Fields.ordered_mapping_iff _).mp (holds_documentOf Value.closed_ordered
    (fun layer membership => (Fields.ordered_mapping_iff _).mpr (ordered layer membership))
    overrides)

/-- Apart from the list of included files, what is not null stays where it is, pruned. -/
theorem atPath?_documentOf (ordered : ∀ layer ∈ layers, layer.document.Ordered)
    (overrides : List Override) {key : String} (outside : key ≠ Config.includeKey)
    (rest : List String) :
    (Value.mapping (documentOf layers overrides)).atPath? (key :: rest) =
      match (Value.mapping (laid layers overrides)).atPath? (key :: rest) with
      | none => none
      | some found => if found.isNull then none else some found.pruned := by
  have laidOrdered := ordered_laid ordered overrides
  have erased : (Value.mapping (Fields.erase Config.includeKey
      (laid layers overrides))).atPath? (key :: rest) =
        (Value.mapping (laid layers overrides)).atPath? (key :: rest) := by
    simp only [Value.atPath?_cons, Value.entries, Fields.get?_erase_of_ne outside.symm]
  rw [← erased]
  exact Value.atPath?_pruned ((Fields.ordered_mapping_iff _).mpr
    (laidOrdered.erase Config.includeKey)) (List.cons_ne_nil key rest)

theorem get?_includeKey_documentOf (ordered : ∀ layer ∈ layers, layer.document.Ordered)
    (overrides : List Override) :
    Fields.get? Config.includeKey (documentOf layers overrides) = none := by
  have laidAscending := (ordered_laid ordered overrides).ascending
  change Fields.get? Config.includeKey (Value.prunedFields
    (Fields.erase Config.includeKey (laid layers overrides))) = none
  rw [Value.get?_prunedFields (laidAscending.erase _), laidAscending.get?_erase, if_pos rfl]

theorem getD_atPath?_documentOf (ordered : ∀ layer ∈ layers, layer.document.Ordered)
    (overrides : List Override) {key : String} (outside : key ≠ Config.includeKey)
    (rest : List String) :
    ((Value.mapping (documentOf layers overrides)).atPath? (key :: rest)).getD .null =
      (((Value.mapping (laid layers overrides)).atPath? (key :: rest)).getD .null).pruned := by
  rw [atPath?_documentOf ordered overrides outside]
  cases (Value.mapping (laid layers overrides)).atPath? (key :: rest) with
  | none => rfl
  | some found => cases found <;> rfl

/-- Overrides of other paths leave what the documents hold at a path. -/
theorem atPath?_documentOf_of_apart (ordered : ∀ layer ∈ layers, layer.document.Ordered)
    {overrides : List Override} {path : List String} (nonempty : path ≠ [])
    (apart : ∀ other ∈ overrides, Key.Apart other.path path) :
    (Value.mapping (documentOf layers overrides)).atPath? path =
      (Value.mapping (documentOf layers [])).atPath? path := by
  obtain ⟨key, rest, rfl⟩ := List.exists_cons_of_ne_nil nonempty
  by_cases outside : key = Config.includeKey
  · rw [Value.atPath?_cons, Value.atPath?_cons, outside, Value.entries, Value.entries,
      get?_includeKey_documentOf ordered, get?_includeKey_documentOf ordered]
  · have same : (Value.mapping (laid layers overrides)).atPath? (key :: rest) =
        (Value.mapping (laid layers [])).atPath? (key :: rest) :=
      Fields.atPath?_foldl_overlay_of_spares (Override.ordered_layers overrides)
        (Override.spares_layers nonempty apart) _
    rw [atPath?_documentOf ordered overrides outside, atPath?_documentOf ordered [] outside, same]

/-- An override that no other one meets is a merge patch for what the documents hold at its
path. -/
theorem atPath?_documentOf_override (ordered : ∀ layer ∈ layers, layer.document.Ordered)
    {before after : List Override} {override : Override} (nonempty : override.path ≠ [])
    (outside : override.path.head? ≠ some Config.includeKey)
    (apart : ∀ other ∈ before ++ after, Key.Apart other.path override.path) :
    (Value.mapping (documentOf layers (before ++ override :: after))).atPath? override.path =
      if override.value.isNull then none
      else some ((((Value.mapping (documentOf layers [])).atPath? override.path).getD
        .null).mergePatch override.value) := by
  have documentsOrdered := ordered_overlayAll_documents ordered
  have atOverride := Override.atPath?_foldl_layers nonempty apart
    (Fields.overlayAll (layers.map Layer.document))
  obtain ⟨key, rest, shape⟩ := List.exists_cons_of_ne_nil nonempty
  rw [shape] at outside atOverride ⊢
  have keyOutside : key ≠ Config.includeKey := fun same => outside (by rw [same]; rfl)
  rw [atPath?_documentOf ordered _ keyOutside, laid, atOverride,
    getD_atPath?_documentOf ordered [] keyOutside]
  have baseOrdered : (((Value.mapping (laid layers [])).atPath? (key :: rest)).getD
      .null).Ordered := by
    cases found : (Value.mapping (laid layers [])).atPath? (key :: rest) with
    | none => exact .null
    | some value => exact ((Fields.ordered_mapping_iff _).mpr documentsOrdered).atPath? found
  rw [← Value.pruned_overlay baseOrdered override.ordered_value, ← Value.isNull_overlay]
  rfl

end Loader

end BotConfig
