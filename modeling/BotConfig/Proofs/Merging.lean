import BotConfig.Loader
import BotConfig.Proofs.Includes
import BotConfig.Proofs.Paths

/-!
The document of all layers.

The loader keeps nulls while it lays layers over each other, and drops them at the end.  The
document that it gives is nevertheless what is left when each layer deletes on the spot what it
has a null for.
-/

namespace BotConfig

theorem Override.ordered_layer (override : Override) : override.layer.Ordered :=
  (Value.ordered_nested (ordered_parse override.content) override.path).entries

theorem Override.holds_layers {holds : Value → Prop} (closed : Value.Closed holds)
    (overrides : List Override) : ∀ layer ∈ layers overrides, holds (.mapping layer) := by
  refine List.forall_mem_cons.mpr ⟨closed.foldl_overlay ?_ closed.empty, ?_⟩
  · exact List.forall_mem_map.mpr fun override _ =>
      closed.fieldsNested (holds_parse closed override.content) override.path
  · exact List.forall_mem_map.mpr fun override _ =>
      closed.fieldsNested (closed.text override.content) override.path

theorem Override.ordered_layers (overrides : List Override) :
    ∀ layer ∈ layers overrides, layer.Ordered :=
  fun layer membership => (Fields.ordered_mapping_iff layer).mp
    (holds_layers Value.closed_ordered overrides layer membership)

namespace Loader

/-- What is laid over each other: the documents, all overrides as one layer, and the free texts each
on its own. -/
def patches (layers : List Layer) (overrides : List Override) : List Fields :=
  layers.map Layer.document ++ [Fields.overlayAll (overrides.map Override.layer)] ++
    (overrides.filter Override.isText).map Override.textLayer

theorem patches_eq (layers : List Layer) (overrides : List Override) :
    patches layers overrides = layers.map Layer.document ++ Override.layers overrides := by
  simp [patches, Override.layers]

theorem ordered_patches {layers : List Layer} (ordered : ∀ layer ∈ layers, layer.document.Ordered)
    (overrides : List Override) : ∀ patch ∈ patches layers overrides, patch.Ordered := by
  rw [patches_eq]
  exact List.forall_mem_append.mpr
    ⟨List.forall_mem_map.mpr ordered, Override.ordered_layers overrides⟩

/-- All layers over each other, with nulls. -/
theorem documentOf_eq (layers : List Layer) (overrides : List Override) :
    documentOf layers overrides = Value.prunedFields (Fields.erase Config.includeKey
      ((patches layers overrides).foldl Fields.overlay [])) := by
  rw [patches_eq, List.foldl_append]
  rfl

theorem holds_documentOf {holds : Value → Prop} (closed : Value.Closed holds) {layers : List Layer}
    (each : ∀ layer ∈ layers, holds (.mapping layer.document)) (overrides : List Override) :
    holds (.mapping (documentOf layers overrides)) := by
  have documents := closed.foldl_overlay (List.forall_mem_map.mpr each) closed.empty
  have laid := closed.foldl_overlay (Override.holds_layers closed overrides) documents
  exact closed.pruned (.mapping _) (closed.erase laid Config.includeKey)

theorem documentOf_eq_patched {layers : List Layer}
    (ordered : ∀ layer ∈ layers, layer.document.Ordered) (overrides : List Override) :
    documentOf layers overrides = Fields.erase Config.includeKey
      ((patches layers overrides).foldl Fields.mergePatch []) := by
  have patchesOrdered := ordered_patches ordered overrides
  have laidOrdered := Fields.Ordered.foldl_overlay patchesOrdered Fields.ordered_nil
  rw [documentOf_eq, Fields.pruned_erase laidOrdered.ascending,
    Fields.pruned_foldl_overlay patchesOrdered Fields.ordered_nil]
  rfl

/-- No null is left in a mapping that is reached by keys. -/
theorem atPath?_documentOf_ne_null {layers : List Layer}
    (ordered : ∀ layer ∈ layers, layer.document.Ordered) (overrides : List Override)
    {path : List String} (below : path ≠ []) :
    (Value.mapping (documentOf layers overrides)).atPath? path ≠ some .null := by
  have laidOrdered := Fields.Ordered.foldl_overlay (ordered_patches ordered overrides)
    Fields.ordered_nil
  rw [documentOf_eq]
  exact Value.atPath?_pruned_ne_null
    ((Fields.ordered_mapping_iff _).mpr (laidOrdered.erase Config.includeKey)) below

theorem outcome_merge_eq_ok_iff (loader : Loader) (world : World) (sources : List Source)
    (merged : Merged) :
    (loader.merge world sources).outcome = .ok merged ↔
      ∃ layers, Source.VisitsAll world.read (Source.maxIncludeDepth + 1) sources layers ∧
        merged = ⟨documentOf layers (loader.overrides world.environment),
          layers.map Layer.name, loader.overrides world.environment⟩ := by
  simp only [← Source.outcome_allLayers_eq_ok_iff]
  unfold merge
  dsimp only
  rw [apply_ite Traced.outcome, Traced.outcome_report_bind, ite_self,
    Traced.outcome_bind_eq_ok_iff]
  constructor
  · rintro ⟨layers, yields, ⟨⟩⟩
    exact ⟨layers, yields, rfl⟩
  · rintro ⟨layers, yields, rfl⟩
    exact ⟨layers, yields, rfl⟩

/-- Merging gives the documents in the order of loading and the overrides, each applied to what
came before as a merge patch, without the list of included files. No null is left. -/
theorem merge_folds_patches (loader : Loader) (world : World) (sources : List Source)
    (merged : Merged) :
    (loader.merge world sources).outcome = .ok merged ↔
      ∃ layers, Source.VisitsAll world.read (Source.maxIncludeDepth + 1) sources layers ∧
        merged.files = layers.map Layer.name ∧
        merged.overrides = loader.overrides world.environment ∧
        merged.document = Fields.erase Config.includeKey
          ((patches layers merged.overrides).foldl Fields.mergePatch []) ∧
        ∀ path, path ≠ [] → (Value.mapping merged.document).atPath? path ≠ some .null := by
  rw [outcome_merge_eq_ok_iff]
  constructor
  · rintro ⟨layers, visits, rfl⟩
    refine ⟨layers, visits, rfl, rfl, documentOf_eq_patched visits.ordered _, ?_⟩
    intro path below
    exact atPath?_documentOf_ne_null visits.ordered _ below
  · rintro ⟨layers, visits, files, overrides, document, -⟩
    refine ⟨layers, visits, ?_⟩
    rw [documentOf_eq_patched visits.ordered, ← files, ← overrides, ← document]

/-- Documents that bring a section, delete it, and bring it again with a null inside another. -/
def stackedSources : List Source := [
  .inline "first.yaml" "exchange: {name: binance, key: a}\ndry_run: true",
  .inline "second.yaml" "exchange: null\nedge: {enabled: true, risk: 1}",
  .inline "third.yaml" "add_config_files: []\nexchange: {name: kraken}\nedge: {risk: null}"]

/-- A world with a variable for a number and one for a free text. -/
def stackedWorld : World where
  read _ := .error .notFound
  environment := [("TRADING__EXCHANGE__SECRET", "007"), ("TRADING__EDGE__DAYS", "7")]

theorem merge_folds_patches_stacked :
    ∃ merged layers,
      (merge ⟨some "TRADING"⟩ stackedWorld stackedSources).outcome = .ok merged ∧
      layers.map Layer.name = ["first.yaml", "second.yaml", "third.yaml"] ∧
      merged.document = Fields.erase Config.includeKey
        ((patches layers merged.overrides).foldl Fields.mergePatch []) ∧
      merged.document = [
        ("dry_run", .boolean true),
        ("edge", .mapping [("days", .number (.integer 7)), ("enabled", .boolean true)]),
        ("exchange", .mapping [("name", .text "kraken"), ("secret", .text "007")])] := by
  have merges : ((merge ⟨some "TRADING"⟩ stackedWorld stackedSources).outcome.toOption.any
      fun merged => merged.files == ["first.yaml", "second.yaml", "third.yaml"] &&
        decide (merged.document = [
          ("dry_run", .boolean true),
          ("edge", .mapping [("days", .number (.integer 7)), ("enabled", .boolean true)]),
          ("exchange", .mapping [("name", .text "kraken"), ("secret", .text "007")])])) = true := by
    decide +kernel
  obtain ⟨merged, isOk, holds⟩ := Traced.exists_eq_ok_of_any merges
  obtain ⟨files, document⟩ := (Bool.and_eq_true _ _).mp holds
  obtain ⟨layers, -, names, -, folded, -⟩ :=
    (merge_folds_patches ⟨some "TRADING"⟩ stackedWorld stackedSources merged).mp isOk
  exact ⟨merged, layers, isOk, names.symm.trans (eq_of_beq files), folded,
    of_decide_eq_true document⟩

end Loader

end BotConfig
