import BotConfig.Proofs.Matching
import BotConfig.Proofs.Overrides
import BotConfig.Proofs.Reordering

/-!
The order of environment variables.

Overrides whose paths are apart are laid over the documents and aligned with their keys in any order
with the same result.  All that is left of their order is the order of what is reported.
-/

namespace BotConfig

/-! ### Overrides in another order -/

namespace Override

/-- No two overrides have the same path, and no path leads on from another one. -/
def AllApart (overrides : List Override) : Prop :=
  overrides.Pairwise fun override other => Key.Apart override.path other.path

variable {first second : List Override}

theorem foldl_overlay_eq_of_perm {value : Override → Value}
    (valuesOrdered : ∀ override, (value override).Ordered) (permuted : first.Perm second)
    (apart : AllApart first) {base : Fields} (ordered : base.Ordered) :
    (first.map fun override => Fields.nested override.path (value override)).foldl
        Fields.overlay base =
      (second.map fun override => Fields.nested override.path (value override)).foldl
        Fields.overlay base := by
  rw [List.foldl_map, List.foldl_map]
  refine foldl_eq_of_perm Fields.Ordered (fun a b : Override => Key.Apart a.path b.path)
    (fun _ _ => Key.Apart.symm) ?_ permuted apart ?_ ordered
  · intro fields a b fieldsOrdered isApart
    exact Fields.overlay_nested_comm isApart fieldsOrdered _ _
  · intro override _ fields fieldsOrdered
    have valueOrdered := valuesOrdered override
    exact fieldsOrdered.overlay (Value.ordered_nested valueOrdered override.path).entries

theorem foldl_layers_eq_of_perm (permuted : first.Perm second) (apart : AllApart first)
    {base : Fields} (ordered : base.Ordered) :
    (layers first).foldl Fields.overlay base = (layers second).foldl Fields.overlay base := by
  have values : Fields.overlayAll (first.map layer) = Fields.overlayAll (second.map layer) :=
    foldl_overlay_eq_of_perm (fun override => ordered_parse override.content) permuted apart
      Fields.ordered_nil
  have laid : (Fields.overlayAll (second.map layer)).Ordered :=
    Fields.ordered_overlayAll (List.forall_mem_map.mpr fun override _ => override.ordered_layer)
  rw [layers, layers, values, List.foldl_cons, List.foldl_cons]
  exact foldl_overlay_eq_of_perm (fun override => .text override.content) (permuted.filter isText)
    (apart.filter isText) (ordered.overlay laid)

theorem foldl_align_eq_of_perm (permuted : first.Perm second) (apart : AllApart first)
    (lower : ∀ override ∈ first, ∀ key ∈ override.path, Key.IsLower key) {document : Fields}
    (ordered : document.Ordered) :
    first.foldl (fun document override => Key.align override.path document) document =
      second.foldl (fun document override => Key.align override.path document) document := by
  have lowerApart : first.Pairwise fun a b => Key.Apart a.path b.path ∧
      (∀ key ∈ a.path, Key.IsLower key) ∧ ∀ key ∈ b.path, Key.IsLower key :=
    apart.imp_of_mem fun membership other isApart => ⟨isApart, lower _ membership, lower _ other⟩
  refine foldl_eq_of_perm Fields.Ordered _ ?_ ?_ permuted lowerApart ?_ ordered
  · rintro a b ⟨isApart, aLower, bLower⟩
    exact ⟨isApart.symm, bLower, aLower⟩
  · rintro fields a b fieldsOrdered ⟨isApart, aLower, bLower⟩
    exact Key.align_comm isApart aLower bLower fieldsOrdered
  · intro override _ fields fieldsOrdered
    exact Key.ordered_align fieldsOrdered override.path

end Override

/-! ### Reports in another order -/

/-- Two computations end in the same way, and report the same in some order. -/
structure Traced.Permuted {α β : Type} (matching : α → β → Prop) (first : Traced α)
    (second : Traced β) : Prop where
  outcome : BotConfig.Matched matching first.outcome second.outcome
  log : first.log.Perm second.log

namespace Traced.Permuted

variable {α β γ δ : Type} {matching : α → β → Prop} {continued : γ → δ → Prop}

theorem refl {matching : α → α → Prop} (reflexive : ∀ result, matching result result)
    (computation : Traced α) : Permuted matching computation computation :=
  ⟨.refl reflexive _, .refl _⟩

theorem reportAll {entries others : List Log.Entry} (permuted : entries.Perm others) :
    Permuted Eq (Traced.reportAll entries) (Traced.reportAll others) :=
  ⟨.ok rfl, permuted⟩

theorem bind {first : Traced α} {second : Traced β} {next : α → Traced γ} {otherNext : β → Traced δ}
    (permuted : Permuted matching first second)
    (continues : ∀ result other, first.outcome = .ok result → matching result other →
      Permuted continued (next result) (otherNext other)) :
    Permuted continued (first >>= next) (second >>= otherNext) := by
  obtain ⟨log, outcome⟩ := first
  obtain ⟨otherLog, otherOutcome⟩ := second
  obtain ⟨matched, logs⟩ := permuted
  cases matched with
  | error error => exact ⟨.error error, logs⟩
  | ok holds =>
      obtain ⟨after, logsAfter⟩ := continues _ _ rfl holds
      exact ⟨after, logs.append logsAfter⟩

end Traced.Permuted

/-! ### Loading -/

namespace Loader

/-- What is merged differs at most in the order of the overrides. -/
structure SameButOrder (merged other : Merged) : Prop where
  aligned : aligned merged = aligned other
  files : merged.files = other.files
  overrides : merged.overrides.Perm other.overrides

theorem permuted_settle {merged other : Merged} (same : SameButOrder merged other) :
    Traced.Permuted Eq (settle merged) (settle other) := by
  unfold settle
  rw [same.aligned, same.files]
  refine (Traced.Permuted.refl (fun _ => rfl) _).bind fun config _ _ (sameConfig : _ = _) => ?_
  subst sameConfig
  refine (Traced.Permuted.refl (fun _ => rfl) _).bind fun _ _ _ (_ : _ = _) => ?_
  have unusedPermuted : (unused config merged.overrides).Perm (unused config other.overrides) :=
    same.overrides.filter _
  refine (Traced.Permuted.reportAll (unusedPermuted.map _)).bind fun _ _ _ _ => ?_
  exact .refl (fun _ => rfl) _

theorem sameButOrder {layers : List Layer} (ordered : ∀ layer ∈ layers, layer.document.Ordered)
    {overrides others : List Override} (permuted : overrides.Perm others)
    (apart : Override.AllApart overrides)
    (lower : ∀ override ∈ overrides, ∀ key ∈ override.path, Key.IsLower key) (files : List String) :
    SameButOrder ⟨documentOf layers overrides, files, overrides⟩
      ⟨documentOf layers others, files, others⟩ := by
  have documents : documentOf layers overrides = documentOf layers others := by
    unfold documentOf
    dsimp only
    rw [Override.foldl_layers_eq_of_perm permuted apart (ordered_overlayAll_documents ordered)]
  refine ⟨?_, rfl, permuted⟩
  unfold aligned
  dsimp only
  rw [← documents]
  exact Override.foldl_align_eq_of_perm permuted apart lower
    (ordered_documentOf ordered overrides)

theorem permuted_merge {loader : Loader} {world : World} {environment : List (String × String)}
    (permuted : world.environment.Perm environment)
    (apart : Override.AllApart (loader.overrides world.environment)) (sources : List Source) :
    Traced.Permuted SameButOrder (loader.merge world sources)
      (loader.merge ⟨world.read, environment⟩ sources) := by
  have overridesPermuted :
      (loader.overrides world.environment).Perm (loader.overrides environment) := by
    unfold overrides
    split
    · exact .refl _
    · exact permuted.filterMap _
  have lower : ∀ override ∈ loader.overrides world.environment,
      ∀ key ∈ override.path, Key.IsLower key :=
    fun override membership => (Override.lower_of_mem_overrides membership).2
  have laid : Traced.Permuted SameButOrder
      (Source.allLayers world.read sources >>= fun layers =>
        Traced.reportAll ((loader.overrides world.environment).map .overridden) >>= fun _ =>
          Pure.pure ⟨documentOf layers (loader.overrides world.environment),
            layers.map Layer.name, loader.overrides world.environment⟩)
      (Source.allLayers world.read sources >>= fun layers =>
        Traced.reportAll ((loader.overrides environment).map .overridden) >>= fun _ =>
          Pure.pure ⟨documentOf layers (loader.overrides environment),
            layers.map Layer.name, loader.overrides environment⟩) := by
    refine (Traced.Permuted.refl (fun _ => rfl) _).bind fun layers _ found (same : _ = _) => ?_
    subst same
    have visits := (Source.outcome_allLayers_eq_ok_iff _ _).mp found
    refine (Traced.Permuted.reportAll (overridesPermuted.map _)).bind fun _ _ _ _ => ?_
    exact ⟨.ok (sameButOrder visits.ordered overridesPermuted apart lower _), .refl _⟩
  unfold merge
  dsimp only
  split
  · exact (Traced.Permuted.refl (fun _ => rfl) (Traced.report .noSources)).bind fun _ _ _ _ => laid
  · exact laid

/-- Variables that are enumerated in another order give the same outcome, and reports that differ
in their order at most, as long as no two of them address the same path and none a path that leads
on from another one. -/
theorem load_permuted_environment (loader : Loader) (world : World) (sources : List Source)
    (environment : List (String × String)) (permuted : world.environment.Perm environment)
    (apart : Override.AllApart (loader.overrides world.environment)) :
    (loader.load ⟨world.read, environment⟩ sources).outcome = (loader.load world sources).outcome ∧
      (loader.load ⟨world.read, environment⟩ sources).log.Perm (loader.load world sources).log := by
  obtain ⟨matched, logs⟩ := (permuted_merge permuted apart sources).bind
    fun _ _ _ same => permuted_settle same
  exact ⟨matched.eq.symm, logs.symm⟩

theorem load_permuted_environment_server :
    (load ⟨some "TRADING"⟩ ⟨fun _ => .error .notFound,
        [("TRADING__API_SERVER__CORS_ORIGINS", "[]"), ("TRADING__API_SERVER__ENABLED", "false")]⟩
        [small]).Succeeds ∧
      (load ⟨some "TRADING"⟩ ⟨fun _ => .error .notFound,
        [("TRADING__API_SERVER__ENABLED", "false"), ("TRADING__API_SERVER__CORS_ORIGINS", "[]")]⟩
        [small]).outcome =
      (load ⟨some "TRADING"⟩ ⟨fun _ => .error .notFound,
        [("TRADING__API_SERVER__CORS_ORIGINS", "[]"), ("TRADING__API_SERVER__ENABLED", "false")]⟩
        [small]).outcome := by
  have found : overrides ⟨some "TRADING"⟩
      [("TRADING__API_SERVER__CORS_ORIGINS", "[]"), ("TRADING__API_SERVER__ENABLED", "false")] =
        [⟨["api_server", "cors_origins"], "[]"⟩, ⟨["api_server", "enabled"], "false"⟩] := by
    decide +kernel
  have apart : Override.AllApart (overrides ⟨some "TRADING"⟩
      [("TRADING__API_SERVER__CORS_ORIGINS", "[]"),
        ("TRADING__API_SERVER__ENABLED", "false")]) := by
    rw [found]
    simp [Override.AllApart, Key.Apart]
  refine ⟨by decide +kernel, ?_⟩
  exact (load_permuted_environment _ ⟨fun _ => .error .notFound, _⟩ _ _ (.swap _ _ _) apart).1

end Loader

end BotConfig
