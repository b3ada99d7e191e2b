import BotConfig.Proofs.Secrecy
import BotConfig.Proofs.Settlement

/-!
A merged document by itself.

Merging a document that has been merged gives it back: it holds no null and includes nothing.  So
what is loaded from sources and an environment is what is loaded from their document alone, once
it is aligned.
-/

namespace BotConfig

namespace Fields

theorem erase_eq_self {key : String} {fields : Fields} (absent : get? key fields = none) :
    Fields.erase key fields = fields := by
  induction fields with
  | nil => rfl
  | cons entry rest inductionHypothesis =>
      rcases entry with ⟨name, value⟩
      by_cases same : name = key
      · simp [same] at absent
      · rw [get?_cons, if_neg same] at absent
        rw [Fields.erase, if_neg same, inductionHypothesis absent]

/-- Laid over nothing, a mapping stays what it is. -/
theorem overlay_nil_left {patch : Fields} (ascending : patch.Ascending) :
    overlay [] patch = patch := by
  have laid := Value.overlay_mapping .null ascending
  rw [Value.overlay_null] at laid
  exact (Value.mapping.inj laid).symm

end Fields

namespace Loader

variable {loader : Loader} {world : World} {sources : List Source} {merged : Merged}

/-- A document as merging leaves it is merged to itself. -/
theorem outcome_merge_alone {other : World} {alone : Source} {document : Fields}
    (final : Final document) (reads : alone.document other.read = .ok document) :
    (merge ⟨none⟩ other [alone]).outcome = .ok ⟨document, [alone.name], []⟩ := by
  have includesNone : Source.included document = .ok [] := by
    rw [Source.included, final.includesNone]
  have visits : Source.VisitsAll other.read (Source.maxIncludeDepth + 1) [alone]
      (([] ++ [⟨alone.name, document⟩]) ++ []) :=
    .cons (.document reads includesNone .nil) .nil
  have laid : documentOf [⟨alone.name, document⟩] [] = document := by
    rw [documentOf_eq]
    change Value.prunedFields (Fields.erase Config.includeKey
      (Fields.overlay (Fields.overlay [] document) [])) = document
    rw [Fields.overlay_nil_left final.ordered.ascending]
    change Value.prunedFields (Fields.erase Config.includeKey document) = document
    rw [Fields.erase_eq_self final.includesNone, final.nonnull]
  refine (outcome_merge_eq_ok_iff _ _ _ _).mpr ⟨_, visits, ?_⟩
  simp [overrides, laid]

/-- A document that merging leaves is settled when it is loaded alone. -/
theorem nameless_load_alone {other : World} {alone : Source} {document : Fields}
    (final : Final document) (reads : alone.document other.read = .ok document) :
    nameless (load ⟨none⟩ other [alone]).outcome = nameless (settled document) := by
  rw [outcome_load_eq (outcome_merge_alone final reads), nameless_map]
  rfl

theorem aligned_eq_self
    (unmoved : ∀ override ∈ merged.overrides,
      Key.align override.path merged.document = merged.document) :
    aligned merged = merged.document := by
  refine List.foldlRecOn (motive := fun document => document = merged.document) merged.overrides _
    rfl ?_
  rintro document rfl override membership
  exact unmoved override membership

/-- What is loaded from sources is what is loaded from their merged document alone, once it is
aligned.  The document as it was merged will do if no override has a value to move to another
spelling of its key. -/
theorem load_merged (merges : (loader.merge world sources).outcome = .ok merged) (other : World)
    (alone : Source) :
    (alone.document other.read = .ok (aligned merged) →
      nameless (load ⟨none⟩ other [alone]).outcome =
        nameless (loader.load world sources).outcome) ∧
    (alone.document other.read = .ok merged.document →
      (∀ override ∈ merged.overrides,
        Key.align override.path merged.document = merged.document) →
      nameless (load ⟨none⟩ other [alone]).outcome =
        nameless (loader.load world sources).outcome) := by
  rw [outcome_load_eq merges, nameless_map]
  constructor
  · exact nameless_load_alone (final_aligned merges)
  · intro reads unmoved
    rw [aligned_eq_self unmoved]
    exact nameless_load_alone (final_of_outcome_merge merges) reads

theorem document_eq_ok_of_toOption {source : Source} {read : String → Except ReadFault String}
    {document : Fields} (found : (source.document read).toOption = some document) :
    source.document read = .ok document := by
  cases outcome : source.document read with
  | error error =>
      rw [outcome] at found
      cases found
  | ok other =>
      rw [outcome] at found
      exact congrArg Except.ok (Option.some.inj found)

/-- A variable takes the place of what a document holds, and what is loaded is what the document
with the value of the variable holds. -/
theorem load_merged_notified :
    ∃ merged,
      (merge ⟨some "TRADING"⟩ (variableWorld "TRADING__WEBHOOK__URL" "y")
        [small.notified "url: x"]).outcome = .ok merged ∧
      (small.notified "url: y").document (fun _ => .error .notFound) = .ok merged.document ∧
      (∀ override ∈ merged.overrides,
        Key.align override.path merged.document = merged.document) ∧
      (load ⟨some "TRADING"⟩ (variableWorld "TRADING__WEBHOOK__URL" "y")
        [small.notified "url: x"]).Succeeds ∧
      nameless (load ⟨none⟩ ⟨fun _ => .error .notFound, []⟩ [small.notified "url: y"]).outcome =
        nameless (load ⟨some "TRADING"⟩ (variableWorld "TRADING__WEBHOOK__URL" "y")
          [small.notified "url: x"]).outcome := by
  have layered : (Source.allLayers (fun _ => .error .notFound)
      [small.notified "url: x"]).outcome.toOption.any (fun layers => decide (
        layers.map Layer.name = ["small.yaml"] ∧
        layers.map Layer.document = [small.notifying [("url", .text "x")]])) = true := by
    decide +kernel
  have merges : (merge ⟨some "TRADING"⟩ (variableWorld "TRADING__WEBHOOK__URL" "y")
      [small.notified "url: x"]).outcome = .ok ⟨small.notifying ([] ++ [("url", .text "y")]),
        ["small.yaml"], [⟨["webhook", "url"], "y"⟩]⟩ :=
    outcome_merge_notified layered (by decide +kernel) (by decide +kernel)
  have reads : (small.notified "url: y").document (fun _ => .error .notFound) =
      .ok (small.notifying ([] ++ [("url", .text "y")])) :=
    document_eq_ok_of_toOption (by decide +kernel)
  have unmoved : Key.align ["webhook", "url"] (small.notifying ([] ++ [("url", .text "y")])) =
      small.notifying ([] ++ [("url", .text "y")]) := by
    decide +kernel
  have succeeds : (load ⟨some "TRADING"⟩ (variableWorld "TRADING__WEBHOOK__URL" "y")
      [small.notified "url: x"]).Succeeds := by
    rw [Traced.Succeeds, outcome_load_of_merge merges]
    change (settle _).Succeeds
    decide +kernel
  have unmovedAll : ∀ override ∈ ([⟨["webhook", "url"], "y"⟩] : List Override),
      Key.align override.path (small.notifying ([] ++ [("url", .text "y")])) =
        small.notifying ([] ++ [("url", .text "y")]) :=
    List.forall_mem_singleton.mpr unmoved
  exact ⟨_, merges, reads, unmovedAll, succeeds,
    (load_merged merges ⟨fun _ => .error .notFound, []⟩ _).2 reads unmovedAll⟩

/-- Where the document spells the key with capitals, the merged document holds both spellings, and
so does what is loaded from it alone. -/
theorem load_merged_differs :
    ∃ merged config other,
      (merge ⟨some "TRADING"⟩ (variableWorld "TRADING__WEBHOOK__URL" "y")
        [small.notified "URL: x"]).outcome = .ok merged ∧
      (small.notified "URL: x\n  url: y").document (fun _ => .error .notFound) =
        .ok merged.document ∧
      (load ⟨some "TRADING"⟩ (variableWorld "TRADING__WEBHOOK__URL" "y")
        [small.notified "URL: x"]).outcome = .ok config ∧
      (load ⟨none⟩ ⟨fun _ => .error .notFound, []⟩
        [small.notified "URL: x\n  url: y"]).outcome = .ok other ∧
      nameless (.ok other) ≠ nameless (.ok config) := by
  have layered : (Source.allLayers (fun _ => .error .notFound)
      [small.notified "URL: x"]).outcome.toOption.any (fun layers => decide (
        layers.map Layer.name = ["small.yaml"] ∧
        layers.map Layer.document = [small.notifying [("URL", .text "x")]])) = true := by
    decide +kernel
  have merges : (merge ⟨some "TRADING"⟩ (variableWorld "TRADING__WEBHOOK__URL" "y")
      [small.notified "URL: x"]).outcome =
        .ok ⟨small.notifying ([("URL", .text "x")] ++ [("url", .text "y")]),
          ["small.yaml"], [⟨["webhook", "url"], "y"⟩]⟩ :=
    outcome_merge_notified layered (by decide +kernel) (by decide +kernel)
  have reads : (small.notified "URL: x\n  url: y").document (fun _ => .error .notFound) =
      .ok (small.notifying ([("URL", .text "x")] ++ [("url", .text "y")])) :=
    document_eq_ok_of_toOption (by decide +kernel)
  have aloneMerges : (merge ⟨none⟩ ⟨fun _ => .error .notFound, []⟩
      [small.notified "URL: x\n  url: y"]).outcome =
        .ok ⟨small.notifying ([("URL", .text "x")] ++ [("url", .text "y")]), ["small.yaml"], []⟩ :=
    outcome_merge_alone (final_of_outcome_merge merges) reads
  have settles : (settle ⟨small.notifying ([("URL", .text "x")] ++ [("url", .text "y")]),
      ["small.yaml"], [⟨["webhook", "url"], "y"⟩]⟩).outcome.toOption.any (fun config => decide (
        (Value.mapping config.extra).atPath? ["webhook", "url"] = none)) = true := by
    decide +kernel
  have aloneSettles : (settle ⟨small.notifying ([("URL", .text "x")] ++ [("url", .text "y")]),
      ["small.yaml"], []⟩).outcome.toOption.any (fun config => decide (
        (Value.mapping config.extra).atPath? ["webhook", "url"] = some (.text "y"))) = true := by
    decide +kernel
  obtain ⟨config, loads, missing⟩ := Traced.exists_eq_ok_of_any settles
  obtain ⟨other, otherLoads, present⟩ := Traced.exists_eq_ok_of_any aloneSettles
  rw [← outcome_load_of_merge merges] at loads
  have aloneLoads := (outcome_load_of_merge aloneMerges).trans otherLoads
  refine ⟨_, config, other, merges, reads, loads, aloneLoads, ?_⟩
  intro same
  have sameExtra : (.ok other.extra : Except ConfigError Fields) = .ok config.extra :=
    congrArg (Except.map Config.extra) same
  have absent := of_decide_eq_true missing
  rw [← Except.ok.inj sameExtra, of_decide_eq_true present] at absent
  cases absent

end Loader

end BotConfig
