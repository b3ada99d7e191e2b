import BotConfig.Proofs.Reporting
import BotConfig.Proofs.Unseen
import BotConfig.Proofs.Withdrawal

/-!
Overrides that are reported as unused.

The value of such an override does not matter: without what stands at its path the same is loaded.
The variable may matter all the same, as it also leaves the mappings on the way to its value, and
replaces or deletes what was there before.  It does not where there was room for its value.
-/

namespace BotConfig

namespace Loader

variable {loader : Loader} {world : World} {start : String}
  {read : String → Except ReadFault String} {environment : List (String × String)}
  {sources : List Source} {path : List String} {override : Override} {merged : Merged}
  {config decoded : Config}

/-- An environment without the variables that override the value at a path. -/
def unset (start : String) (path : List String) (environment : List (String × String)) :
    List (String × String) :=
  environment.filter fun entry => Override.path? start entry.1 ≠ some path

theorem overrides_unset (start : String) (path : List String)
    (environment : List (String × String)) :
    overrides ⟨some start⟩ (unset start path environment) =
      Override.without path (overrides ⟨some start⟩ environment) := by
  unfold overrides Override.ofEnvironment unset Override.without
  dsimp only
  rw [List.filterMap_filter, List.filter_filterMap]
  congr 1
  funext ⟨name, content⟩
  dsimp only
  cases name.isEmpty with
  | true => simp
  | false =>
      cases found : Override.path? start name with
      | none => simp
      | some other => by_cases same : other = path <;> simp [same, Option.filter]

/-- What is merged, without what stands at a path and without the overrides of the path. -/
def withdrawn (path : List String) (merged : Merged) : Merged :=
  { merged with
    document := Fields.removed path merged.document
    overrides := Override.without path merged.overrides }

/-! ### Alignment -/

theorem elsewhere_foldl_align {overrides : List Override} {first second : Fields}
    (elsewhere : Fields.Elsewhere path first second) (ordered : first.Ordered)
    (otherOrdered : second.Ordered) :
    Fields.Elsewhere path
      ((Override.without path overrides).foldl
        (fun document override => Key.align override.path document) first)
      (overrides.foldl (fun document override => Key.align override.path document) second) := by
  induction overrides generalizing first second with
  | nil => exact elsewhere
  | cons override rest inductionHypothesis =>
      by_cases here : override.path = path
      · rw [Override.without_cons_of_eq here]
        -- Only the second document is aligned along the path.
        subst here
        exact inductionHypothesis (elsewhere.align_path otherOrdered) ordered
          (Key.ordered_align otherOrdered override.path)
      · rw [Override.without_cons_of_ne here]
        exact inductionHypothesis (elsewhere.align ordered otherOrdered override.path)
          (Key.ordered_align ordered _) (Key.ordered_align otherOrdered _)

theorem atPath?_foldl_align_eq_none {overrides : List Override} {fields : Fields}
    (pathLower : ∀ name ∈ path, Key.IsLower name)
    (lower : ∀ override ∈ overrides, ∀ name ∈ override.path, Key.IsLower name)
    (ordered : fields.Ordered) (absent : (Value.mapping fields).atPath? path = none) :
    (Value.mapping (overrides.foldl
      (fun document override => Key.align override.path document) fields)).atPath? path = none := by
  induction overrides generalizing fields with
  | nil => exact absent
  | cons override rest inductionHypothesis =>
      obtain ⟨overrideLower, restLower⟩ := List.forall_mem_cons.mp lower
      exact inductionHypothesis restLower (Key.ordered_align ordered override.path)
        (Fields.atPath?_align_eq_none ordered pathLower overrideLower absent)

/-- A difference at the path of an override stays there when all overrides are aligned. -/
theorem grown_aligned (merges : (loader.merge world sources).outcome = .ok merged)
    (listed : override ∈ merged.overrides) :
    Grown override.path (aligned (withdrawn override.path merged)) (aligned merged) := by
  have final := final_of_outcome_merge merges
  have alignedFinal := final_aligned merges
  obtain ⟨layers, visits, rfl⟩ := (outcome_merge_eq_ok_iff _ _ _ _).mp merges
  obtain ⟨nonempty, lower⟩ := Override.lower_of_mem_overrides listed
  have removedOrdered := Fields.ordered_removed final.ordered override.path
  exact {
    lower := lower
    elsewhere := elsewhere_foldl_align (Fields.elsewhere_removed final.ordered override.path)
      removedOrdered final.ordered
    absent := atPath?_foldl_align_eq_none lower
      (fun other kept => (Override.lower_of_mem_overrides (List.mem_filter.mp kept).1).2)
      removedOrdered (Fields.atPath?_removed final.ordered nonempty)
    ordered := ordered_foldl_align removedOrdered _
    otherOrdered := alignedFinal.ordered
    nonnull := alignedFinal.nonnull }

/-- Without what stands at the path of an unused override the same is loaded. -/
theorem outcome_settle_withdrawn (merges : (loader.merge world sources).outcome = .ok merged)
    (decodes : Config.ofDocument (aligned merged) = .ok decoded)
    (isUnused : override ∈ unused decoded merged.overrides) :
    (settle (withdrawn override.path merged)).outcome = (settle merged).outcome := by
  obtain ⟨listed, unresolved⟩ := List.mem_filter.mp isUnused
  rw [Bool.and_eq_true, Bool.not_eq_true', Bool.not_eq_true'] at unresolved
  have same := Config.ofDocument_of_grown (grown_aligned merges listed)
    (final_aligned merges).includesNone decodes unresolved.1 unresolved.2
  rw [outcome_settle, outcome_settle, settled, settled, same, decodes]
  rfl

/-- An override that is reported as unused is ignored as far as its value goes: without what stands
at its path the same is loaded.  The variable can be taken away altogether if its path is open for
the documents and for all other overrides, and there is room for its value without it. -/
theorem load_without_unused
    (loads : (load ⟨some start⟩ ⟨read, environment⟩ sources).outcome = .ok config)
    (warned : .unusedOverride override ∈
      (load ⟨some start⟩ ⟨read, environment⟩ sources).log) :
    ∃ merged others documents,
      (merge ⟨some start⟩ ⟨read, environment⟩ sources).outcome = .ok merged ∧
      (merge ⟨some start⟩ ⟨read, unset start override.path environment⟩ sources).outcome =
        .ok others ∧
      (merge ⟨none⟩ ⟨read, environment⟩ sources).outcome = .ok documents ∧
      (settle (withdrawn override.path merged)).outcome = .ok config ∧
      (Fields.Open override.path documents.document →
        (∀ other ∈ others.overrides,
          Fields.Open override.path (Fields.nested other.path other.value)) →
        Fields.Vacant override.path others.document →
        (load ⟨some start⟩ ⟨read, unset start override.path environment⟩ sources).outcome =
          .ok config) := by
  obtain ⟨merged, decoded, merges, decodes, isUnused⟩ := unusedOverride_mem_log_load_iff.mp warned
  have settles := outcome_settle_withdrawn merges decodes isUnused
  rw [← outcome_load_of_merge merges, loads] at settles
  obtain ⟨layers, visits, shape⟩ := (outcome_merge_eq_ok_iff _ _ _ _).mp merges
  have othersMerge : (merge ⟨some start⟩ ⟨read, unset start override.path environment⟩
      sources).outcome = .ok ⟨documentOf layers (Override.without override.path merged.overrides),
        layers.map Layer.name, Override.without override.path merged.overrides⟩ := by
    refine (outcome_merge_eq_ok_iff _ _ _ _).mpr ⟨layers, visits, ?_⟩
    rw [overrides_unset, shape]
  have documentsMerge : (merge ⟨none⟩ ⟨read, environment⟩ sources).outcome =
      .ok ⟨documentOf layers [], layers.map Layer.name, []⟩ :=
    (outcome_merge_eq_ok_iff _ _ _ _).mpr ⟨layers, visits, rfl⟩
  refine ⟨merged, _, _, merges, othersMerge, documentsMerge, settles, ?_⟩
  intro isOpen free vacant
  have overridesNonempty : ∀ other ∈ merged.overrides, other.path ≠ [] := by
    rw [shape]
    intro other listed
    exact (@Override.lower_of_mem_overrides ⟨some start⟩ environment other listed).1
  have same := documentOf_without visits.ordered overridesNonempty isOpen free vacant
  have isWithdrawn : withdrawn override.path merged =
      ⟨documentOf layers (Override.without override.path merged.overrides),
        layers.map Layer.name, Override.without override.path merged.overrides⟩ := by
    rw [same, shape]
    rfl
  rw [outcome_load_of_merge othersMerge, ← isWithdrawn, settles]

/-- What `small` and overrides are merged to. -/
def small.overridden (overrides : List Override) : Merged :=
  ⟨documentOf [⟨"small.yaml", small.document []⟩] overrides, ["small.yaml"], overrides⟩

theorem outcome_merge_small (loader : Loader) (environment : List (String × String)) :
    (loader.merge ⟨fun _ => .error .notFound, environment⟩ [small]).outcome =
      .ok (small.overridden (loader.overrides environment)) := by
  have reads : (Source.allLayers (fun _ => .error .notFound) [small]).outcome.toOption.any
      (fun layers => decide (layers.map Layer.name = ["small.yaml"] ∧
        layers.map Layer.document = [small.document []])) = true := by
    decide +kernel
  obtain ⟨layers, visits, facts⟩ := Traced.exists_eq_ok_of_any reads
  obtain ⟨names, documents⟩ := of_decide_eq_true facts
  refine (outcome_merge_eq_ok_iff _ _ _ _).mpr
    ⟨layers, (Source.outcome_allLayers_eq_ok_iff _ _).mp visits, ?_⟩
  rw [small.overridden, names, documentOf, documentOf, documents]
  rfl

section

variable {name content : String}
  (isOverride : overrides ⟨some "TRADING"⟩ [(name, content)] = [override])

include isOverride

theorem outcome_load_small :
    (load ⟨some "TRADING"⟩ (variableWorld name content) [small]).outcome =
      (settle (small.overridden [override])).outcome := by
  have merges := outcome_merge_small ⟨some "TRADING"⟩ [(name, content)]
  rw [isOverride] at merges
  exact outcome_load_of_merge merges

theorem unusedOverride_mem_log_load_small
    (leadsNowhere : (Config.ofDocument (aligned (small.overridden [override]))).toOption.any
      (fun decoded => decide (override ∈ unused decoded [override])) = true) :
    .unusedOverride override ∈
      (load ⟨some "TRADING"⟩ (variableWorld name content) [small]).log := by
  have merges := outcome_merge_small ⟨some "TRADING"⟩ [(name, content)]
  rw [isOverride] at merges
  obtain ⟨decoded, decodes, listed⟩ := Traced.exists_eq_ok_of_any leadsNowhere
  exact unusedOverride_mem_log_load_iff.mpr
    ⟨_, decoded, merges, decodes, of_decide_eq_true listed⟩

end

/-- A misspelled key leads to nothing, and without the variable for it the same is loaded. -/
theorem load_without_unused_misspelled :
    ∃ config, (load ⟨some "TRADING"⟩ (variableWorld "TRADING__EXCHANGE__NAEM" "kraken")
        [small]).outcome = .ok config ∧
      .unusedOverride ⟨["exchange", "naem"], "kraken"⟩ ∈ (load ⟨some "TRADING"⟩
        (variableWorld "TRADING__EXCHANGE__NAEM" "kraken") [small]).log ∧
      unset "TRADING" ["exchange", "naem"] [("TRADING__EXCHANGE__NAEM", "kraken")] = [] ∧
      (load ⟨some "TRADING"⟩ ⟨fun _ => .error .notFound,
        unset "TRADING" ["exchange", "naem"] [("TRADING__EXCHANGE__NAEM", "kraken")]⟩
          [small]).outcome = .ok config := by
  have isOverride : overrides ⟨some "TRADING"⟩ [("TRADING__EXCHANGE__NAEM", "kraken")] =
      [⟨["exchange", "naem"], "kraken"⟩] := by
    decide +kernel
  have empty : unset "TRADING" ["exchange", "naem"] [("TRADING__EXCHANGE__NAEM", "kraken")] =
      [] := by
    decide +kernel
  have settles : (settle (small.overridden [⟨["exchange", "naem"], "kraken"⟩])).Succeeds := by
    decide +kernel
  have document : documentOf [⟨"small.yaml", small.document []⟩] [] = small.document [] := by
    decide +kernel
  obtain ⟨config, loads⟩ := settles
  rw [← outcome_load_small isOverride] at loads
  have warned := unusedOverride_mem_log_load_small isOverride (by decide +kernel)
  refine ⟨config, loads, warned, empty, ?_⟩
  obtain ⟨_, others, documents, -, othersMerge, documentsMerge, -, ignored⟩ :=
    load_without_unused loads warned
  rw [empty, outcome_merge_small] at othersMerge
  rw [outcome_merge_small] at documentsMerge
  cases othersMerge
  cases documentsMerge
  refine ignored ?_ nofun ?_
  · change Fields.Open _ (documentOf [⟨"small.yaml", small.document []⟩] [])
    rw [document]
    exact fun _ => ⟨fun _ found => ⟨_, (Option.some.inj found).symm⟩,
      fun goesOn => absurd rfl goesOn⟩
  · change Fields.Vacant _ (documentOf [⟨"small.yaml", small.document []⟩] [])
    rw [document]
    exact ⟨_, rfl, rfl⟩

/-- A variable for an entry of a section that no document has is reported as unused, and the section
is there only with it. -/
theorem load_without_unused_differs :
    ∃ config other, (load ⟨some "TRADING"⟩ (variableWorld "TRADING__TELEGRAM__FOO" "1")
        [small]).outcome = .ok config ∧
      .unusedOverride ⟨["telegram", "foo"], "1"⟩ ∈ (load ⟨some "TRADING"⟩
        (variableWorld "TRADING__TELEGRAM__FOO" "1") [small]).log ∧
      unset "TRADING" ["telegram", "foo"] [("TRADING__TELEGRAM__FOO", "1")] = [] ∧
      (load ⟨some "TRADING"⟩ ⟨fun _ => .error .notFound, []⟩ [small]).outcome = .ok other ∧
      config.telegram.isSome = true ∧ other.telegram = none ∧ config.agrees other = false := by
  have isOverride : overrides ⟨some "TRADING"⟩ [("TRADING__TELEGRAM__FOO", "1")] =
      [⟨["telegram", "foo"], "1"⟩] := by
    decide +kernel
  have empty : unset "TRADING" ["telegram", "foo"] [("TRADING__TELEGRAM__FOO", "1")] = [] := by
    decide +kernel
  have settles : (settle (small.overridden
      [⟨["telegram", "foo"], "1"⟩])).outcome.toOption.any (fun config =>
        config.telegram.isSome) = true := by
    decide +kernel
  have otherSettles : (settle (small.overridden [])).outcome.toOption.any (fun config =>
      config.telegram.isNone) = true := by
    decide +kernel
  obtain ⟨config, loads, isSome⟩ := Traced.exists_eq_ok_of_any settles
  obtain ⟨other, otherLoads, isNone⟩ := Traced.exists_eq_ok_of_any otherSettles
  rw [← outcome_load_small isOverride] at loads
  have warned := unusedOverride_mem_log_load_small isOverride (by decide +kernel)
  have otherMerges := outcome_merge_small ⟨some "TRADING"⟩ []
  have absent := Option.isNone_iff_eq_none.mp isNone
  refine ⟨config, other, loads, warned, empty, (outcome_load_of_merge otherMerges).trans otherLoads,
    isSome, absent, ?_⟩
  obtain ⟨telegram, present⟩ := Option.isSome_iff_exists.mp isSome
  simp [Config.agrees, present, absent, Config.optionAgrees]

end Loader

end BotConfig
