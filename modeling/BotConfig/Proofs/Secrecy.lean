import BotConfig.Proofs.Credentials
import BotConfig.Proofs.Exposure

/-!
Secrets while a configuration is loaded.

Loading two documents that differ only in secrets goes the same way and shows the same.  The
redacted configurations are the same exactly when alignment has left every secret that differs
where it is masked.
-/

namespace BotConfig

/-! ### What layers report -/

namespace Traced

variable {α β : Type}

/-- A computation of whose reports none is shown. -/
def Silent (computation : Traced α) : Prop :=
  computation.log.filterMap Log.Entry.shown? = []

theorem log_bind (first : Traced α) (next : α → Traced β) :
    (first >>= next).log =
      first.log ++ (first.outcome.toOption.map fun result => (next result).log).getD [] := by
  change (Traced.bind first next).log = _
  rcases first with ⟨log, error | result⟩
  · exact (List.append_nil log).symm
  · rfl

theorem Silent.bind {first : Traced α} {next : α → Traced β} (silent : first.Silent)
    (nextSilent : ∀ result, (next result).Silent) : (first >>= next).Silent := by
  rw [Silent, log_bind, List.filterMap_append, silent, List.nil_append]
  cases first.outcome with
  | error error => rfl
  | ok result => exact nextSilent result

theorem Silent.mapM {next : α → Traced β} {inputs : List α}
    (silent : ∀ input ∈ inputs, (next input).Silent) : (inputs.mapM next).Silent := by
  induction inputs with
  | nil => rfl
  | cons input rest inductionHypothesis =>
      obtain ⟨inputSilent, restSilent⟩ := List.forall_mem_cons.mp silent
      rw [List.mapM_cons]
      exact inputSilent.bind fun _ => (inductionHypothesis restSilent).bind fun _ => rfl

end Traced

namespace Source

variable {read : String → Except ReadFault String}

theorem silent_layers (levels : Nat) (source : Source) : (layers read levels source).Silent := by
  induction levels generalizing source with
  | zero => rfl
  | succ levels inductionHypothesis =>
      rw [layers_succ]
      have ofExcept {α : Type} (outcome : Except ConfigError α) :
          (Traced.ofExcept outcome).Silent := rfl
      refine (ofExcept _).bind fun document => ?_
      have loaded : (Traced.report (.documentLoaded source.name
          (maxIncludeDepth - levels))).Silent := rfl
      refine loaded.bind fun _ => (ofExcept _).bind fun names => ?_
      exact (Traced.Silent.mapM fun input _ => inductionHypothesis input).bind fun _ => rfl

theorem silent_allLayers (sources : List Source) : (allLayers read sources).Silent :=
  (Traced.Silent.mapM fun source _ => silent_layers _ source).bind fun _ => rfl

theorem VisitsAll.eq_nil_iff {levels : Nat} {sources : List Source} {found : List Layer}
    (visits : VisitsAll read levels sources found) : sources = [] ↔ found = [] := by
  cases visits with
  | nil => simp
  | cons firstVisits othersVisit =>
      cases firstVisits
      simp

end Source

namespace Loader

variable {loader otherLoader : Loader} {world otherWorld : World}
  {sources otherSources : List Source} {first second : Merged}

/-- What merging shows. -/
def shownOfMerge (isEmpty : Bool) (paths : List (List String)) :
    List (Log.Level × Log.Origin × String × List (String × Log.Detail)) :=
  (if isEmpty then [(.warn, .loading, Log.Entry.noSources.message, [])] else []) ++
    paths.map fun path => (.info, .loading, "Config value overridden from environment",
      [("field", .bare (String.intercalate "." path))])

theorem filterMap_shown_merge {merged : Merged}
    (merges : (loader.merge world sources).outcome = .ok merged) :
    (loader.merge world sources).log.filterMap Log.Entry.shown? =
      shownOfMerge merged.files.isEmpty (merged.overrides.map Override.path) := by
  obtain ⟨layers, visits, rfl⟩ := (outcome_merge_eq_ok_iff _ _ _ _).mp merges
  have layered := (Source.outcome_allLayers_eq_ok_iff sources layers).mpr visits
  have overridden (overrides : List Override) :
      (overrides.map Log.Entry.overridden).filterMap Log.Entry.shown? =
        (overrides.map Override.path).map fun path =>
          (.info, .loading, "Config value overridden from environment",
            [("field", .bare (String.intercalate "." path))]) := by
    have shown : Log.Entry.shown? ∘ Log.Entry.overridden = fun override =>
        some (.info, .loading, "Config value overridden from environment",
          [("field", .bare (String.intercalate "." override.path))]) := rfl
    rw [List.filterMap_map, shown, List.filterMap_eq_map', List.map_map]
    rfl
  have sameEmpty : sources.isEmpty = (layers.map Layer.name).isEmpty := by
    rw [Bool.eq_iff_iff, List.isEmpty_iff, List.isEmpty_iff, List.map_eq_nil_iff]
    exact visits.eq_nil_iff
  have rest : ((do
      let layers ← Source.allLayers world.read sources
      let overrides := loader.overrides world.environment
      Traced.reportAll (overrides.map .overridden)
      return ⟨documentOf layers overrides, layers.map Layer.name, overrides⟩ :
        Traced Merged)).log.filterMap Log.Entry.shown? =
      shownOfMerge false ((loader.overrides world.environment).map Override.path) := by
    rw [Traced.log_bind, List.filterMap_append, Source.silent_allLayers, layered]
    simp only [Except.toOption, Option.map_some, Option.getD_some, Traced.log_bind,
      List.filterMap_append, shownOfMerge]
    exact congrArg (· ++ []) (overridden _) |>.trans (List.append_nil _)
  rw [← sameEmpty]
  unfold merge
  dsimp only
  cases sources.isEmpty with
  | true =>
      rw [if_pos rfl, Traced.log_bind, List.filterMap_append]
      exact congrArg _ rest
  | false => exact rest

/-! ### Checking -/

theorem matched_forgetCredentials {document other : Fields} {config otherConfig : Config}
    (alike : Config.ShownAlike document other config otherConfig) :
    Traced.Matched Log.Entry.shown? (Config.ShownAlike document other) (forgetCredentials config)
      (forgetCredentials otherConfig) := by
  have forgets := Config.view_eq_of_cloaked alike.cloaked
    (fun config => config.dryRun && config.exchange.holdsCredential) fun config => by
      exact congrArg (config.dryRun && ·) (Config.holdsCredential_veiled config.exchange)
  unfold forgetCredentials
  rw [← forgets]
  split
  · refine (Traced.Matched.reportAll rfl).bind fun _ _ _ =>
      .pure ⟨?_, alike.extra, alike.otherExtra⟩
    exact congrArg (fun config : Config =>
      { config with exchange := config.exchange.withoutCredentials }) alike.cloaked
  · exact .pure alike

theorem matched_settle_of_concealing {secrets : List (String × String)}
    (given : Config.Concealing secrets (aligned first) (aligned second))
    (known : secrets ⊆ Config.documentSecrets) (ordered : (aligned first).Ordered)
    (otherOrdered : (aligned second).Ordered) (sameFiles : first.files = second.files)
    (samePaths : first.overrides.map Override.path = second.overrides.map Override.path) :
    Traced.Matched Log.Entry.shown? (Config.ShownAlike (aligned first) (aligned second))
      (settle first) (settle second) := by
  unfold settle
  refine (Traced.Matched.ofExcept (Config.matched_ofDocument_shownAlike given known ordered
    otherOrdered)).bind fun config other alike => ?_
  have unrecognized := Config.view_eq_of_cloaked alike.cloaked Config.unrecognized fun _ => rfl
  rw [← unrecognized]
  refine (Traced.Matched.reportAll rfl).bind fun _ _ _ => ?_
  refine (Traced.Matched.reportAll (shown_unused_eq alike.cloaked samePaths)).bind fun _ _ _ => ?_
  have consistent : Traced.Matched Log.Entry.shown?
      (Config.ShownAlike (aligned first) (aligned second)) config.consistent other.consistent := by
    refine Config.matched_consistent_of_cloaked alike.cloaked fun kept => ?_
    refine ⟨?_, alike.extra, alike.otherExtra⟩
    exact congrArg (fun config : Config =>
      { config with exchange := { config.exchange with whitelist := kept } }) alike.cloaked
  refine consistent.bind fun narrowed otherNarrowed narrowedAlike => ?_
  refine (matched_forgetCredentials narrowedAlike).bind fun forgotten otherForgotten same => ?_
  rw [sameFiles]
  refine ⟨rfl, .ok ⟨?_, same.extra, same.otherExtra⟩⟩
  exact congrArg (fun config : Config => { config with files := second.files }) same.cloaked

/-! ### Loading -/

variable {secrets : List (String × String)} {secret : String × String}

theorem concealing_aligned (known : secrets ⊆ Config.documentSecrets)
    (same : first.document.Alike (Differ fun part key => (part, key) ∈ secrets) second.document)
    (ordered : first.document.Ordered) (otherOrdered : second.document.Ordered)
    (lower : ∀ path ∈ first.overrides.map Override.path, ∀ name ∈ path, Key.IsLower name)
    (samePaths : first.overrides.map Override.path = second.overrides.map Override.path) :
    Config.Concealing secrets (aligned first) (aligned second) :=
  aligned_induction (fun pathLower ordered otherOrdered given =>
    given.align known pathLower ordered otherOrdered) lower samePaths ordered otherOrdered
    (Config.concealing_of_alike known same ordered otherOrdered)

theorem exposed_aligned (known : secret ∈ Config.documentSecrets)
    (same : Config.SameButSecrets first.document second.document)
    (differs : (Value.mapping first.document).atPath? [secret.1, secret.2] ≠
      (Value.mapping second.document).atPath? [secret.1, secret.2])
    (ordered : first.document.Ordered) (otherOrdered : second.document.Ordered)
    (lower : ∀ path ∈ first.overrides.map Override.path, ∀ name ∈ path, Key.IsLower name)
    (samePaths : first.overrides.map Override.path = second.overrides.map Override.path) :
    Config.Exposed secret (aligned first) (aligned second) := by
  have secretLower := Config.isLower_of_mem_documentSecrets secret known
  let holds (first second : Fields) : Prop :=
    first.Alike (fun _ _ _ => True) second ∧ Config.Exposed secret first second
  have initial : holds first.document second.document :=
    ⟨same.mono fun _ _ _ _ => trivial, Config.exposed_of_sameButSecrets same differs⟩
  have kept : holds (aligned first) (aligned second) := by
    refine aligned_induction ?_ lower samePaths ordered otherOrdered initial
    rintro path first second pathLower ordered otherOrdered ⟨alike, exposed⟩
    exact ⟨alike.align Fields.steady_true ordered otherOrdered pathLower,
      exposed.align secretLower alike ordered otherOrdered pathLower⟩
  exact kept.2

/-- The secrets of two documents that differ. -/
def differing (first second : Fields) : List (String × String) :=
  Config.documentSecrets.filter fun secret =>
    (Value.mapping first).atPath? [secret.1, secret.2] ≠
      (Value.mapping second).atPath? [secret.1, secret.2]

theorem mem_differing_iff (first second : Fields) :
    secret ∈ differing first second ↔ secret ∈ Config.documentSecrets ∧
      (Value.mapping first).atPath? [secret.1, secret.2] ≠
        (Value.mapping second).atPath? [secret.1, secret.2] := by
  rw [differing, List.mem_filter, decide_eq_true_iff]

theorem alike_differing {first second : Fields} (same : Config.SameButSecrets first second) :
    first.Alike (Differ fun part key => (part, key) ∈ differing first second) second := by
  intro part
  obtain sameThere | ⟨_, _, found, otherFound, inside, otherInside, rfl, rfl, alike⟩ := same part
  · exact .inl sameThere
  · refine .inr ⟨_, _, found, otherFound, inside, otherInside, rfl, rfl, ?_⟩
    intro key
    by_cases sameInside : Fields.get? key inside = Fields.get? key otherInside
    · exact .inl sameInside
    · obtain equal | ⟨value, other, valueFound, otherValueFound, listed, filled⟩ := alike key
      · exact absurd equal sameInside
      · refine .inr ⟨value, other, valueFound, otherValueFound, ?_, filled⟩
        refine (mem_differing_iff first second).mpr ⟨listed, fun equal => ?_⟩
        simp only [Value.atPath?_cons, Value.entries, found, otherFound, Option.bind_some,
          valueFound, otherValueFound, Value.atPath?_nil] at equal
        exact sameInside (valueFound.trans (equal.trans otherValueFound.symm))

/-- Loading two documents that differ only in secrets, each set in both, ends with the same error
or with two configurations, and shows the same.  The redacted configurations are the same exactly
when every secret that differs is still where it is masked. -/
theorem load_hides_secrets
    (merges : (loader.merge world sources).outcome = .ok first)
    (otherMerges : (otherLoader.merge otherWorld otherSources).outcome = .ok second)
    (sameFiles : first.files = second.files)
    (samePaths : first.overrides.map Override.path = second.overrides.map Override.path)
    (same : Config.SameButSecrets first.document second.document) :
    (loader.load world sources).log.filterMap Log.Entry.shown? =
        (otherLoader.load otherWorld otherSources).log.filterMap Log.Entry.shown? ∧
    ((∃ error, (loader.load world sources).outcome = .error error ∧
        (otherLoader.load otherWorld otherSources).outcome = .error error) ∨
      ∃ config other, (loader.load world sources).outcome = .ok config ∧
        (otherLoader.load otherWorld otherSources).outcome = .ok other ∧
        (config.redacted = other.redacted ↔ ∀ secret ∈ Config.documentSecrets,
          (Value.mapping first.document).atPath? [secret.1, secret.2] ≠
              (Value.mapping second.document).atPath? [secret.1, secret.2] →
            Config.Stays (aligned first) secret)) := by
  have ordered := ordered_of_outcome_merge merges
  have otherOrdered := ordered_of_outcome_merge otherMerges
  have lower := lower_of_outcome_merge merges
  have known : differing first.document second.document ⊆ Config.documentSecrets :=
    List.filter_subset_self _
  have given := concealing_aligned known (alike_differing same) ordered otherOrdered lower samePaths
  have alignedOrdered := ordered_aligned ordered
  have otherAlignedOrdered := ordered_aligned otherOrdered
  have settles := matched_settle_of_concealing given known alignedOrdered otherAlignedOrdered
    sameFiles samePaths
  have merging : Traced.Matched Log.Entry.shown?
      (fun merged other => merged = first ∧ other = second)
      (loader.merge world sources) (otherLoader.merge otherWorld otherSources) := by
    refine ⟨?_, ?_⟩
    · rw [filterMap_shown_merge merges, filterMap_shown_merge otherMerges, sameFiles, samePaths]
    · rw [merges, otherMerges]
      exact .ok ⟨rfl, rfl⟩
  have loads : Traced.Matched Log.Entry.shown?
      (Config.ShownAlike (aligned first) (aligned second)) (loader.load world sources)
        (otherLoader.load otherWorld otherSources) := by
    refine merging.bind ?_
    rintro _ _ ⟨rfl, rfl⟩
    exact settles
  refine ⟨loads.log, ?_⟩
  have outcomes := loads.outcome
  generalize (loader.load world sources).outcome = outcome,
    (otherLoader.load otherWorld otherSources).outcome = otherOutcome at outcomes
  cases outcomes with
  | error error => exact .inl ⟨error, rfl, rfl⟩
  | @ok config other alike =>
      refine .inr ⟨config, other, rfl, rfl, ?_, ?_⟩
      · intro redacted secret listed differs
        by_contra moved
        exact alike.redacted_ne
          (exposed_aligned listed same differs ordered otherOrdered lower samePaths) listed moved
          redacted
      · intro stay
        refine alike.redacted_eq (given.maskedExtra_eq known alignedOrdered otherAlignedOrdered ?_)
        intro secret membership
        obtain ⟨listed, differs⟩ := (mem_differing_iff _ _).mp membership
        exact stay secret listed differs

/-- The document of `small` with an entry of the section for notices. -/
def small.notified (entry : String) : Source :=
  .inline "small.yaml" ("max_open_trades: 3\nstake_currency: USDT\n" ++
    "exchange:\n  name: kraken\n  pair_whitelist: [BTC/USDT]\nwebhook:\n  " ++ entry)

/-- What `small` holds, with a section for notices. -/
def small.notifying (inside : Fields) : Fields :=
  small.document [] ++ [("webhook", .mapping inside)]

theorem sameButSecrets_notifying {rest : Fields} (absent : Fields.get? "url" rest = none)
    {url other : String} (filled : url ≠ "") (otherFilled : other ≠ "") :
    Config.SameButSecrets (small.notifying (rest ++ [("url", .text url)]))
      (small.notifying (rest ++ [("url", .text other)])) := by
  intro part
  simp only [small.notifying, Fields.get?_append]
  by_cases here : part = "webhook"
  · subst here
    refine .inr ⟨_, _, rfl, rfl, _, _, rfl, rfl, ?_⟩
    intro key
    simp only [Fields.get?_append]
    by_cases isUrl : key = "url"
    · subst isUrl
      rw [absent]
      exact .inr ⟨_, _, rfl, rfl, by decide, .text filled, .text otherFilled⟩
    · left
      rw [Fields.get?_cons, Fields.get?_cons, if_neg (Ne.symm isUrl), if_neg (Ne.symm isUrl)]
  · left
    rw [Fields.get?_cons, Fields.get?_cons, if_neg (Ne.symm here), if_neg (Ne.symm here)]

/-- Laying a variable for the address over a document that has been read. -/
theorem outcome_merge_notified {entry content : String} {inside expected : Fields}
    (reads : (Source.allLayers (fun _ => .error .notFound)
      [small.notified entry]).outcome.toOption.any (fun layers => decide (
        layers.map Layer.name = ["small.yaml"] ∧
        layers.map Layer.document = [small.notifying inside])) = true)
    (overrides : Override.ofEnvironment "TRADING" [("TRADING__WEBHOOK__URL", content)] =
      [⟨["webhook", "url"], content⟩])
    (lays : Value.prunedFields (Fields.erase Config.includeKey
      ((Override.layers [⟨["webhook", "url"], content⟩]).foldl Fields.overlay
        (Fields.overlayAll [small.notifying inside]))) = small.notifying expected) :
    (merge ⟨some "TRADING"⟩ (variableWorld "TRADING__WEBHOOK__URL" content)
      [small.notified entry]).outcome =
        .ok ⟨small.notifying expected, ["small.yaml"], [⟨["webhook", "url"], content⟩]⟩ := by
  obtain ⟨layers, found, facts⟩ := Traced.exists_eq_ok_of_any reads
  obtain ⟨names, documents⟩ := of_decide_eq_true facts
  rw [outcome_merge_eq_ok_iff]
  refine ⟨layers, (Source.outcome_allLayers_eq_ok_iff _ _).mp found, ?_⟩
  have found : Loader.overrides ⟨some "TRADING"⟩
      (variableWorld "TRADING__WEBHOOK__URL" content).environment =
        [⟨["webhook", "url"], content⟩] := overrides
  rw [found, names, documentOf, documents, lays]

/-- The addresses for notices differ, and the redacted configurations are the same. -/
theorem load_hides_secrets_small :
    ∃ first second config other,
      (merge ⟨some "TRADING"⟩ (variableWorld "TRADING__WEBHOOK__URL" "y")
        [small.notified "url: x"]).outcome = .ok first ∧
      (merge ⟨some "TRADING"⟩ (variableWorld "TRADING__WEBHOOK__URL" "z")
        [small.notified "url: x"]).outcome = .ok second ∧
      first.files = second.files ∧
      first.overrides.map Override.path = second.overrides.map Override.path ∧
      Config.SameButSecrets first.document second.document ∧
      (load ⟨some "TRADING"⟩ (variableWorld "TRADING__WEBHOOK__URL" "y")
        [small.notified "url: x"]).outcome = .ok config ∧
      (load ⟨some "TRADING"⟩ (variableWorld "TRADING__WEBHOOK__URL" "z")
        [small.notified "url: x"]).outcome = .ok other ∧
      config.redacted = other.redacted := by
  have reads : (Source.allLayers (fun _ => .error .notFound)
      [small.notified "url: x"]).outcome.toOption.any (fun layers => decide (
        layers.map Layer.name = ["small.yaml"] ∧
        layers.map Layer.document = [small.notifying [("url", .text "x")]])) = true := by
    decide +kernel
  have merges : (merge ⟨some "TRADING"⟩ (variableWorld "TRADING__WEBHOOK__URL" "y")
      [small.notified "url: x"]).outcome = .ok ⟨small.notifying ([] ++ [("url", .text "y")]),
        ["small.yaml"], [⟨["webhook", "url"], "y"⟩]⟩ :=
    outcome_merge_notified reads (by decide +kernel) (by decide +kernel)
  have otherMerges : (merge ⟨some "TRADING"⟩ (variableWorld "TRADING__WEBHOOK__URL" "z")
      [small.notified "url: x"]).outcome = .ok ⟨small.notifying ([] ++ [("url", .text "z")]),
        ["small.yaml"], [⟨["webhook", "url"], "z"⟩]⟩ :=
    outcome_merge_notified reads (by decide +kernel) (by decide +kernel)
  have same : Config.SameButSecrets (small.notifying ([] ++ [("url", .text "y")]))
      (small.notifying ([] ++ [("url", .text "z")])) :=
    sameButSecrets_notifying rfl (by decide) (by decide)
  have succeeds : (load ⟨some "TRADING"⟩ (variableWorld "TRADING__WEBHOOK__URL" "y")
      [small.notified "url: x"]).Succeeds := by
    rw [Traced.Succeeds, outcome_load_of_merge merges]
    change (settle _).Succeeds
    decide +kernel
  obtain ⟨-, ⟨error, fails, -⟩ | ⟨config, other, loads, otherLoads, redacted⟩⟩ :=
    load_hides_secrets merges otherMerges rfl rfl same
  · obtain ⟨config, loads⟩ := succeeds
    cases loads.symm.trans fails
  · refine ⟨_, _, config, other, merges, otherMerges, rfl, rfl, same, loads, otherLoads,
      redacted.mpr ?_⟩
    unfold Config.Stays
    decide +kernel

/-- Where the document spells the key of the address with capitals, a variable for the address can
be read in the redacted configuration. -/
theorem load_shows_moved_secret :
    ∃ first second config other,
      (merge ⟨some "TRADING"⟩ (variableWorld "TRADING__WEBHOOK__URL" "y")
        [small.notified "URL: x"]).outcome = .ok first ∧
      (merge ⟨some "TRADING"⟩ (variableWorld "TRADING__WEBHOOK__URL" "z")
        [small.notified "URL: x"]).outcome = .ok second ∧
      first.files = second.files ∧
      first.overrides.map Override.path = second.overrides.map Override.path ∧
      Config.SameButSecrets first.document second.document ∧
      (load ⟨some "TRADING"⟩ (variableWorld "TRADING__WEBHOOK__URL" "y")
        [small.notified "URL: x"]).outcome = .ok config ∧
      (load ⟨some "TRADING"⟩ (variableWorld "TRADING__WEBHOOK__URL" "z")
        [small.notified "URL: x"]).outcome = .ok other ∧
      config.redacted ≠ other.redacted := by
  have reads : (Source.allLayers (fun _ => .error .notFound)
      [small.notified "URL: x"]).outcome.toOption.any (fun layers => decide (
        layers.map Layer.name = ["small.yaml"] ∧
        layers.map Layer.document = [small.notifying [("URL", .text "x")]])) = true := by
    decide +kernel
  have merges : (merge ⟨some "TRADING"⟩ (variableWorld "TRADING__WEBHOOK__URL" "y")
      [small.notified "URL: x"]).outcome =
        .ok ⟨small.notifying ([("URL", .text "x")] ++ [("url", .text "y")]),
          ["small.yaml"], [⟨["webhook", "url"], "y"⟩]⟩ :=
    outcome_merge_notified reads (by decide +kernel) (by decide +kernel)
  have otherMerges : (merge ⟨some "TRADING"⟩ (variableWorld "TRADING__WEBHOOK__URL" "z")
      [small.notified "URL: x"]).outcome =
        .ok ⟨small.notifying ([("URL", .text "x")] ++ [("url", .text "z")]),
          ["small.yaml"], [⟨["webhook", "url"], "z"⟩]⟩ :=
    outcome_merge_notified reads (by decide +kernel) (by decide +kernel)
  have settles : (settle ⟨small.notifying ([("URL", .text "x")] ++ [("url", .text "y")]),
      ["small.yaml"], [⟨["webhook", "url"], "y"⟩]⟩).outcome.toOption.any (fun config => decide (
        config.redacted.atPath? ["extra", "webhook", "URL"] = some (.text "y"))) = true := by
    decide +kernel
  have otherSettles : (settle ⟨small.notifying ([("URL", .text "x")] ++ [("url", .text "z")]),
      ["small.yaml"], [⟨["webhook", "url"], "z"⟩]⟩).outcome.toOption.any (fun config => decide (
        config.redacted.atPath? ["extra", "webhook", "URL"] = some (.text "z"))) = true := by
    decide +kernel
  obtain ⟨config, loads, reads⟩ := Traced.exists_eq_ok_of_any settles
  obtain ⟨other, otherLoads, otherReads⟩ := Traced.exists_eq_ok_of_any otherSettles
  rw [← outcome_load_of_merge merges] at loads
  rw [← outcome_load_of_merge otherMerges] at otherLoads
  refine ⟨_, _, config, other, merges, otherMerges, rfl, rfl,
    sameButSecrets_notifying rfl (by decide) (by decide), loads, otherLoads, ?_⟩
  intro same
  have content := of_decide_eq_true reads
  rw [same, of_decide_eq_true otherReads] at content
  exact absurd content (by decide)

end Loader

end BotConfig
