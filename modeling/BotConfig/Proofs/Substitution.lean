import BotConfig.Proofs.Presentation
import BotConfig.Proofs.Respelling

/-!
A text in place of another one.

Where two texts of the strict format hold documents that are alike, so are the layers that are found
with one text in place of the other, and so are the documents that the layers are merged into.  If
the texts differ only in how free texts of a section are spelled, what is loaded is the same.
-/

namespace BotConfig

/-! ### Runs over lists -/

namespace Traced

variable {α β γ δ ε : Type} {seen : Log.Entry → Option ε}

theorem Matched.mapM {inputs : α → β → Prop} {results : γ → δ → Prop} {next : α → Traced γ}
    {otherNext : β → Traced δ} {firsts : List α} {seconds : List β}
    (related : List.Forall₂ inputs firsts seconds)
    (each : ∀ first second, inputs first second →
      Matched seen results (next first) (otherNext second)) :
    Matched seen (List.Forall₂ results) (firsts.mapM next) (seconds.mapM otherNext) := by
  induction related with
  | nil => exact .pure .nil
  | cons firstRelated _ inductionHypothesis =>
      rw [List.mapM_cons, List.mapM_cons]
      refine (each _ _ firstRelated).bind fun result other holds => ?_
      exact inductionHypothesis.bind fun results others allHold => .pure (.cons holds allHold)

/-- Computations whose reports are all seen and the same, with one outcome, are one. -/
theorem Matched.eq {first second : Traced α} (matched : Matched some Eq first second) :
    first = second := by
  rcases first with ⟨log, outcome⟩
  rcases second with ⟨otherLog, otherOutcome⟩
  obtain ⟨sameLog, outcomes⟩ := matched
  simp only [List.filterMap_some] at sameLog
  have sameOutcome : outcome = otherOutcome := outcomes.eq
  rw [sameLog, sameOutcome]

end Traced

theorem Matched.and_yields {ε α : Type} {matching : α → α → Prop} {property : α → Prop}
    {first second : Except ε α} (matched : Matched matching first second)
    (yields : Yields property first) (otherYields : Yields property second) :
    Matched (fun result other => property result ∧ property other ∧ matching result other) first
      second := by
  cases matched with
  | ok holds => exact .ok ⟨yields _ rfl, otherYields _ rfl, holds⟩
  | error error => exact .error error

/-! ### Layers -/

/-- Documents that are in order and alike. -/
structure OrderedAlike (may : String → Value → Value → Prop) (first second : Fields) : Prop where
  ordered : first.Ordered
  otherOrdered : second.Ordered
  alike : first.Alike may second

/-- Layers of one name with documents that are alike. -/
structure Layer.Alike (may : String → Value → Value → Prop) (first second : Layer) : Prop where
  name : first.name = second.name
  document : OrderedAlike may first.document second.document

namespace Source

variable {may : String → Value → Value → Prop} {plain text : String}

/-- In the strict format two texts hold documents that are alike, or have the same fault. -/
def Similar (may : String → Value → Value → Prop) (plain text : String) : Prop :=
  ∀ name, Document.Format.ofName name = .strict →
    Matched (Fields.Alike may) (Document.read name plain) (Document.read name text)

theorem Replaced.matched_document {world otherWorld : World} {source other : Source}
    (similar : Similar may plain text) (worlds : World.Replaced plain text world otherWorld)
    (replaced : Replaced plain text source other) :
    Matched (OrderedAlike may) (source.document world.read) (other.document otherWorld.read) := by
  have ordered (read : String → Except ReadFault String) (source : Source) :
      Yields Fields.Ordered (source.document read) := fun document reads =>
    (Fields.ordered_mapping_iff document).mp
      (holds_of_document Value.closed_ordered read source document reads)
  have alike : Matched (Fields.Alike may) (source.document world.read)
      (other.document otherWorld.read) := by
    have same (outcome : Except ConfigError Fields) :
        Matched (Fields.Alike may) outcome outcome := .refl (fun _ _ => .inl rfl) outcome
    cases replaced with
    | same source =>
        cases source with
        | inline name content => exact same _
        | file path =>
            obtain sameText | ⟨strict, reads, readsOther⟩ := worlds.read path
            · simp only [document, Source.text, sameText]
              exact same _
            · simp only [document, Source.text, reads, readsOther]
              exact (similar path strict).mapError _
    | inline strict => exact (similar _ strict).mapError _
  exact (alike.and_yields (ordered _ _) (ordered _ _)).mono
    fun _ _ both => ⟨both.1, both.2.1, both.2.2⟩

theorem matched_layers {world otherWorld : World} (similar : Similar may plain text)
    (spares : ∀ value other, ¬ may Config.includeKey value other)
    (worlds : World.Replaced plain text world otherWorld) (levels : Nat) {source other : Source}
    (replaced : Replaced plain text source other) :
    Traced.Matched some (List.Forall₂ (Layer.Alike may)) (layers world.read levels source)
      (layers otherWorld.read levels other) := by
  induction levels generalizing source other with
  | zero =>
      rw [layers, layers, replaced.name_eq]
      exact ⟨rfl, .error _⟩
  | succ levels inductionHypothesis =>
      rw [layers_succ, layers_succ, replaced.name_eq]
      refine (Traced.Matched.ofExcept (replaced.matched_document similar worlds)).bind
        fun document otherDocument documents => ?_
      have sameNames : included document = included otherDocument := by
        obtain same | ⟨value, other, _, _, differ⟩ := documents.alike Config.includeKey
        · rw [included, included, same]
        · exact absurd differ (spares value other)
      have below (names : List String) : Traced.Matched some
          (List.Forall₂ (List.Forall₂ (Layer.Alike may)))
          ((source.inner names).mapM (layers world.read levels))
          ((other.inner names).mapM (layers otherWorld.read levels)) := by
        rw [inner, inner, replaced.folder_eq]
        refine Traced.Matched.mapM (List.forall₂_same.mpr fun _ _ => rfl) ?_
        rintro included _ rfl
        exact inductionHypothesis (.same included)
      rw [sameNames]
      refine (Traced.Matched.refl (fun _ => rfl) _).bind fun _ _ (_ : _ = _) => ?_
      refine (Traced.Matched.refl (fun _ => rfl) _).bind fun names _ (same : names = _) => ?_
      subst same
      refine (below names).bind fun found others alike => .pure ?_
      exact List.rel_append (List.rel_flatten alike) (.cons ⟨rfl, documents⟩ .nil)

theorem matched_allLayers {world otherWorld : World} (similar : Similar may plain text)
    (spares : ∀ value other, ¬ may Config.includeKey value other)
    (worlds : World.Replaced plain text world otherWorld) {sources others : List Source}
    (replaced : List.Forall₂ (Replaced plain text) sources others) :
    Traced.Matched some (List.Forall₂ (Layer.Alike may)) (allLayers world.read sources)
      (allLayers otherWorld.read others) := by
  unfold allLayers
  refine (Traced.Matched.mapM replaced fun _ _ one =>
    matched_layers similar spares worlds _ one).bind fun found others alike => .pure ?_
  exact List.rel_flatten alike

end Source

/-! ### Merging -/

namespace Loader

variable {may : String → Value → Value → Prop} {plain text : String}

theorem documentOf_alike (layered : Fields.Layered may) {layers others : List Layer}
    (alike : List.Forall₂ (Layer.Alike may) layers others) (overrides : List Override) :
    OrderedAlike may (documentOf layers overrides) (documentOf others overrides) := by
  have documents : List.Forall₂ (Fields.Alike may) (layers.map Layer.document)
      (others.map Layer.document) := by
    rw [List.forall₂_map_left_iff, List.forall₂_map_right_iff]
    exact alike.imp fun _ _ layer => layer.document.alike
  have pairs : List.Forall₂ (fun layer other => layer.document.Ordered ∧
      Layer.Alike may layer other) layers others :=
    alike.imp fun _ _ pair => ⟨pair.document.ordered, pair⟩
  have otherPairs : List.Forall₂ (fun other layer => other.document.Ordered ∧
      Layer.Alike may layer other) others layers :=
    (alike.imp fun _ _ pair => And.intro pair.document.otherOrdered pair).flip
  have ordered := ((List.forall₂_and_left _ _).mp pairs).1
  have otherOrdered := ((List.forall₂_and_left _ _).mp otherPairs).1
  have same (layers : List Fields) : List.Forall₂ (Fields.Alike may) layers layers :=
    List.forall₂_same.mpr fun _ _ _ => .inl rfl
  have empty : Fields.Alike may [] [] := fun _ => .inl rfl
  have laid : Fields.Alike may (laid layers overrides) (laid others overrides) :=
    (empty.foldl_overlay layered documents (List.forall_mem_map.mpr ordered)
      (List.forall_mem_map.mpr otherOrdered)).foldl_overlay layered (same _)
        (Override.ordered_layers overrides) (Override.ordered_layers overrides)
  have laidOrdered := ordered_laid ordered overrides
  have otherLaidOrdered := ordered_laid otherOrdered overrides
  exact ⟨ordered_documentOf ordered overrides, ordered_documentOf otherOrdered overrides,
    (laid.erase laidOrdered.ascending otherLaidOrdered.ascending _).pruned layered
      (laidOrdered.erase _) (otherLaidOrdered.erase _)⟩

/-- What is merged is the same, but for documents that are alike. -/
structure MergedAlike (may : String → Value → Value → Prop) (loader : Loader) (world : World)
    (first second : Merged) : Prop where
  files : first.files = second.files
  overrides : first.overrides = loader.overrides world.environment
  otherOverrides : second.overrides = loader.overrides world.environment
  document : OrderedAlike may first.document second.document

theorem matched_merge (layered : Fields.Layered may)
    (spares : ∀ value other, ¬ may Config.includeKey value other)
    (similar : Source.Similar may plain text) {world otherWorld : World}
    (worlds : World.Replaced plain text world otherWorld) {sources others : List Source}
    (replaced : List.Forall₂ (Source.Replaced plain text) sources others) (loader : Loader) :
    Traced.Matched some (MergedAlike may loader world) (loader.merge world sources)
      (loader.merge otherWorld others) := by
  have empty : sources.isEmpty = others.isEmpty := by
    cases replaced <;> rfl
  have merges : Traced.Matched some (MergedAlike may loader world)
      (do
        let layers ← Source.allLayers world.read sources
        let overrides := loader.overrides world.environment
        Traced.reportAll (overrides.map .overridden)
        return ⟨documentOf layers overrides, layers.map Layer.name, overrides⟩)
      (do
        let layers ← Source.allLayers otherWorld.read others
        let overrides := loader.overrides world.environment
        Traced.reportAll (overrides.map .overridden)
        return ⟨documentOf layers overrides, layers.map Layer.name, overrides⟩) := by
    refine (Source.matched_allLayers similar spares worlds replaced).bind
      fun layers others alike => ?_
    refine (Traced.Matched.refl (fun _ => rfl) _).bind fun _ _ (_ : _ = _) => .pure ?_
    have names : layers.map Layer.name = others.map Layer.name := by
      rw [← List.forall₂_eq_eq_eq, List.forall₂_map_left_iff, List.forall₂_map_right_iff]
      exact alike.imp fun _ _ layer => layer.name
    exact ⟨names, rfl, rfl, documentOf_alike layered alike _⟩
  unfold merge
  rw [worlds.environment, empty]
  split
  · exact (Traced.Matched.refl (fun _ => rfl) _).bind fun _ _ (_ : _ = _) => merges
  · exact merges

/-- Documents that are alike inside one section stay so when they are aligned, where no override is
one of the section as a whole. -/
theorem aligned_alike {outer : String} (steady : Fields.Steady may) {first second : Merged}
    (lower : ∀ path ∈ first.overrides.map Override.path, ∀ name ∈ path, Key.IsLower name)
    (stays : ∀ path ∈ first.overrides.map Override.path, path ≠ [outer])
    (same : first.overrides = second.overrides)
    (documents : OrderedAlike (Fields.Within outer may) first.document second.document) :
    OrderedAlike (Fields.Within outer may) (aligned first) (aligned second) := by
  refine ⟨ordered_aligned documents.ordered, ordered_aligned documents.otherOrdered, ?_⟩
  refine aligned_induction (fun allowed ordered otherOrdered alike => ?_)
    (fun path listed => And.intro (lower path listed) (stays path listed)) (by rw [same])
    documents.ordered documents.otherOrdered documents.alike
  exact alike.align_within steady ordered otherOrdered allowed.1 allowed.2

/-- How free texts of a section are spelled makes no difference to what is loaded, where no override
is one of the section as a whole. -/
theorem load_respelled {outer : String} (hasTexts : outer ∈ Config.textSections)
    (similar : Source.Similar (Fields.Within outer (Respells outer)) plain text)
    {world otherWorld : World} (worlds : World.Replaced plain text world otherWorld)
    {sources others : List Source}
    (replaced : List.Forall₂ (Source.Replaced plain text) sources others) {loader : Loader}
    (stays : ∀ override ∈ loader.overrides world.environment, override.path ≠ [outer]) :
    loader.load world sources = loader.load otherWorld others := by
  have spares : ∀ value other,
      ¬ Fields.Within outer (Respells outer) Config.includeKey value other := by
    rintro _ _ ⟨rfl, _⟩
    exact absurd hasTexts (by decide)
  refine Traced.Matched.eq ((matched_merge (layered_respells outer).within spares similar worlds
    replaced loader).bind fun first second merged => ?_)
  have paths {holds : List String → Prop}
      (each : ∀ override ∈ loader.overrides world.environment, holds override.path) :
      ∀ path ∈ first.overrides.map Override.path, holds path := by
    rw [merged.overrides]
    exact List.forall_mem_map.mpr each
  have alike := aligned_alike (steady_respells outer)
    (paths fun _ listed => (Override.lower_of_mem_overrides listed).2) (paths stays)
    (merged.overrides.trans merged.otherOverrides.symm) merged.document
  have sameConfig : Config.ofDocument (aligned first) = Config.ofDocument (aligned second) :=
    Config.ofDocument_respelled hasTexts alike.alike alike.ordered.ascending
      alike.otherOrdered.ascending
  rw [settle, settle, sameConfig, merged.files, merged.overrides, merged.otherOverrides]
  exact .refl (fun _ => rfl) _

end Loader

end BotConfig
