import BotConfig.Proofs.Merging

/-!
Layers that are laid twice.

Laying layers over each other is not associative, and a later layer may take away what an earlier
one has brought.  Still the same layers laid a second time change nothing: at each key either one of
them replaces all that came before, or they are mappings, and the same is true of their parts.
-/

namespace BotConfig

/-! ### Values at one key -/

namespace Value

/-- Lay values over what stands at a key, if anything does. -/
def stacked (below : Option Value) (values : List Value) : Option Value :=
  values.foldl (fun below value => some (overlay (below.getD .null) value)) below

@[simp]
theorem stacked_cons (below : Option Value) (value : Value) (rest : List Value) :
    stacked below (value :: rest) = stacked (some (overlay (below.getD .null) value)) rest := rfl

theorem stacked_append (below : Option Value) (first second : List Value) :
    stacked below (first ++ second) = stacked (stacked below first) second :=
  List.foldl_append

/-- Everything but a mapping replaces what it is laid over. -/
theorem overlay_of_ne_mapping {value : Value} (noMapping : ∀ fields, value ≠ .mapping fields)
    (base : Value) : overlay base value = value := by
  cases value with
  | mapping fields => exact absurd rfl (noMapping fields)
  | _ => rfl

/-- What lies below a value that is no mapping makes no difference. -/
theorem stacked_congr_of_ne_mapping {values : List Value} {value : Value} (among : value ∈ values)
    (noMapping : ∀ fields, value ≠ .mapping fields) (first second : Option Value) :
    stacked first values = stacked second values := by
  obtain ⟨before, after, rfl⟩ := List.append_of_mem among
  simp only [stacked_append, stacked_cons, overlay_of_ne_mapping noMapping]

theorem stacked_mappings {layers : List Fields} (nonempty : layers ≠ [])
    (ascending : ∀ layer ∈ layers, layer.Ascending) (below : Option Value) :
    stacked below (layers.map mapping) =
      some (.mapping (layers.foldl Fields.overlay (below.getD .null).entries)) := by
  induction layers generalizing below with
  | nil => exact absurd rfl nonempty
  | cons layer rest inductionHypothesis =>
      obtain ⟨layerAscending, restAscending⟩ := List.forall_mem_cons.mp ascending
      rw [List.map_cons, stacked_cons, overlay_mapping _ layerAscending]
      cases rest with
      | nil => rfl
      | cons next others =>
          rw [inductionHypothesis (List.cons_ne_nil _ _) restAscending]
          rfl

end Value

namespace Fields

/-- What layers hold at a key, in order. -/
def heldAt (key : String) (layers : List Fields) : List Value := layers.filterMap (get? key)

/-- What stands at a key is what the layers hold there, stacked. -/
theorem get?_foldl_overlay {layers : List Fields} (ascending : ∀ layer ∈ layers, layer.Ascending)
    (base : Fields) (key : String) :
    get? key (layers.foldl overlay base) = Value.stacked (get? key base) (heldAt key layers) := by
  induction layers generalizing base with
  | nil => rfl
  | cons layer rest inductionHypothesis =>
      obtain ⟨layerAscending, restAscending⟩ := List.forall_mem_cons.mp ascending
      rw [List.foldl_cons, inductionHypothesis restAscending, overlay,
        Value.get?_overlayFields base layerAscending, heldAt, heldAt]
      cases found : get? key layer <;> simp [found]

theorem ordered_of_mem_heldAt {layers : List Fields} (ordered : ∀ layer ∈ layers, layer.Ordered)
    (key : String) : ∀ value ∈ heldAt key layers, value.Ordered := by
  intro value held
  obtain ⟨layer, among, found⟩ := List.mem_filterMap.mp held
  exact (ordered layer among).get? found

theorem ascending_foldl_overlay {base : Fields} (ascending : base.Ascending)
    (layers : List Fields) : Ascending (layers.foldl overlay base) := by
  induction layers generalizing base with
  | nil => exact ascending
  | cons layer rest inductionHypothesis =>
      exact inductionHypothesis (Value.ascending_overlayFields ascending layer)

/-- Layers may be laid twice if what they hold at each key may be stacked twice. -/
theorem foldl_overlay_twice_of {layers : List Fields}
    (ascending : ∀ layer ∈ layers, layer.Ascending) {base : Fields} (baseAscending : base.Ascending)
    (twice : ∀ key, Value.stacked (Value.stacked (get? key base) (heldAt key layers))
      (heldAt key layers) = Value.stacked (get? key base) (heldAt key layers)) :
    layers.foldl overlay (layers.foldl overlay base) = layers.foldl overlay base := by
  have once := ascending_foldl_overlay baseAscending layers
  apply eq_of_get?_eq (ascending_foldl_overlay once layers) once
  intro key
  simp only [get?_foldl_overlay ascending]
  exact twice key

/-! ### The sizes of layers -/

theorem sizeOf_lt_of_get?_eq_some {key : String} {fields : Fields} {value : Value}
    (found : get? key fields = some value) : sizeOf value < sizeOf (Value.mapping fields) := by
  have entry := List.sizeOf_lt_of_mem (mem_of_get?_eq_some found)
  simp only [Prod.mk.sizeOf_spec] at entry
  rw [Value.mapping.sizeOf_spec]
  omega

theorem sizeOf_heldAt_le (key : String) (layers : List Fields) :
    sizeOf (heldAt key layers) + layers.length ≤ sizeOf (layers.map Value.mapping) := by
  induction layers with
  | nil => simp [heldAt]
  | cons layer rest inductionHypothesis =>
      simp only [heldAt, List.filterMap_cons] at inductionHypothesis ⊢
      cases found : get? key layer with
      | none =>
          simp only [List.map_cons, List.length_cons, List.cons.sizeOf_spec,
            Value.mapping.sizeOf_spec]
          omega
      | some value =>
          have smaller := sizeOf_lt_of_get?_eq_some found
          simp only [List.map_cons, List.length_cons, List.cons.sizeOf_spec]
          omega

theorem sizeOf_heldAt_lt (key : String) {layers : List Fields} (nonempty : layers ≠ []) :
    sizeOf (heldAt key layers) < sizeOf (layers.map Value.mapping) := by
  have atMost := sizeOf_heldAt_le key layers
  have several := List.length_pos_iff.mpr nonempty
  omega

end Fields

/-! ### Stacking twice -/

/-- Values are all mappings unless one of them is not. -/
theorem Value.exists_mappings_or (values : List Value) :
    (∃ layers : List Fields, values = layers.map mapping) ∨
      ∃ value ∈ values, ∀ fields, value ≠ .mapping fields := by
  induction values with
  | nil => exact .inl ⟨[], rfl⟩
  | cons value rest inductionHypothesis =>
      cases value with
      | mapping fields =>
          rcases inductionHypothesis with ⟨layers, rfl⟩ | ⟨other, among, noMapping⟩
          · exact .inl ⟨fields :: layers, rfl⟩
          · exact .inr ⟨other, List.mem_cons_of_mem _ among, noMapping⟩
      | _ => exact .inr ⟨_, List.mem_cons_self, nofun⟩

/-- Values that are stacked a second time change nothing. The recursion is on the size of all of
them together, since a key of one mapping may be missing from another. -/
theorem Value.stacked_twice (values : List Value) (ordered : ∀ value ∈ values, value.Ordered)
    {below : Option Value} (belowOrdered : (below.getD .null).Ordered) :
    stacked (stacked below values) values = stacked below values := by
  rcases exists_mappings_or values with ⟨layers, rfl⟩ | ⟨value, among, noMapping⟩
  · by_cases empty : layers = []
    · rw [empty]
      rfl
    have layersOrdered : ∀ layer ∈ layers, layer.Ordered := fun layer among =>
      (Fields.ordered_mapping_iff layer).mp (ordered _ (List.mem_map_of_mem among))
    have ascending : ∀ layer ∈ layers, layer.Ascending := fun layer among =>
      (layersOrdered layer among).ascending
    rw [stacked_mappings empty ascending, stacked_mappings empty ascending]
    apply congrArg fun fields => some (mapping fields)
    apply Fields.foldl_overlay_twice_of ascending belowOrdered.entries.ascending
    intro key
    -- What the layers hold at a key is smaller than all of them, which ends the recursion.
    have smaller := Fields.sizeOf_heldAt_lt key empty
    exact stacked_twice (Fields.heldAt key layers) (Fields.ordered_of_mem_heldAt layersOrdered key)
      (belowOrdered.entries.ordered_getD_get? key)
  · exact stacked_congr_of_ne_mapping among noMapping _ _
termination_by sizeOf values

/-- Layers that are laid a second time change nothing. -/
theorem Fields.foldl_overlay_twice {layers : List Fields}
    (ordered : ∀ layer ∈ layers, layer.Ordered) {base : Fields} (baseOrdered : base.Ordered) :
    layers.foldl overlay (layers.foldl overlay base) = layers.foldl overlay base := by
  apply foldl_overlay_twice_of (fun layer among => (ordered layer among).ascending)
    baseOrdered.ascending
  intro key
  exact Value.stacked_twice _ (ordered_of_mem_heldAt ordered key)
    (baseOrdered.ordered_getD_get? key)

/-! ### Sources that are given twice -/

theorem Source.visitsAll_append_iff {read : String → Except ReadFault String} {levels : Nat}
    {first second : List Source} {found : List Layer} :
    VisitsAll read levels (first ++ second) found ↔
      ∃ before after, VisitsAll read levels first before ∧ VisitsAll read levels second after ∧
        found = before ++ after := by
  induction first generalizing found with
  | nil =>
      constructor
      · intro visits
        exact ⟨[], found, .nil, visits, rfl⟩
      · rintro ⟨_, after, ⟨⟩, visits, rfl⟩
        exact visits
  | cons source rest inductionHypothesis =>
      constructor
      · rintro (_ | ⟨sourceVisits, othersVisit⟩)
        obtain ⟨before, after, restVisits, secondVisits, rfl⟩ := inductionHypothesis.mp othersVisit
        exact ⟨_, after, .cons sourceVisits restVisits, secondVisits,
          (List.append_assoc _ _ _).symm⟩
      · rintro ⟨_, after, _ | ⟨sourceVisits, restVisits⟩, secondVisits, rfl⟩
        rw [List.append_assoc]
        exact .cons sourceVisits (inductionHypothesis.mpr ⟨_, after, restVisits, secondVisits, rfl⟩)

namespace Loader

theorem documentOf_append_twice {layers repeated : List Layer}
    (ordered : ∀ layer ∈ layers, layer.document.Ordered)
    (repeatedOrdered : ∀ layer ∈ repeated, layer.document.Ordered) (overrides : List Override) :
    documentOf (layers ++ (repeated ++ repeated)) overrides =
      documentOf (layers ++ repeated) overrides := by
  have base := Fields.ordered_overlayAll (List.forall_mem_map.mpr ordered)
  have twice := Fields.foldl_overlay_twice (List.forall_mem_map.mpr repeatedOrdered) base
  have same : Fields.overlayAll ((layers ++ (repeated ++ repeated)).map Layer.document) =
      Fields.overlayAll ((layers ++ repeated).map Layer.document) := by
    simp only [Fields.overlayAll, List.map_append, List.foldl_append]
    exact twice
  rw [documentOf, documentOf, same]

/-- A source that is given again right after itself changes nothing, with all that it includes: if
its documents can be merged once they can be merged twice, to the same document. -/
theorem merge_repeated (loader : Loader) (world : World) (sources : List Source) (source : Source)
    {merged : Merged}
    (merges : (loader.merge world (sources ++ [source])).outcome = .ok merged) :
    ∃ repeated, (loader.merge world (sources ++ [source, source])).outcome = .ok repeated ∧
      repeated.document = merged.document := by
  obtain ⟨_, visits, rfl⟩ := (outcome_merge_eq_ok_iff _ _ _ _).mp merges
  obtain ⟨layers, own, sourcesVisit, sourceVisits, rfl⟩ := Source.visitsAll_append_iff.mp visits
  have twice := Source.visitsAll_append_iff.mpr ⟨own, own, sourceVisits, sourceVisits, rfl⟩
  have visitsAgain := Source.visitsAll_append_iff.mpr
    ⟨layers, own ++ own, sourcesVisit, twice, rfl⟩
  refine ⟨_, (outcome_merge_eq_ok_iff _ _ _ _).mpr ⟨_, visitsAgain, rfl⟩, ?_⟩
  exact documentOf_append_twice sourcesVisit.ordered sourceVisits.ordered _

/-- A world with one file, which a document can include. -/
def includedWorld : World where
  read path :=
    if path = "./limits.yaml" then .ok "edge: {days: 7}\nexchange: kraken\nstrategy: Trend"
    else .error .notFound
  environment := []

/-- A document that includes that file, and then takes away and changes what it brings. -/
def includer : Source := .inline "bot.yaml"
  "add_config_files: [limits.yaml]\nedge: {risk: 1}\nexchange: {key: a}\nstrategy: null"

/-- A document with other values at the same keys. -/
def forerunner : Source := .inline "first.yaml" "edge: 1\nexchange: {secret: b}\nstrategy: [c]"

theorem merge_repeated_includer :
    ∃ merged repeated,
      (merge ⟨none⟩ includedWorld [forerunner, includer]).outcome = .ok merged ∧
      merged.files = ["first.yaml", "./limits.yaml", "bot.yaml"] ∧
      (merge ⟨none⟩ includedWorld [forerunner, includer, includer]).outcome = .ok repeated ∧
      repeated.document = merged.document ∧
      merged.document = [
        ("edge", .mapping [("days", .number (.integer 7)), ("risk", .number (.integer 1))]),
        ("exchange", .mapping [("key", .text "a")])] := by
  have merges : ((merge ⟨none⟩ includedWorld [forerunner, includer]).outcome.toOption.any
      fun merged => merged.files == ["first.yaml", "./limits.yaml", "bot.yaml"] &&
        decide (merged.document = [
          ("edge", .mapping [("days", .number (.integer 7)), ("risk", .number (.integer 1))]),
          ("exchange", .mapping [("key", .text "a")])])) = true := by
    decide +kernel
  obtain ⟨merged, isOk, holds⟩ := Traced.exists_eq_ok_of_any merges
  obtain ⟨files, document⟩ := (Bool.and_eq_true _ _).mp holds
  obtain ⟨repeated, repeatedOk, same⟩ :=
    merge_repeated ⟨none⟩ includedWorld [forerunner] includer isOk
  exact ⟨merged, repeated, isOk, eq_of_beq files, repeatedOk, same, of_decide_eq_true document⟩

end Loader

end BotConfig
