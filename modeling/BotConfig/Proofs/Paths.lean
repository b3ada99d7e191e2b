import BotConfig.Proofs.MergePatch

/-!
What stands at a path of keys.

A layer with one value at the end of a path changes what stands there, and nothing at a path that
leads elsewhere.  Dropping nulls takes away what is null and leaves everything else in place.
-/

namespace BotConfig

/-- Neither of two paths leads on from the other. -/
def Key.Apart {α : Type} (first second : List α) : Prop := ¬ first <+: second ∧ ¬ second <+: first

namespace Key.Apart

variable {α : Type} {key : α} {first second : List α}

theorem symm (apart : Apart first second) : Apart second first :=
  ⟨apart.2, apart.1⟩

theorem tail (apart : Apart (key :: first) (key :: second)) : Apart first second :=
  ⟨fun isPrefix => apart.1 (List.cons_prefix_cons.mpr ⟨rfl, isPrefix⟩),
    fun isPrefix => apart.2 (List.cons_prefix_cons.mpr ⟨rfl, isPrefix⟩)⟩

theorem left_ne_nil (apart : Apart first second) : first ≠ [] := by
  rintro rfl
  exact apart.1 (List.nil_prefix)

theorem right_ne_nil (apart : Apart first second) : second ≠ [] :=
  apart.symm.left_ne_nil

theorem of_head_ne {other : α} (different : key ≠ other) (first second : List α) :
    Apart (key :: first) (other :: second) :=
  ⟨fun isPrefix => different (List.cons_prefix_cons.mp isPrefix).1,
    fun isPrefix => different (List.cons_prefix_cons.mp isPrefix).1.symm⟩

end Key.Apart

namespace Value

@[simp]
theorem atPath?_nil (value : Value) : value.atPath? [] = some value := by
  cases value <;> rfl

@[simp]
theorem atPath?_cons (value : Value) (key : String) (rest : List String) :
    value.atPath? (key :: rest) =
      (Fields.get? key value.entries).bind fun child => child.atPath? rest := by
  cases value with
  | mapping fields =>
      rw [atPath?, entries]
      cases Fields.get? key fields <;> rfl
  | _ => rfl

theorem atPath?_append (value : Value) (first second : List String) :
    value.atPath? (first ++ second) =
      (value.atPath? first).bind fun found => found.atPath? second := by
  induction first generalizing value with
  | nil => simp
  | cons key rest inductionHypothesis =>
      simp only [List.cons_append, atPath?_cons, inductionHypothesis, Option.bind_assoc]

theorem atPath?_append_singleton {value : Value} {path : List String} {child : Fields}
    (found : value.atPath? path = some (.mapping child)) (key : String) :
    value.atPath? (path ++ [key]) = Fields.get? key child := by
  simp [atPath?_append, found, entries]

theorem exists_of_atPath?_append_singleton {value found : Value} {path : List String}
    {key : String} (reached : value.atPath? (path ++ [key]) = some found) :
    ∃ child, value.atPath? path = some (.mapping child) ∧ Fields.get? key child = some found := by
  rw [atPath?_append, Option.bind_eq_some_iff] at reached
  obtain ⟨container, atPath, atKey⟩ := reached
  cases container with
  | mapping child => exact ⟨child, atPath, by simpa [entries] using atKey⟩
  | _ => simp [entries] at atKey

/-- The entries of what stands at a path. -/
def entriesAt (value : Value) (path : List String) : Fields :=
  ((value.atPath? path).getD .null).entries

theorem get?_entriesAt (value : Value) (path : List String) (key : String) :
    Fields.get? key (value.entriesAt path) = value.atPath? (path ++ [key]) := by
  unfold entriesAt
  rw [atPath?_append]
  cases value.atPath? path <;> simp [entries]

/-- Nothing stands below a null. -/
theorem getD_atPath?_getD (child : Option Value) (path : List String) :
    ((child.getD .null).atPath? path).getD .null =
      (child.bind fun value => value.atPath? path).getD .null := by
  cases child with
  | some value => rfl
  | none => cases path <;> simp [entries]

theorem Ordered.atPath? {value found : Value} (ordered : value.Ordered) {path : List String}
    (reached : value.atPath? path = some found) : found.Ordered := by
  induction path generalizing value with
  | nil =>
      rw [atPath?_nil] at reached
      cases reached
      exact ordered
  | cons key rest inductionHypothesis =>
      rw [atPath?_cons, Option.bind_eq_some_iff] at reached
      obtain ⟨child, atKey, below⟩ := reached
      exact inductionHypothesis (ordered.entries.get? atKey) below

theorem Ordered.entriesAt {value : Value} (ordered : value.Ordered) (path : List String) :
    (value.entriesAt path).Ordered := by
  unfold Value.entriesAt
  cases found : value.atPath? path with
  | none => exact Fields.ordered_nil
  | some child => exact (ordered.atPath? found).entries

/-! ### One value at the end of a path -/

theorem ordered_nested {value : Value} (ordered : value.Ordered) (path : List String) :
    (value.nested path).Ordered :=
  closed_ordered.nested ordered path

theorem mapping_nested {path : List String} (nonempty : path ≠ []) (value : Value) :
    .mapping (Fields.nested path value) = value.nested path := by
  cases path with
  | nil => exact absurd rfl nonempty
  | cons key rest => rfl

theorem atPath?_nested (value : Value) (path : List String) :
    (value.nested path).atPath? path = some value := by
  induction path with
  | nil => exact atPath?_nil value
  | cons key rest inductionHypothesis => simpa [nested, entries] using inductionHypothesis

/-- A value of a layer is laid over what stands at its path. -/
theorem atPath?_overlay (base : Value) {patch value : Value} (ordered : patch.Ordered)
    {path : List String} (found : patch.atPath? path = some value) :
    (overlay base patch).atPath? path =
      some (overlay ((base.atPath? path).getD .null) value) := by
  induction path generalizing base patch with
  | nil =>
      rw [atPath?_nil] at found
      cases found
      simp
  | cons key rest inductionHypothesis =>
      rw [atPath?_cons, Option.bind_eq_some_iff] at found
      obtain ⟨child, atKey, below⟩ := found
      cases patch with
      | mapping fields =>
          have fieldsOrdered := (Fields.ordered_mapping_iff fields).mp ordered
          rw [entries] at atKey
          rw [overlay_mapping base fieldsOrdered.ascending, atPath?_cons, entries,
            get?_overlayFields _ fieldsOrdered.ascending, atKey, Option.bind_some,
            inductionHypothesis _ (fieldsOrdered.get? atKey) below, getD_atPath?_getD,
            atPath?_cons]
      | _ => simp [entries] at atKey

/-- Where a layer has a mapping there is a mapping afterwards. -/
theorem exists_mapping_overlay (base : Value) {patch : Value} (ordered : patch.Ordered)
    {path : List String} {child : Fields} (found : patch.atPath? path = some (.mapping child)) :
    ∃ merged, (overlay base patch).atPath? path = some (.mapping merged) := by
  have childOrdered := (Fields.ordered_mapping_iff child).mp (ordered.atPath? found)
  exact ⟨_, by rw [atPath?_overlay base ordered found, overlay_mapping _ childOrdered.ascending]⟩

/-! ### Layers that lead elsewhere -/

/-- A layer leaves alone what stands at a path: it has mappings on the way, as far as it goes, and
nothing at the end. -/
def Spares : Value → List String → Prop
  | _, [] => False
  | patch, key :: rest => ∃ fields, patch = .mapping fields ∧
      ∀ child, Fields.get? key fields = some child → child.Spares rest

theorem Spares.ne_nil {patch : Value} {path : List String} (spares : patch.Spares path) :
    path ≠ [] := by
  rintro rfl
  exact spares

theorem spares_mapping_nil {path : List String} (nonempty : path ≠ []) :
    (mapping []).Spares path := by
  cases path with
  | nil => exact nonempty rfl
  | cons key rest => exact ⟨[], rfl, by simp⟩

theorem spares_nested_of_apart (value : Value) {path other : List String}
    (apart : Key.Apart path other) : (value.nested path).Spares other := by
  induction path generalizing other with
  | nil => exact absurd rfl apart.left_ne_nil
  | cons key rest inductionHypothesis =>
      cases other with
      | nil => exact absurd rfl apart.right_ne_nil
      | cons otherKey otherRest =>
          refine ⟨_, rfl, ?_⟩
          intro child found
          by_cases same : key = otherKey
          · subst same
            simp only [Fields.get?_cons, if_true, Option.some.injEq] at found
            subst found
            exact inductionHypothesis apart.tail
          · simp [same] at found

theorem Spares.overlay {base patch : Value} (ordered : patch.Ordered) {path : List String}
    (baseSpares : base.Spares path) (spares : patch.Spares path) :
    (overlay base patch).Spares path := by
  induction path generalizing base patch with
  | nil => exact spares
  | cons key rest inductionHypothesis =>
      obtain ⟨fields, rfl, below⟩ := spares
      obtain ⟨baseFields, rfl, baseBelow⟩ := baseSpares
      have fieldsOrdered := (Fields.ordered_mapping_iff fields).mp ordered
      rw [overlay_mapping _ fieldsOrdered.ascending]
      refine ⟨_, rfl, ?_⟩
      intro child found
      rw [entries, get?_overlayFields _ fieldsOrdered.ascending] at found
      cases inPatch : Fields.get? key fields with
      | none =>
          rw [inPatch] at found
          exact baseBelow child found
      | some added =>
          rw [inPatch] at found
          cases found
          cases inBase : Fields.get? key baseFields with
          | none => simpa using below added inPatch
          | some old =>
              exact inductionHypothesis (fieldsOrdered.get? inPatch) (baseBelow old inBase)
                (below added inPatch)

theorem atPath?_overlay_of_spares (base : Value) {patch : Value} (ordered : patch.Ordered)
    {path : List String} (spares : patch.Spares path) :
    (overlay base patch).atPath? path = base.atPath? path := by
  induction path generalizing base patch with
  | nil => exact absurd rfl spares.ne_nil
  | cons key rest inductionHypothesis =>
      obtain ⟨fields, rfl, below⟩ := spares
      have fieldsOrdered := (Fields.ordered_mapping_iff fields).mp ordered
      rw [overlay_mapping _ fieldsOrdered.ascending, atPath?_cons, entries,
        get?_overlayFields _ fieldsOrdered.ascending, atPath?_cons]
      cases inPatch : Fields.get? key fields with
      | none => rfl
      | some added =>
          have restSpares := below added inPatch
          simp only [Option.bind_some]
          rw [inductionHypothesis _ (fieldsOrdered.get? inPatch) restSpares]
          cases Fields.get? key base.entries with
          | some child => rfl
          | none =>
              -- The path goes on, and there is nothing below a null.
              obtain ⟨next, others, rfl⟩ := List.exists_cons_of_ne_nil restSpares.ne_nil
              simp [entries]

/-! ### Dropping nulls -/

/-- At the end of a path of keys everything but a null remains, pruned. -/
theorem atPath?_pruned {value : Value} (ordered : value.Ordered) {path : List String}
    (below : path ≠ []) :
    value.pruned.atPath? path =
      match value.atPath? path with
      | none => none
      | some found => if found.isNull then none else some found.pruned := by
  induction path generalizing value with
  | nil => exact absurd rfl below
  | cons key rest inductionHypothesis =>
      rw [atPath?_cons, entries_pruned, get?_prunedFields ordered.entries.ascending,
        atPath?_cons]
      cases found : Fields.get? key value.entries with
      | none => rfl
      | some child =>
          cases rest with
          | nil => by_cases null : child.isNull <;> simp [null]
          | cons next others =>
              by_cases null : child.isNull
              · rw [(isNull_eq_true_iff child).mp null]
                simp [isNull, entries]
              · simp only [null, Bool.false_eq_true, if_false, Option.bind_some]
                exact inductionHypothesis (ordered.entries.get? found) (List.cons_ne_nil _ _)

theorem isNull_pruned (value : Value) : value.pruned.isNull = value.isNull := by
  cases value <;> rfl

/-- No null is left at the end of a path of keys. -/
theorem atPath?_pruned_ne_null {value : Value} (ordered : value.Ordered) {path : List String}
    (below : path ≠ []) : value.pruned.atPath? path ≠ some .null := by
  rw [atPath?_pruned ordered below]
  cases value.atPath? path with
  | none => simp
  | some found =>
      by_cases null : found.isNull
      · simp [null]
      · simp only [null, Bool.false_eq_true, if_false, ne_eq, Option.some.injEq]
        intro prunedNull
        rw [← isNull_pruned, prunedNull] at null
        exact null rfl

end Value

namespace Fields

theorem atPath?_foldl_overlay_of_spares {patches : List Fields} {path : List String}
    (ordered : ∀ patch ∈ patches, patch.Ordered)
    (spares : ∀ patch ∈ patches, (Value.mapping patch).Spares path) (base : Fields) :
    (Value.mapping (patches.foldl overlay base)).atPath? path =
      (Value.mapping base).atPath? path := by
  induction patches generalizing base with
  | nil => rfl
  | cons patch rest inductionHypothesis =>
      obtain ⟨patchOrdered, restOrdered⟩ := List.forall_mem_cons.mp ordered
      obtain ⟨patchSpares, restSpare⟩ := List.forall_mem_cons.mp spares
      rw [List.foldl_cons, inductionHypothesis restOrdered restSpare]
      exact Value.atPath?_overlay_of_spares (.mapping base)
        ((ordered_mapping_iff patch).mpr patchOrdered) patchSpares

/-- Of several layers only one leads to a path. -/
theorem atPath?_foldl_overlay {before after : List Fields} {patch : Fields} {value : Value}
    {path : List String} (ordered : ∀ layer ∈ before ++ patch :: after, layer.Ordered)
    (spares : ∀ layer ∈ before ++ after, (Value.mapping layer).Spares path)
    (found : (Value.mapping patch).atPath? path = some value) (base : Fields) :
    (Value.mapping ((before ++ patch :: after).foldl overlay base)).atPath? path =
      some (Value.overlay (((Value.mapping base).atPath? path).getD .null) value) := by
  obtain ⟨beforeOrdered, othersOrdered⟩ := List.forall_mem_append.mp ordered
  obtain ⟨patchOrdered, afterOrdered⟩ := List.forall_mem_cons.mp othersOrdered
  obtain ⟨beforeSpares, afterSpares⟩ := List.forall_mem_append.mp spares
  rw [List.foldl_append, List.foldl_cons,
    atPath?_foldl_overlay_of_spares afterOrdered afterSpares,
    ← atPath?_foldl_overlay_of_spares beforeOrdered beforeSpares base]
  exact Value.atPath?_overlay (.mapping (before.foldl overlay base))
    ((ordered_mapping_iff patch).mpr patchOrdered) found

theorem exists_mapping_foldl_overlay {patches : List Fields} {path : List String}
    (ordered : ∀ patch ∈ patches, patch.Ordered)
    (mappings : ∀ patch ∈ patches, ∃ child,
      (Value.mapping patch).atPath? path = some (.mapping child))
    {base : Fields} (baseMapping : ∃ child, (Value.mapping base).atPath? path =
      some (.mapping child)) :
    ∃ child, (Value.mapping (patches.foldl overlay base)).atPath? path =
      some (.mapping child) := by
  induction patches generalizing base with
  | nil => exact baseMapping
  | cons patch rest inductionHypothesis =>
      obtain ⟨patchOrdered, restOrdered⟩ := List.forall_mem_cons.mp ordered
      obtain ⟨⟨child, found⟩, restMappings⟩ := List.forall_mem_cons.mp mappings
      exact inductionHypothesis restOrdered restMappings
        (Value.exists_mapping_overlay (.mapping base)
          ((ordered_mapping_iff patch).mpr patchOrdered) found)

theorem spares_overlayAll {layers : List Fields} {path : List String} (nonempty : path ≠ [])
    (ordered : ∀ layer ∈ layers, layer.Ordered)
    (spares : ∀ layer ∈ layers, (Value.mapping layer).Spares path) :
    (Value.mapping (overlayAll layers)).Spares path := by
  unfold overlayAll
  suffices step : ∀ base : Fields, (Value.mapping base).Spares path →
      (Value.mapping (layers.foldl overlay base)).Spares path from
    step [] (Value.spares_mapping_nil nonempty)
  induction layers with
  | nil => exact fun base baseSpares => baseSpares
  | cons layer rest inductionHypothesis =>
      obtain ⟨layerOrdered, restOrdered⟩ := List.forall_mem_cons.mp ordered
      obtain ⟨layerSpares, restSpare⟩ := List.forall_mem_cons.mp spares
      intro base baseSpares
      exact inductionHypothesis restOrdered restSpare _
        (baseSpares.overlay ((ordered_mapping_iff layer).mpr layerOrdered) layerSpares)

end Fields

end BotConfig
