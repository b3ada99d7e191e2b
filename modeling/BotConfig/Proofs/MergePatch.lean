import BotConfig.Proofs.Closed

/-!
Layers as merge patches.

A merge patch deletes what stands at a key that it has a null at, while layers keep nulls as values
that are dropped in the end.  `Value.pruned_overlay` says that one layer does what one patch does,
and `Fields.pruned_foldl_overlay` that any number of layers do what the patches do in turn.
-/

namespace BotConfig

namespace Value

/-- The entries of a value: none unless it is a mapping. -/
def entries : Value → Fields
  | .mapping fields => fields
  | _ => []

theorem Ordered.entries {value : Value} (ordered : value.Ordered) : value.entries.Ordered := by
  cases ordered with
  | mapping ascending values => exact ⟨ascending, values⟩
  | _ => exact Fields.ordered_nil

mutual

/-- Apply a merge patch. A patch that is not a mapping replaces the value, and one that is starts
from nothing where there is no mapping. -/
def mergePatch (target : Value) : Value → Value
  | .mapping patch => .mapping (patchFields target.entries patch)
  | patch => patch

/-- Apply the entries of a merge patch: a null deletes its key, and any other value is a patch for
what stands at its key. -/
def patchFields (target : Fields) : List (String × Value) → Fields
  | [] => target
  | (key, value) :: rest =>
      if value.isNull then patchFields (Fields.erase key target) rest
      else
        let merged := mergePatch ((Fields.get? key target).getD .null) value
        patchFields (Fields.insert key merged target) rest

end

theorem isNull_eq_true_iff (value : Value) : value.isNull = true ↔ value = .null := by
  cases value <;> simp [isNull]

/-! ### Laying over -/

@[simp]
theorem overlay_null (patch : Value) : overlay .null patch = patch := by
  cases patch <;> rfl

@[simp]
theorem isNull_overlay (base patch : Value) : (overlay base patch).isNull = patch.isNull := by
  cases patch with
  | mapping fields => cases base <;> rfl
  | _ => rfl

theorem overlayFields_cons (base : Fields) (key : String) (value : Value)
    (rest : List (String × Value)) :
    overlayFields base ((key, value) :: rest) = overlayFields
      (Fields.insert key (overlay ((Fields.get? key base).getD .null) value) base) rest := by
  rw [overlayFields]
  cases Fields.get? key base <;> simp

theorem ascending_overlayFields {base : Fields} (ascending : base.Ascending)
    (patch : List (String × Value)) : Fields.Ascending (overlayFields base patch) := by
  induction patch generalizing base with
  | nil => exact ascending
  | cons entry rest inductionHypothesis =>
      rw [overlayFields]
      exact inductionHypothesis (ascending.insert _ _)

/-- A layer determines what stands at its keys and leaves the others alone. -/
theorem get?_overlayFields (base : Fields) {patch : Fields} (ascending : patch.Ascending)
    (key : String) :
    Fields.get? key (overlayFields base patch) =
      match Fields.get? key patch with
      | none => Fields.get? key base
      | some value => some (overlay ((Fields.get? key base).getD .null) value) := by
  induction patch generalizing base with
  | nil => rfl
  | cons entry rest inductionHypothesis =>
      rcases entry with ⟨name, value⟩
      rw [overlayFields_cons, inductionHypothesis _ ascending.tail]
      by_cases same : name = key
      · subst same
        rw [ascending.get?_tail_head]
        simp
      · rw [Fields.get?_insert_of_ne same]
        simp [same]

/-- A mapping is laid over nothing unless there is a mapping. -/
theorem overlay_mapping (base : Value) {patch : Fields} (ascending : patch.Ascending) :
    overlay base (.mapping patch) = .mapping (overlayFields base.entries patch) := by
  have onNothing : overlayFields [] patch = patch := by
    apply Fields.eq_of_get?_eq (ascending_overlayFields Fields.ascending_nil patch) ascending
    intro key
    rw [get?_overlayFields [] ascending]
    cases Fields.get? key patch <;> simp
  cases base with
  | mapping fields => rfl
  | _ => simp [overlay, entries, onNothing]

theorem Ordered.overlay {base patch : Value} (baseOrdered : base.Ordered)
    (ordered : patch.Ordered) : (overlay base patch).Ordered :=
  closed_ordered.overlay baseOrdered patch ordered

/-! ### Dropping nulls -/

theorem ascending_prunedFields {fields : Fields} (ascending : fields.Ascending) :
    Fields.Ascending (prunedFields fields) :=
  ascending.sublist (Fields.keys_prunedFields_sublist fields)

/-- Of the values at the keys of a mapping those that are not null remain, pruned. -/
theorem get?_prunedFields {fields : Fields} (ascending : fields.Ascending) (key : String) :
    Fields.get? key (prunedFields fields) =
      match Fields.get? key fields with
      | none => none
      | some value => if value.isNull then none else some value.pruned := by
  induction fields with
  | nil => rfl
  | cons entry rest inductionHypothesis =>
      rcases entry with ⟨name, value⟩
      have others := inductionHypothesis ascending.tail
      by_cases same : name = key
      · subst same
        rw [ascending.get?_tail_head] at others
        by_cases null : value.isNull <;> simp [prunedFields, null, others]
      · by_cases null : value.isNull <;> simp [prunedFields, null, same, others]

theorem pruned_getD_get? {fields : Fields} (ascending : fields.Ascending) (key : String) :
    ((Fields.get? key fields).getD .null).pruned =
      (Fields.get? key (prunedFields fields)).getD .null := by
  rw [get?_prunedFields ascending]
  cases Fields.get? key fields with
  | none => rfl
  | some value => cases value <;> rfl

theorem entries_pruned (value : Value) : value.pruned.entries = prunedFields value.entries := by
  cases value <;> rfl

/-! ### Patching -/

theorem ascending_patchFields {target : Fields} (ascending : target.Ascending)
    (patch : List (String × Value)) : Fields.Ascending (patchFields target patch) := by
  induction patch generalizing target with
  | nil => exact ascending
  | cons entry rest inductionHypothesis =>
      rw [patchFields]
      split
      · exact inductionHypothesis (ascending.erase _)
      · exact inductionHypothesis (ascending.insert _ _)

/-- A patch determines what stands at its keys and leaves the others alone. -/
theorem get?_patchFields {target : Fields} (targetAscending : target.Ascending) {patch : Fields}
    (ascending : patch.Ascending) (key : String) :
    Fields.get? key (patchFields target patch) =
      match Fields.get? key patch with
      | none => Fields.get? key target
      | some value =>
          if value.isNull then none
          else some (mergePatch ((Fields.get? key target).getD .null) value) := by
  induction patch generalizing target with
  | nil => rfl
  | cons entry rest inductionHypothesis =>
      rcases entry with ⟨name, value⟩
      by_cases null : value.isNull
      · rw [patchFields, if_pos null,
          inductionHypothesis (targetAscending.erase _) ascending.tail]
        by_cases same : name = key
        · subst same
          rw [ascending.get?_tail_head]
          simp [null, targetAscending.get?_erase]
        · simp [same, targetAscending.get?_erase]
      · rw [patchFields, if_neg null,
          inductionHypothesis (targetAscending.insert _ _) ascending.tail]
        by_cases same : name = key
        · subst same
          rw [ascending.get?_tail_head]
          simp [null]
        · rw [Fields.get?_insert_of_ne same]
          simp [same]

/-- Dropping nulls after laying a value over another is patching. -/
theorem pruned_overlay {base patch : Value} (baseOrdered : base.Ordered)
    (ordered : patch.Ordered) : (overlay base patch).pruned = mergePatch base.pruned patch := by
  induction ordered generalizing base with
  | null => cases base <;> rfl
  | boolean flag => cases base <;> rfl
  | number value => cases base <;> rfl
  | text content => cases base <;> rfl
  | list items => cases base <;> rfl
  | @mapping patch ascending values inductionHypothesis =>
      have baseEntries := baseOrdered.entries
      have laidAscending := ascending_overlayFields baseEntries.ascending patch
      have prunedAscending := ascending_prunedFields baseEntries.ascending
      rw [overlay_mapping base ascending, pruned, mergePatch, entries_pruned]
      congr 1
      apply Fields.eq_of_get?_eq (ascending_prunedFields laidAscending)
        (ascending_patchFields prunedAscending patch)
      intro key
      rw [get?_prunedFields laidAscending, get?_overlayFields _ ascending,
        get?_patchFields prunedAscending ascending]
      cases found : Fields.get? key patch with
      | none => simp only [get?_prunedFields baseEntries.ascending]
      | some value =>
          by_cases null : value.isNull
          · simp [null]
          · have below := inductionHypothesis (key, value) (Fields.mem_of_get?_eq_some found)
              (baseEntries.ordered_getD_get? key)
            simp only [isNull_overlay, null, below, pruned_getD_get? baseEntries.ascending]

end Value

namespace Fields

/-- Apply a merge patch to a mapping. -/
def mergePatch (target patch : Fields) : Fields := Value.patchFields target patch

theorem Ordered.overlay {base patch : Fields} (baseOrdered : base.Ordered)
    (ordered : patch.Ordered) : (overlay base patch).Ordered := by
  have laid := Value.Ordered.overlay ((ordered_mapping_iff base).mpr baseOrdered)
    ((ordered_mapping_iff patch).mpr ordered)
  exact (ordered_mapping_iff _).mp laid

theorem pruned_overlay {base patch : Fields} (baseOrdered : base.Ordered)
    (ordered : patch.Ordered) :
    Value.prunedFields (overlay base patch) = mergePatch (Value.prunedFields base) patch := by
  have laid := Value.pruned_overlay ((ordered_mapping_iff base).mpr baseOrdered)
    ((ordered_mapping_iff patch).mpr ordered)
  exact Value.mapping.inj laid

theorem Ordered.foldl_overlay {layers : List Fields} (ordered : ∀ layer ∈ layers, layer.Ordered)
    {base : Fields} (baseOrdered : base.Ordered) : (layers.foldl Fields.overlay base).Ordered :=
  (ordered_mapping_iff _).mp (Value.closed_ordered.foldl_overlay
    (fun layer membership => (ordered_mapping_iff layer).mpr (ordered layer membership))
    ((ordered_mapping_iff base).mpr baseOrdered))

theorem ordered_overlayAll {layers : List Fields} (ordered : ∀ layer ∈ layers, layer.Ordered) :
    (overlayAll layers).Ordered :=
  Ordered.foldl_overlay ordered ordered_nil

/-- Dropping nulls once after all layers is applying them as patches in turn. -/
theorem pruned_foldl_overlay {layers : List Fields} (ordered : ∀ layer ∈ layers, layer.Ordered)
    {base : Fields} (baseOrdered : base.Ordered) :
    Value.prunedFields (layers.foldl overlay base) =
      layers.foldl mergePatch (Value.prunedFields base) := by
  induction layers generalizing base with
  | nil => rfl
  | cons layer rest inductionHypothesis =>
      obtain ⟨first, others⟩ := List.forall_mem_cons.mp ordered
      rw [List.foldl_cons, List.foldl_cons,
        inductionHypothesis others (baseOrdered.overlay first), pruned_overlay baseOrdered first]

theorem pruned_erase {fields : Fields} (ascending : fields.Ascending) (key : String) :
    Value.prunedFields (erase key fields) = erase key (Value.prunedFields fields) := by
  have prunedAscending := Value.ascending_prunedFields ascending
  apply eq_of_get?_eq (Value.ascending_prunedFields (ascending.erase key))
    (prunedAscending.erase key)
  intro other
  rw [Value.get?_prunedFields (ascending.erase key), ascending.get?_erase,
    prunedAscending.get?_erase, Value.get?_prunedFields ascending]
  by_cases same : key = other <;> simp [same]

end Fields

end BotConfig
