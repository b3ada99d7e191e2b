import BotConfig.Proofs.Alike

/-!
What is loaded from a document.

Merging leaves a document without nulls and without a list of included files, and alignment keeps it
so.  The outcome depends on that document alone: what is reported on the way does not decide it, and
the names of the documents are put in at the end.
-/

namespace BotConfig

namespace Value

mutual

theorem pruned_pruned (value : Value) : value.pruned.pruned = value.pruned := by
  cases value with
  | mapping fields => exact congrArg mapping (prunedFields_prunedFields fields)
  | _ => rfl

theorem prunedFields_prunedFields (fields : List (String × Value)) :
    prunedFields (prunedFields fields) = prunedFields fields := by
  rcases fields with _ | ⟨⟨key, value⟩, rest⟩
  · rfl
  · have others := prunedFields_prunedFields rest
    rw [prunedFields]
    split
    · exact others
    · rename_i notNull
      rw [prunedFields, isNull_pruned, if_neg notNull, pruned_pruned value, others]

end

end Value

namespace Fields

/-- No null stands in a mapping, however deep. -/
def Nonnull (fields : Fields) : Prop := Value.prunedFields fields = fields

theorem nonnull_iff {fields : Fields} (ascending : fields.Ascending) :
    fields.Nonnull ↔ ∀ key value, get? key fields = some value →
      value.isNull = false ∧ value.pruned = value := by
  constructor
  · intro nonnull key value found
    have same := Value.get?_prunedFields ascending key
    rw [nonnull, found] at same
    cases null : value.isNull with
    | true => simp [null] at same
    | false => exact ⟨rfl, by simpa [null, eq_comm] using same⟩
  · intro each
    apply eq_of_get?_eq (Value.ascending_prunedFields ascending) ascending
    intro key
    rw [Value.get?_prunedFields ascending]
    cases found : get? key fields with
    | none => rfl
    | some value =>
        obtain ⟨notNull, pruned⟩ := each key value found
        simp [notNull, pruned]

theorem Nonnull.erase {fields : Fields} (nonnull : fields.Nonnull) (ascending : fields.Ascending)
    (key : String) : Nonnull (Fields.erase key fields) := by
  rw [Nonnull, pruned_erase ascending, nonnull]

theorem Nonnull.insert {fields : Fields} (nonnull : fields.Nonnull) (ascending : fields.Ascending)
    {value : Value} (notNull : value.isNull = false) (pruned : value.pruned = value)
    (key : String) : Nonnull (Fields.insert key value fields) := by
  rw [nonnull_iff (ascending.insert key value)]
  intro other found
  rw [get?_insert]
  split
  · rintro ⟨⟩
    exact ⟨notNull, pruned⟩
  · exact (nonnull_iff ascending).mp nonnull other found

theorem Nonnull.align {fields : Fields} (nonnull : fields.Nonnull) (ordered : fields.Ordered)
    (path : List String) : Nonnull (Key.align path fields) := by
  induction path generalizing fields with
  | nil => exact nonnull
  | cons key rest inductionHypothesis =>
      have each := (nonnull_iff ordered.ascending).mp nonnull
      cases rest with
      | nil =>
          rw [Key.align_last ordered.ascending]
          split
          · rename_i other value spelled found
            obtain ⟨notNull, pruned⟩ := each key value found
            exact (nonnull.erase ordered.ascending key).insert (ordered.ascending.erase key) notNull
              pruned other
          · exact nonnull
      | cons next others =>
          rw [Key.align_cons]
          split
          · rename_i child found
            have childNonnull : Nonnull child := Value.mapping.inj (each _ _ found).2
            have aligned := inductionHypothesis childNonnull
              ((ordered_mapping_iff child).mp (ordered.get? found))
            refine nonnull.insert ordered.ascending ?_ ?_ _
            · rfl
            · exact congrArg Value.mapping aligned
          · exact nonnull

end Fields

namespace Loader

/-- A document as merging leaves it: in order, without nulls and without a list of included
files. -/
structure Final (document : Fields) : Prop where
  ordered : document.Ordered
  nonnull : document.Nonnull
  includesNone : Fields.get? Config.includeKey document = none

theorem Final.align {document : Fields} (final : Final document) {path : List String}
    (lower : ∀ name ∈ path, Key.IsLower name) : Final (Key.align path document) where
  ordered := Key.ordered_align final.ordered path
  nonnull := final.nonnull.align final.ordered path
  includesNone := Key.get?_align_eq_none (by unfold Key.IsLower; decide) lower final.ordered
    final.includesNone

variable {loader : Loader} {world : World} {sources : List Source} {merged : Merged}

theorem final_of_outcome_merge (merges : (loader.merge world sources).outcome = .ok merged) :
    Final merged.document := by
  have ordered := ordered_of_outcome_merge merges
  obtain ⟨layers, visits, rfl⟩ := (outcome_merge_eq_ok_iff _ _ _ _).mp merges
  refine ⟨ordered, ?_, ?_⟩
  · rw [Fields.Nonnull, documentOf_eq, Value.prunedFields_prunedFields]
  · exact get?_includeKey_documentOf visits.ordered _

theorem final_aligned (merges : (loader.merge world sources).outcome = .ok merged) :
    Final (aligned merged) := by
  have final := final_of_outcome_merge merges
  exact @aligned_induction (fun document _ => Final document) _
    (fun lower _ _ kept => kept.align lower) merged merged (lower_of_outcome_merge merges) rfl
    final.ordered final.ordered final

/-! ### Outcomes -/

/-- What becomes of a configuration that has been decoded: it is checked as a whole, its whitelist
is narrowed, and a simulation forgets its credentials. -/
def finish (config : Config) : Except ConfigError Config :=
  (config.consistent >>= forgetCredentials).outcome

/-- What is loaded from an aligned document, but for the names of the documents. -/
def settled (document : Fields) : Except ConfigError Config :=
  Config.ofDocument document >>= finish

theorem outcome_settle (merged : Merged) :
    (settle merged).outcome =
      (settled (aligned merged)).map fun config => { config with files := merged.files } := by
  unfold settle settled
  rw [Traced.outcome_bind, Traced.outcome_ofExcept]
  cases Config.ofDocument (aligned merged) with
  | error error => rfl
  | ok decoded =>
      change (_ : Traced Config).outcome = (finish decoded).map _
      simp only [finish, Traced.outcome_bind, Traced.outcome_reportAll, Traced.outcome_report,
        Traced.outcome_pure, Except.bind]
      cases decoded.consistent.outcome with
      | error error => rfl
      | ok consistent =>
          dsimp only
          cases (forgetCredentials consistent).outcome <;> rfl

theorem outcome_load_eq (merges : (loader.merge world sources).outcome = .ok merged) :
    (loader.load world sources).outcome =
      (settled (aligned merged)).map fun config => { config with files := merged.files } := by
  rw [outcome_load_of_merge merges, outcome_settle]

/-- An outcome, but for the names of the documents. -/
def nameless (outcome : Except ConfigError Config) : Except ConfigError Config :=
  outcome.map fun config => { config with files := [] }

theorem nameless_map (outcome : Except ConfigError Config) (files : List String) :
    nameless (outcome.map fun config => { config with files := files }) = nameless outcome := by
  cases outcome <;> rfl

/-- What is loaded is loaded from the document that was merged. -/
theorem exists_settled_of_load {config : Config}
    (loads : (loader.load world sources).outcome = .ok config) :
    ∃ merged, (loader.merge world sources).outcome = .ok merged ∧
      ∃ result, settled (aligned merged) = .ok result ∧
        config = { result with files := merged.files } := by
  obtain ⟨merged, merges, _⟩ := (Traced.outcome_bind_eq_ok_iff _ _ _).mp loads
  rw [outcome_load_eq merges] at loads
  refine ⟨merged, merges, ?_⟩
  cases outcome : settled (aligned merged) with
  | error error =>
      rw [outcome] at loads
      cases loads
  | ok result =>
      rw [outcome] at loads
      cases loads
      exact ⟨result, rfl, rfl⟩

end Loader

end BotConfig
