import Mathlib.Data.List.Perm.Basic
import BotConfig.Proofs.Alike

/-!
Steps that may be made in any order.

Steps commute where they are apart and the state is in good order, so a list of steps that are
apart leads to the same state in every order.
-/

namespace BotConfig

theorem foldl_eq_of_perm {α σ : Type} {step : σ → α → σ} (holds : σ → Prop)
    (apart : α → α → Prop) (symmetric : ∀ a b, apart a b → apart b a)
    (commutes : ∀ state a b, holds state → apart a b →
      step (step state a) b = step (step state b) a)
    {first second : List α} (permuted : first.Perm second) (allApart : first.Pairwise apart)
    (keeps : ∀ a ∈ first, ∀ state, holds state → holds (step state a)) {state : σ}
    (stateHolds : holds state) : first.foldl step state = second.foldl step state := by
  induction permuted generalizing state with
  | nil => rfl
  | cons a _ inductionHypothesis =>
      obtain ⟨_, othersApart⟩ := List.pairwise_cons.mp allApart
      obtain ⟨firstKeeps, othersKeep⟩ := List.forall_mem_cons.mp keeps
      exact inductionHypothesis othersApart othersKeep (firstKeeps state stateHolds)
  | swap a b others =>
      obtain ⟨aparts, _⟩ := List.pairwise_cons.mp allApart
      rw [List.foldl_cons, List.foldl_cons, List.foldl_cons, List.foldl_cons,
        commutes state b a stateHolds (aparts a List.mem_cons_self)]
  | trans permuted _ inductionHypothesis secondHypothesis =>
      have middleApart := (permuted.pairwise_iff fun {a b} => symmetric a b).mp allApart
      have middleKeeps a membership := keeps a (permuted.mem_iff.mpr membership)
      exact (inductionHypothesis allApart keeps stateHolds).trans
        (secondHypothesis middleApart middleKeeps stateHolds)

namespace Fields

theorem insert_insert_comm {fields : Fields} (ascending : fields.Ascending) {key other : String}
    (different : key ≠ other) (value otherValue : Value) :
    insert other otherValue (insert key value fields) =
      insert key value (insert other otherValue fields) := by
  refine eq_of_get?_eq ((ascending.insert _ _).insert _ _) ((ascending.insert _ _).insert _ _) ?_
  intro name
  simp only [get?_insert]
  by_cases isOther : other = name
  · have notKey : key ≠ name := fun isKey => different (isKey.trans isOther.symm)
    simp [isOther, notKey]
  · simp [isOther]

theorem insert_insert_self {fields : Fields} (ascending : fields.Ascending) (key : String)
    (value last : Value) : insert key last (insert key value fields) = insert key last fields := by
  refine eq_of_get?_eq ((ascending.insert _ _).insert _ _) (ascending.insert _ _) ?_
  intro name
  simp only [get?_insert]
  by_cases isKey : key = name <;> simp [isKey]

theorem keys_insert_of_get?_eq_some {fields : Fields} (ascending : fields.Ascending) {key : String}
    {value : Value} (found : get? key fields = some value) (other : Value) :
    keys (insert key other fields) = keys fields := by
  refine List.Pairwise.eq_of_mem_iff (ascending.insert key other) ascending ?_
  intro name
  rw [mem_keys_insert_iff]
  constructor
  · rintro (rfl | membership)
    · exact (mem_keys_iff name fields).mpr ⟨value, found⟩
    · exact membership
  · exact .inr

/-- The order of entries does not matter where their keys are distinct. -/
theorem ofEntries_eq_of_perm {first second : List (String × Value)}
    (permuted : first.Perm second) (distinct : (first.map Prod.fst).Nodup) :
    ofEntries first = ofEntries second := by
  have commutes (fields : Fields) (a b : String × Value) (ascending : fields.Ascending)
      (different : a.1 ≠ b.1) : insert b.1 b.2 (insert a.1 a.2 fields) =
        insert a.1 a.2 (insert b.1 b.2 fields) :=
    insert_insert_comm ascending different a.2 b.2
  exact foldl_eq_of_perm Ascending (fun a b => a.1 ≠ b.1) (fun _ _ => Ne.symm) commutes permuted
    (List.pairwise_map.mp distinct) (fun entry _ _ ascending => ascending.insert entry.1 entry.2)
    ascending_nil

end Fields

/-! ### Values at the ends of paths -/

namespace Value

theorem overlay_singleton (base : Value) (key : String) (value : Value) :
    overlay base (.mapping [(key, value)]) =
      .mapping (Fields.insert key (overlay ((Fields.get? key base.entries).getD .null) value)
        base.entries) := by
  rw [overlay_mapping base (by simp [Fields.Ascending]), overlayFields_cons]
  rfl

theorem entries_mapping (fields : Fields) : (mapping fields).entries = fields := rfl

/-- Values at paths that are apart may be laid over a value in either order. -/
theorem overlay_nested_comm {path other : List String} (apart : Key.Apart path other)
    {base : Value} (ordered : base.Ordered) (value otherValue : Value) :
    overlay (overlay base (value.nested path)) (otherValue.nested other) =
      overlay (overlay base (otherValue.nested other)) (value.nested path) := by
  induction path generalizing other base with
  | nil => exact absurd rfl apart.left_ne_nil
  | cons key rest inductionHypothesis =>
      cases other with
      | nil => exact absurd rfl apart.right_ne_nil
      | cons otherKey otherRest =>
          have ascending := ordered.entries.ascending
          simp only [nested, overlay_singleton, entries_mapping]
          by_cases same : key = otherKey
          · subst same
            have below := inductionHypothesis apart.tail (ordered.entries.ordered_getD_get? key)
            simp only [Fields.get?_insert_self, Option.getD_some,
              Fields.insert_insert_self ascending, below]
          · rw [Fields.get?_insert_of_ne same, Fields.get?_insert_of_ne (Ne.symm same),
              Fields.insert_insert_comm ascending same]

end Value

theorem Fields.overlay_nested_comm {path other : List String} (apart : Key.Apart path other)
    {fields : Fields} (ordered : fields.Ordered) (value otherValue : Value) :
    overlay (overlay fields (nested path value)) (nested other otherValue) =
      overlay (overlay fields (nested other otherValue)) (nested path value) := by
  have commutes := Value.overlay_nested_comm apart ((ordered_mapping_iff fields).mpr ordered)
    value otherValue
  rw [← Value.mapping_nested apart.left_ne_nil,
    ← Value.mapping_nested apart.right_ne_nil] at commutes
  exact Value.mapping.inj commutes

namespace Key

theorem align_comm_of_folded_ne {key otherKey : String} (different : folded key ≠ folded otherKey)
    (rest otherRest : List String) {fields : Fields} (ordered : fields.Ordered) :
    align (otherKey :: otherRest) (align (key :: rest) fields) =
      align (key :: rest) (align (otherKey :: otherRest) fields) := by
  have first := ordered_align ordered (key :: rest)
  have second := ordered_align ordered (otherKey :: otherRest)
  refine Fields.eq_of_get?_eq (ordered_align first _).ascending
    (ordered_align second _).ascending ?_
  intro name
  by_cases isOther : folded name = folded otherKey
  · have notKey : folded key ≠ folded name := isOther ▸ different
    rw [get?_align_of_folded_ne notKey rest second]
    refine Fields.get?_align_congr first ordered ?_ _
    intro spelling sameFolded
    exact get?_align_of_folded_ne (sameFolded ▸ notKey) rest ordered
  · have notOther : folded otherKey ≠ folded name := Ne.symm isOther
    rw [get?_align_of_folded_ne notOther otherRest first]
    refine (Fields.get?_align_congr second ordered ?_ _).symm
    intro spelling sameFolded
    exact get?_align_of_folded_ne (sameFolded ▸ notOther) otherRest ordered

/-- Which key is followed depends on the keys of a mapping only. -/
theorem step_congr {key : String} {first second : Fields} (same : first.keys = second.keys) :
    step key first = step key second := by
  have sameVariant : variant? key first = variant? key second := by
    rw [variant?, variant?, same]
  have sameSome : (Fields.get? key first).isSome = (Fields.get? key second).isSome := by
    rw [Bool.eq_iff_iff, Option.isSome_iff_exists, Option.isSome_iff_exists,
      ← Fields.mem_keys_iff, ← Fields.mem_keys_iff, same]
  rw [step, step, sameVariant, sameSome]

/-- Two changes inside the value that a key leads to. -/
theorem align_align_cons (key next otherNext : String) (rest otherRest : List String)
    {fields : Fields} (ascending : fields.Ascending) :
    align (key :: otherNext :: otherRest) (align (key :: next :: rest) fields) =
      match Fields.get? (step key fields) fields with
      | some value =>
          Fields.insert (step key fields)
            (alignIn (otherNext :: otherRest) (alignIn (next :: rest) value)) fields
      | none => fields := by
  rw [align_cons_eq ascending key next rest]
  cases found : Fields.get? (step key fields) fields with
  | none => simp only [align_cons_eq ascending, found]
  | some value =>
      have sameStep : step key (Fields.insert (step key fields)
          (alignIn (next :: rest) value) fields) = step key fields :=
        step_congr (Fields.keys_insert_of_get?_eq_some ascending found _)
      simp only [align_cons_eq (ascending.insert _ _), sameStep, Fields.get?_insert_self,
        Fields.insert_insert_self ascending]

/-- Paths in lower case that are apart may be aligned in either order. -/
theorem align_comm {path other : List String} (apart : Apart path other)
    (lower : ∀ key ∈ path, IsLower key) (otherLower : ∀ key ∈ other, IsLower key)
    {fields : Fields} (ordered : fields.Ordered) :
    align other (align path fields) = align path (align other fields) := by
  induction path generalizing other fields with
  | nil => exact absurd rfl apart.left_ne_nil
  | cons key rest inductionHypothesis =>
      cases other with
      | nil => exact absurd rfl apart.right_ne_nil
      | cons otherKey otherRest =>
          obtain ⟨keyLower, restLower⟩ := List.forall_mem_cons.mp lower
          obtain ⟨otherKeyLower, otherRestLower⟩ := List.forall_mem_cons.mp otherLower
          by_cases same : folded key = folded otherKey
          -- In lower case the keys are the same, so both paths lead into the same value.
          · obtain rfl := keyLower.eq_of_folded_eq otherKeyLower same
            obtain ⟨next, more, rfl⟩ := List.exists_cons_of_ne_nil apart.tail.left_ne_nil
            obtain ⟨otherNext, otherMore, rfl⟩ := List.exists_cons_of_ne_nil apart.tail.right_ne_nil
            rw [align_align_cons key next otherNext more otherMore ordered.ascending,
              align_align_cons key otherNext next otherMore more ordered.ascending]
            cases found : Fields.get? (step key fields) fields with
            | none => rfl
            | some value =>
                cases value with
                | mapping child =>
                    have below := inductionHypothesis apart.tail restLower otherRestLower
                      ((Fields.ordered_mapping_iff child).mp (ordered.get? found))
                    simp only [alignIn, below]
                | _ => rfl
          · exact align_comm_of_folded_ne same rest otherRest ordered

end Key

end BotConfig
