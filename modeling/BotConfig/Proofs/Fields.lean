import Mathlib.Tactic.ByContra
import BotConfig.Value

/-!
Mappings as functions of their keys.

A mapping whose keys ascend is determined by the value at each key, so what an operation does to a
mapping is said by one equation about `get?`.  `Value.Ordered` asks for ascending keys in every
mapping of a value, however deep.
-/

namespace BotConfig

namespace Fields

@[simp]
theorem get?_nil (key : String) : get? key [] = none := rfl

@[simp]
theorem get?_cons (key name : String) (value : Value) (rest : Fields) :
    get? key ((name, value) :: rest) = if name = key then some value else get? key rest := rfl

@[simp]
theorem keys_nil : keys [] = [] := rfl

@[simp]
theorem keys_cons (name : String) (value : Value) (rest : Fields) :
    keys ((name, value) :: rest) = name :: keys rest := rfl

theorem get?_append (key : String) (first second : Fields) :
    get? key (first ++ second) = (get? key first).or (get? key second) := by
  induction first with
  | nil => rfl
  | cons entry rest inductionHypothesis =>
      rcases entry with ⟨name, value⟩
      rw [List.cons_append, get?_cons, get?_cons, inductionHypothesis]
      split <;> rfl

theorem get?_eq_none_iff (key : String) (fields : Fields) :
    get? key fields = none ↔ key ∉ fields.keys := by
  induction fields with
  | nil => simp
  | cons entry rest inductionHypothesis =>
      rcases entry with ⟨name, value⟩
      by_cases same : name = key
      · simp [same]
      · simp [same, Ne.symm same, inductionHypothesis]

theorem mem_keys_iff (key : String) (fields : Fields) :
    key ∈ fields.keys ↔ ∃ value, get? key fields = some value := by
  rw [← Option.isSome_iff_exists, Option.isSome_iff_ne_none, ne_eq, get?_eq_none_iff,
    Classical.not_not]

theorem mem_of_get?_eq_some {key : String} {value : Value} {fields : Fields}
    (found : get? key fields = some value) : (key, value) ∈ fields := by
  induction fields with
  | nil => simp at found
  | cons entry rest inductionHypothesis =>
      rcases entry with ⟨name, first⟩
      by_cases same : name = key
      · simp_all
      · simp only [get?_cons, same, if_false] at found
        exact List.mem_cons_of_mem _ (inductionHypothesis found)

/-! ### Ascending keys -/

theorem ascending_nil : Ascending [] := List.Pairwise.nil

theorem ascending_cons_iff (name : String) (value : Value) (rest : Fields) :
    Ascending ((name, value) :: rest) ↔ (∀ other ∈ rest.keys, name < other) ∧ Ascending rest := by
  simp [Ascending]

theorem Ascending.tail {name : String} {value : Value} {rest : Fields}
    (ascending : Ascending ((name, value) :: rest)) : Ascending rest :=
  ((ascending_cons_iff name value rest).mp ascending).2

theorem Ascending.head_notMem {name : String} {value : Value} {rest : Fields}
    (ascending : Ascending ((name, value) :: rest)) : name ∉ rest.keys := by
  intro membership
  exact String.lt_irrefl name
    (((ascending_cons_iff name value rest).mp ascending).1 name membership)

/-- The first key of an ascending mapping is found in no mapping whose keys are all greater. -/
theorem Ascending.get?_tail_head {name : String} {value : Value} {rest : Fields}
    (ascending : Ascending ((name, value) :: rest)) : get? name rest = none :=
  (get?_eq_none_iff name rest).mpr ascending.head_notMem

/-- Ascending mappings with the same value at each key are the same. -/
theorem eq_of_get?_eq {first second : Fields} (firstAscending : Ascending first)
    (secondAscending : Ascending second)
    (same : ∀ key, get? key first = get? key second) : first = second := by
  induction first generalizing second with
  | nil =>
      cases second with
      | nil => rfl
      | cons entry rest =>
          rcases entry with ⟨name, value⟩
          simpa using same name
  | cons entry rest inductionHypothesis =>
      rcases entry with ⟨name, value⟩
      cases second with
      | nil => simpa using same name
      | cons otherEntry otherRest =>
          rcases otherEntry with ⟨otherName, otherValue⟩
          have firstParts := (ascending_cons_iff name value rest).mp firstAscending
          have secondParts := (ascending_cons_iff otherName otherValue otherRest).mp secondAscending
          have sameName : name = otherName := by
            -- Otherwise each of the two names would come after the other.
            by_contra different
            have inOther : name ∈ keys otherRest := by
              have found := same name
              simp only [get?_cons, if_true, Ne.symm different, if_false] at found
              exact (mem_keys_iff name otherRest).mpr ⟨value, found.symm⟩
            have inRest : otherName ∈ keys rest := by
              have found := same otherName
              simp only [get?_cons, if_true, different, if_false] at found
              exact (mem_keys_iff otherName rest).mpr ⟨otherValue, found⟩
            exact String.lt_asymm (firstParts.1 otherName inRest) (secondParts.1 name inOther)
          subst sameName
          have sameValue : value = otherValue := by simpa using same name
          subst sameValue
          have sameRest : rest = otherRest := by
            apply inductionHypothesis firstParts.2 secondParts.2
            intro key
            by_cases atHead : name = key
            · subst atHead
              rw [firstAscending.get?_tail_head, secondAscending.get?_tail_head]
            · simpa [atHead] using same key
          rw [sameRest]

/-! ### Changing one key -/

theorem get?_insert (key other : String) (value : Value) (fields : Fields) :
    get? other (insert key value fields) =
      if key = other then some value else get? other fields := by
  induction fields with
  | nil => simp [insert]
  | cons entry rest inductionHypothesis =>
      rcases entry with ⟨name, old⟩
      by_cases atHead : name = key
      · subst atHead
        by_cases same : name = other <;> simp [insert, same]
      · by_cases before : key < name
        · have inserted : insert key value ((name, old) :: rest) =
              (key, value) :: (name, old) :: rest := by
            simp [insert, atHead, before]
          rw [inserted, get?_cons]
        · by_cases here : name = other
          · subst here
            simp [insert, atHead, Ne.symm atHead, before]
          · simp [insert, atHead, before, here, inductionHypothesis]

@[simp]
theorem get?_insert_self (key : String) (value : Value) (fields : Fields) :
    get? key (insert key value fields) = some value := by
  simp [get?_insert]

theorem get?_insert_of_ne {key other : String} (different : key ≠ other) (value : Value)
    (fields : Fields) : get? other (insert key value fields) = get? other fields := by
  simp [get?_insert, different]

theorem mem_keys_insert_iff (key other : String) (value : Value) (fields : Fields) :
    other ∈ keys (insert key value fields) ↔ other = key ∨ other ∈ keys fields := by
  simp only [mem_keys_iff, get?_insert]
  by_cases same : key = other
  · simp [same]
  · simp [same, Ne.symm same]

theorem mem_insert {key : String} {value : Value} {fields : Fields} {entry : String × Value}
    (membership : entry ∈ insert key value fields) : entry = (key, value) ∨ entry ∈ fields := by
  induction fields with
  | nil => simpa [insert] using membership
  | cons first rest inductionHypothesis =>
      rcases first with ⟨name, old⟩
      simp only [insert] at membership
      split at membership
      · rcases List.mem_cons.mp membership with equality | inRest
        · exact .inl equality
        · exact .inr (List.mem_cons_of_mem _ inRest)
      · split at membership
        · rcases List.mem_cons.mp membership with equality | inFields
          · exact .inl equality
          · exact .inr inFields
        · rcases List.mem_cons.mp membership with equality | inserted
          · exact .inr (by simp [equality])
          · exact (inductionHypothesis inserted).imp_right (List.mem_cons_of_mem _)

theorem Ascending.insert {fields : Fields} (ascending : Ascending fields) (key : String)
    (value : Value) : Ascending (insert key value fields) := by
  induction fields with
  | nil => simp [Fields.insert, Ascending]
  | cons entry rest inductionHypothesis =>
      rcases entry with ⟨name, old⟩
      have parts := (ascending_cons_iff name old rest).mp ascending
      by_cases atHead : name = key
      · subst atHead
        simpa [Fields.insert, ascending_cons_iff] using parts
      · by_cases before : key < name
        · simp only [Fields.insert, atHead, before, if_true, if_false]
          refine (ascending_cons_iff key value _).mpr ⟨?_, ascending⟩
          intro other membership
          rcases List.mem_cons.mp membership with equality | inRest
          · exact equality ▸ before
          · exact String.lt_trans before (parts.1 other inRest)
        · simp only [Fields.insert, atHead, before, if_false]
          refine (ascending_cons_iff name old _).mpr ⟨?_, inductionHypothesis parts.2⟩
          intro other membership
          rcases (mem_keys_insert_iff key other value rest).mp membership with equality | inRest
          · -- The inserted key differs from the head and is not before it.
            subst equality
            by_contra notBefore
            exact atHead (String.le_antisymm before notBefore)
          · exact parts.1 other inRest

/-- Putting a value where it already is changes nothing. -/
theorem Ascending.insert_of_get?_eq_some {key : String} {value : Value} {fields : Fields}
    (ascending : Ascending fields) (found : Fields.get? key fields = some value) :
    Fields.insert key value fields = fields := by
  apply eq_of_get?_eq (ascending.insert key value) ascending
  intro other
  by_cases same : key = other
  · subst same
    rw [get?_insert_self, found]
  · rw [get?_insert_of_ne same]

theorem erase_sublist (key : String) (fields : Fields) : (erase key fields).Sublist fields := by
  induction fields with
  | nil => exact .slnil
  | cons entry rest inductionHypothesis =>
      rw [erase]
      split
      · exact .cons _ (.refl _)
      · exact .cons_cons _ inductionHypothesis

theorem mem_of_mem_erase {key : String} {fields : Fields} {entry : String × Value}
    (membership : entry ∈ erase key fields) : entry ∈ fields :=
  (erase_sublist key fields).mem membership

theorem Ascending.erase {fields : Fields} (ascending : Ascending fields) (key : String) :
    Ascending (erase key fields) :=
  ascending.sublist ((erase_sublist key fields).map Prod.fst)

theorem get?_erase_of_ne {key other : String} (different : key ≠ other) (fields : Fields) :
    get? other (erase key fields) = get? other fields := by
  induction fields with
  | nil => rfl
  | cons entry rest inductionHypothesis =>
      rcases entry with ⟨name, value⟩
      by_cases atHead : name = key
      · subst atHead
        simp [erase, different]
      · simp [erase, atHead, inductionHypothesis]

theorem Ascending.get?_erase {fields : Fields} (ascending : Ascending fields)
    (key other : String) :
    get? other (Fields.erase key fields) = if key = other then none else get? other fields := by
  by_cases same : key = other
  · subst same
    rw [if_pos rfl]
    induction fields with
    | nil => rfl
    | cons entry rest inductionHypothesis =>
        rcases entry with ⟨name, value⟩
        by_cases atHead : name = key
        · subst atHead
          simp [Fields.erase, ascending.get?_tail_head]
        · simp [Fields.erase, atHead, inductionHypothesis ascending.tail]
  · rw [if_neg same, get?_erase_of_ne same]

end Fields

/-! ### Order at every depth -/

/-- The keys of every mapping of a value ascend. -/
inductive Value.Ordered : Value → Prop where
  | null : Ordered .null
  | boolean (flag : Bool) : Ordered (.boolean flag)
  | number (value : Number) : Ordered (.number value)
  | text (content : String) : Ordered (.text content)
  | list {items : List Value} : (∀ item ∈ items, Ordered item) → Ordered (.list items)
  | mapping {fields : Fields} :
      fields.Ascending → (∀ entry ∈ fields, Ordered entry.2) → Ordered (.mapping fields)

namespace Fields

/-- The keys of a mapping, and of every mapping in it, ascend. -/
structure Ordered (fields : Fields) : Prop where
  ascending : fields.Ascending
  values : ∀ entry ∈ fields, entry.2.Ordered

theorem ordered_mapping_iff (fields : Fields) :
    (Value.mapping fields).Ordered ↔ fields.Ordered := by
  constructor
  · rintro (_ | _ | _ | _ | _ | ⟨ascending, values⟩)
    exact ⟨ascending, values⟩
  · rintro ⟨ascending, values⟩
    exact .mapping ascending values

theorem ordered_nil : Ordered [] := ⟨ascending_nil, by simp⟩

theorem Ordered.get? {fields : Fields} (ordered : fields.Ordered) {key : String} {value : Value}
    (found : get? key fields = some value) : value.Ordered :=
  ordered.values (key, value) (mem_of_get?_eq_some found)

theorem Ordered.ordered_getD_get? {fields : Fields} (ordered : fields.Ordered) (key : String) :
    ((Fields.get? key fields).getD .null).Ordered := by
  cases found : Fields.get? key fields with
  | none => exact .null
  | some value => exact ordered.get? found

theorem Ordered.insert {fields : Fields} (ordered : fields.Ordered) (key : String) {value : Value}
    (valueOrdered : value.Ordered) : Ordered (Fields.insert key value fields) := by
  refine ⟨ordered.ascending.insert key value, ?_⟩
  intro entry membership
  rcases mem_insert membership with rfl | inFields
  · exact valueOrdered
  · exact ordered.values entry inFields

theorem Ordered.erase {fields : Fields} (ordered : fields.Ordered) (key : String) :
    Ordered (Fields.erase key fields) :=
  ⟨ordered.ascending.erase key, fun entry membership =>
    ordered.values entry (mem_of_mem_erase membership)⟩

end Fields

/-! ### Sorting -/

namespace Fields

theorem get?_sortedFields (key : String) (fields : Fields) :
    get? key (Value.sortedFields fields) = (get? key fields).map Value.sorted := by
  induction fields with
  | nil => rfl
  | cons entry rest inductionHypothesis =>
      rcases entry with ⟨name, value⟩
      rw [Value.sortedFields, get?_insert, get?_cons, inductionHypothesis]
      split <;> rfl

theorem ascending_sortedFields (fields : Fields) : Ascending (Value.sortedFields fields) := by
  induction fields with
  | nil => exact ascending_nil
  | cons entry rest inductionHypothesis => exact inductionHypothesis.insert entry.1 _

end Fields

/-! ### Equality -/

namespace Value

mutual

/-- Whether two values are the same, also in the kinds of their numbers. -/
def same : Value → Value → Bool
  | .null, .null => true
  | .boolean first, .boolean second => first == second
  | .number first, .number second => first == second
  | .text first, .text second => first == second
  | .list first, .list second => sameItems first second
  | .mapping first, .mapping second => sameFields first second
  | _, _ => false

/-- Whether two lists are the same. -/
def sameItems : List Value → List Value → Bool
  | [], [] => true
  | item :: rest, other :: others => item.same other && sameItems rest others
  | _, _ => false

/-- Whether two mappings are the same. -/
def sameFields : List (String × Value) → List (String × Value) → Bool
  | [], [] => true
  | (key, value) :: rest, (otherKey, other) :: others =>
      key == otherKey && value.same other && sameFields rest others
  | _, _ => false

end

mutual

theorem same_iff (first second : Value) : first.same second = true ↔ first = second := by
  cases first <;> cases second <;> simp [same, sameItems_iff, sameFields_iff]

theorem sameItems_iff (first second : List Value) :
    sameItems first second = true ↔ first = second := by
  cases first <;> cases second <;> simp [sameItems, same_iff, sameItems_iff]

theorem sameFields_iff (first second : List (String × Value)) :
    sameFields first second = true ↔ first = second := by
  rcases first with _ | ⟨⟨key, value⟩, rest⟩ <;>
    rcases second with _ | ⟨⟨otherKey, otherValue⟩, otherRest⟩ <;>
    simp [sameFields, same_iff, sameFields_iff]

end

instance : DecidableEq Value := fun first second => decidable_of_iff _ (same_iff first second)

end Value

end BotConfig
