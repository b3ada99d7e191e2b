import BotConfig.Layer
import BotConfig.Proofs.Fields

/-!
Properties that values have as soon as their parts have them.

Whatever is done to documents keeps such a property: laying one over another, dropping nulls, and
moving a value to another key.  Two of them hold of all that is read: the keys of mappings ascend at
every depth, and whole numbers fit 64 bits.
-/

namespace BotConfig

/-- A number as documents may hold it: a whole number fits 64 bits. -/
def Number.Fits : Number → Prop
  | .integer value => leastInteger ≤ value ∧ value ≤ greatestInteger
  | .real _ => True

namespace Fields

theorem keys_prunedFields_sublist (fields : Fields) :
    (keys (Value.prunedFields fields)).Sublist fields.keys := by
  induction fields with
  | nil => exact .slnil
  | cons entry rest inductionHypothesis =>
      rw [Value.prunedFields]
      split
      · exact .cons _ inductionHypothesis
      · exact .cons_cons _ inductionHypothesis

end Fields

namespace Value

/-- A property that values have when their parts have it.  A mapping keeps it when an entry is put
in at its place and when entries are left out or changed. -/
structure Closed (holds : Value → Prop) : Prop where
  null : holds .null
  boolean : ∀ flag, holds (.boolean flag)
  number : ∀ {number : Number}, number.Fits → holds (.number number)
  text : ∀ content, holds (.text content)
  list : ∀ {items : List Value}, (∀ item ∈ items, holds item) → holds (.list items)
  empty : holds (.mapping [])
  parts : ∀ {fields : Fields}, holds (.mapping fields) → ∀ entry ∈ fields, holds entry.2
  insert : ∀ {fields : Fields} {value : Value}, holds (.mapping fields) → holds value →
    ∀ key, holds (.mapping (Fields.insert key value fields))
  sublist : ∀ {fields others : Fields}, holds (.mapping fields) →
    others.keys.Sublist fields.keys → (∀ entry ∈ others, holds entry.2) → holds (.mapping others)

theorem closed_ordered : Closed Ordered where
  null := .null
  boolean := .boolean
  number _ := .number _
  text := .text
  list := .list
  empty := (Fields.ordered_mapping_iff _).mpr Fields.ordered_nil
  parts ordered := ((Fields.ordered_mapping_iff _).mp ordered).values
  insert ordered valueOrdered key := (Fields.ordered_mapping_iff _).mpr
    (((Fields.ordered_mapping_iff _).mp ordered).insert key valueOrdered)
  sublist ordered keys values :=
    .mapping (((Fields.ordered_mapping_iff _).mp ordered).ascending.sublist keys) values

namespace Closed

variable {holds : Value → Prop} (closed : Closed holds)

include closed

theorem get? {fields : Fields} (given : holds (.mapping fields)) {key : String} {value : Value}
    (found : Fields.get? key fields = some value) : holds value :=
  closed.parts given (key, value) (Fields.mem_of_get?_eq_some found)

theorem mapping {entries : List (String × Value)} (each : ∀ entry ∈ entries, holds entry.2) :
    holds (.mapping (Fields.ofEntries entries)) := by
  refine List.foldlRecOn (motive := fun fields => holds (.mapping fields)) entries _ closed.empty ?_
  intro fields given entry membership
  exact closed.insert given (each entry membership) entry.1

theorem erase {fields : Fields} (given : holds (.mapping fields)) (key : String) :
    holds (.mapping (Fields.erase key fields)) :=
  closed.sublist given ((Fields.erase_sublist key fields).map Prod.fst) fun entry membership =>
    closed.parts given entry (Fields.mem_of_mem_erase membership)

/-! ### Layers -/

mutual

theorem overlay {base : Value} (given : holds base) (patch : Value) (patchHolds : holds patch) :
    holds (Value.overlay base patch) := by
  cases patch with
  | mapping patch =>
      cases base with
      | mapping fields => exact overlayFields given patch (closed.parts patchHolds)
      | _ => exact patchHolds
  | _ => exact patchHolds

theorem overlayFields {base : Fields} (given : holds (.mapping base))
    (patch : List (String × Value)) (each : ∀ entry ∈ patch, holds entry.2) :
    holds (.mapping (Value.overlayFields base patch)) := by
  rcases patch with _ | ⟨⟨key, value⟩, rest⟩
  · exact given
  · obtain ⟨valueHolds, restHold⟩ := List.forall_mem_cons.mp each
    rw [Value.overlayFields]
    refine overlayFields (closed.insert given ?_ key) rest restHold
    split
    · rename_i old found
      exact overlay (closed.get? given found) value valueHolds
    · exact valueHolds

end

theorem foldl_overlay {layers : List Fields} (each : ∀ layer ∈ layers, holds (.mapping layer))
    {base : Fields} (given : holds (.mapping base)) :
    holds (.mapping (layers.foldl Fields.overlay base)) := by
  refine List.foldlRecOn (motive := fun fields => holds (.mapping fields)) layers _ given ?_
  intro fields fieldsHold layer membership
  exact closed.overlayFields fieldsHold layer (closed.parts (each layer membership))

theorem nested {value : Value} (given : holds value) (path : List String) :
    holds (value.nested path) := by
  induction path with
  | nil => exact given
  | cons key rest inductionHypothesis => exact closed.insert closed.empty inductionHypothesis key

theorem fieldsNested {value : Value} (given : holds value) (path : List String) :
    holds (.mapping (Fields.nested path value)) := by
  have atPath := closed.nested given path
  unfold Fields.nested
  split
  · rename_i fields isMapping
    rw [← isMapping]
    exact atPath
  · exact closed.empty

omit closed

/-! ### Dropping nulls -/

mutual

theorem pruned (closed : Closed holds) (value : Value) (given : holds value) :
    holds value.pruned := by
  cases value with
  | mapping fields =>
      exact closed.sublist given (Fields.keys_prunedFields_sublist fields)
        (prunedParts closed fields (closed.parts given))
  | _ => exact given

theorem prunedParts (closed : Closed holds) (fields : List (String × Value))
    (each : ∀ entry ∈ fields, holds entry.2) :
    ∀ entry ∈ Value.prunedFields fields, holds entry.2 := by
  rcases fields with _ | ⟨⟨key, value⟩, rest⟩
  · simp [Value.prunedFields]
  · obtain ⟨valueHolds, restHold⟩ := List.forall_mem_cons.mp each
    have others := prunedParts closed rest restHold
    rw [Value.prunedFields]
    split
    · exact others
    · exact List.forall_mem_cons.mpr ⟨pruned closed value valueHolds, others⟩

end

end Closed

/-! ### Values as readers make them -/

/-- The whole numbers of a value fit 64 bits. -/
inductive Bounded : Value → Prop
  | null : Bounded .null
  | boolean (flag : Bool) : Bounded (.boolean flag)
  | number {number : Number} : number.Fits → Bounded (.number number)
  | text (content : String) : Bounded (.text content)
  | list {items : List Value} : (∀ item ∈ items, Bounded item) → Bounded (.list items)
  | mapping {fields : Fields} : (∀ entry ∈ fields, Bounded entry.2) → Bounded (.mapping fields)

/-- The keys of all mappings ascend, and whole numbers fit 64 bits. -/
structure Regular (value : Value) : Prop where
  ordered : value.Ordered
  bounded : value.Bounded

theorem closed_bounded : Closed Bounded where
  null := .null
  boolean := .boolean
  number := .number
  text := .text
  list := .list
  empty := .mapping (by simp)
  parts := by
    rintro fields ⟨⟩
    assumption
  insert := by
    rintro fields value ⟨⟩ valueBounded key
    rename_i bounded
    refine .mapping fun entry membership => ?_
    rcases Fields.mem_insert membership with same | others
    · rw [same]
      exact valueBounded
    · exact bounded entry others
  sublist _ _ bounded := .mapping bounded

theorem closed_regular : Closed Regular where
  null := ⟨closed_ordered.null, closed_bounded.null⟩
  boolean flag := ⟨closed_ordered.boolean flag, closed_bounded.boolean flag⟩
  number fits := ⟨closed_ordered.number fits, closed_bounded.number fits⟩
  text content := ⟨closed_ordered.text content, closed_bounded.text content⟩
  list items := ⟨closed_ordered.list fun item membership => (items item membership).ordered,
    closed_bounded.list fun item membership => (items item membership).bounded⟩
  empty := ⟨closed_ordered.empty, closed_bounded.empty⟩
  parts regular entry membership := ⟨closed_ordered.parts regular.ordered entry membership,
    closed_bounded.parts regular.bounded entry membership⟩
  insert regular valueRegular key :=
    ⟨closed_ordered.insert regular.ordered valueRegular.ordered key,
      closed_bounded.insert regular.bounded valueRegular.bounded key⟩
  sublist regular keys values :=
    ⟨closed_ordered.sublist regular.ordered keys fun entry membership =>
        (values entry membership).ordered,
      closed_bounded.sublist regular.bounded keys fun entry membership =>
        (values entry membership).bounded⟩

theorem Regular.items {items : List Value} (regular : (list items).Regular) :
    ∀ item ∈ items, item.Regular := by
  obtain ⟨⟨⟩, ⟨⟩⟩ := regular
  rename_i ordered bounded
  exact fun item membership => ⟨ordered item membership, bounded item membership⟩

theorem Regular.fields {fields : Fields} (regular : (mapping fields).Regular) :
    fields.Ordered :=
  (Fields.ordered_mapping_iff fields).mp regular.ordered

end Value

end BotConfig
