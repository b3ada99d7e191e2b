import BotConfig.Proofs.Alike

/-!
What alignment moves.

Alignment along a path moves at most one value, to another spelling of its key beside it, and the
value that stood there is lost.  No other value comes or goes.  Once the value has moved, nothing
stands at its old place, so that a second alignment along the path finds nothing to move.
-/

namespace BotConfig

/-! ### Values of a mapping -/

namespace Value

mutual

/-- The values inside of a value that have no entries of their own. -/
def leaves : Value → List Value
  | .mapping [] => [.mapping []]
  | .mapping (entry :: rest) => leavesOf (entry :: rest)
  | value => [value]

/-- The leaves of all entries of a mapping. -/
def leavesOf : List (String × Value) → List Value
  | [] => []
  | (_, value) :: rest => value.leaves ++ leavesOf rest

end

theorem leaves_mapping {fields : Fields} (nonempty : fields ≠ []) :
    (mapping fields).leaves = leavesOf fields := by
  cases fields with
  | nil => exact absurd rfl nonempty
  | cons entry rest => rw [leaves]

theorem leavesOf_eq_flatMap (fields : Fields) :
    leavesOf fields = (fields.map Prod.snd).flatMap leaves := by
  induction fields with
  | nil => rw [leavesOf, List.map_nil, List.flatMap_nil]
  | cons entry rest inductionHypothesis =>
      rw [leavesOf, inductionHypothesis, List.map_cons, List.flatMap_cons]

end Value

namespace Fields

/-- The values at the keys of a mapping. -/
def values (fields : Fields) : List Value := fields.map Prod.snd

variable {key other : String} {value old : Value} {fields : Fields}

/-- A value that is dropped was one of the values. -/
theorem perm_values_erase (found : get? key fields = some value) :
    fields.values.Perm (value :: (erase key fields).values) := by
  induction fields with
  | nil => cases found
  | cons entry rest inductionHypothesis =>
      rcases entry with ⟨name, first⟩
      rw [get?_cons] at found
      by_cases here : name = key
      · rw [if_pos here] at found
        cases found
        rw [erase, if_pos here]
        exact .refl _
      · rw [if_neg here] at found
        rw [erase, if_neg here]
        exact ((inductionHypothesis found).cons first).trans (.swap value first _)

/-- A value at a new key is one more value. -/
theorem perm_values_insert (missing : get? key fields = none) :
    (insert key value fields).values.Perm (value :: fields.values) := by
  induction fields with
  | nil => exact .refl _
  | cons entry rest inductionHypothesis =>
      rcases entry with ⟨name, first⟩
      rw [get?_cons] at missing
      by_cases here : name = key
      · rw [if_pos here] at missing
        cases missing
      · rw [if_neg here] at missing
        rw [insert, if_neg here]
        split
        · exact .refl _
        · exact ((inductionHypothesis missing).cons first).trans (.swap value first _)

/-- What is put at a key takes the place of what was there. -/
theorem insert_erase (ascending : fields.Ascending) (key : String) (value : Value) :
    insert key value (erase key fields) = insert key value fields := by
  apply eq_of_get?_eq ((ascending.erase key).insert key value) (ascending.insert key value)
  intro other
  rw [get?_insert, get?_insert]
  split
  · rfl
  · rename_i different
    exact get?_erase_of_ne different fields

theorem perm_values_replace (ascending : fields.Ascending) (key : String) (value : Value) :
    (insert key value fields).values.Perm (value :: (erase key fields).values) := by
  rw [← insert_erase ascending]
  apply perm_values_insert
  rw [ascending.get?_erase, if_pos rfl]

/-- The leaves of a mapping are those below one of its keys and those below the others. -/
theorem perm_leavesOf_erase (found : get? key fields = some value) :
    (Value.leavesOf fields).Perm (value.leaves ++ Value.leavesOf (erase key fields)) := by
  rw [Value.leavesOf_eq_flatMap, Value.leavesOf_eq_flatMap]
  exact (perm_values_erase found).flatMap_right Value.leaves

theorem perm_leavesOf_replace (ascending : fields.Ascending) (key : String) (value : Value) :
    (Value.leavesOf (insert key value fields)).Perm
      (value.leaves ++ Value.leavesOf (erase key fields)) := by
  rw [Value.leavesOf_eq_flatMap, Value.leavesOf_eq_flatMap]
  exact (perm_values_replace ascending key value).flatMap_right Value.leaves

end Fields

namespace Key

open Fields (get?)

variable {key next name other : String} {path outer rest : List String} {fields child : Fields}

/-! ### The one move -/

/-- A value has moved to another spelling of its key, and the value that stood there is lost: all
other leaves are kept. -/
structure Overwrites (outer : List String) (name other : String) (moved lost : Value)
    (before after : Fields) : Prop where
  different : other ≠ name
  folds : folded other = folded name
  moves : (Value.mapping before).atPath? (outer ++ [name]) = some moved
  loses : (Value.mapping before).atPath? (outer ++ [other]) = some lost
  lands : (Value.mapping after).atPath? (outer ++ [other]) = some moved
  vacates : (Value.mapping after).atPath? (outer ++ [name]) = none
  keeps : (Value.leavesOf before).Perm (Value.leavesOf after ++ lost.leaves)

theorem atPath?_singleton (fields : Fields) (key : String) :
    (Value.mapping fields).atPath? [key] = get? key fields :=
  Value.atPath?_append_singleton (Value.atPath?_nil _) key

/-- One step: at the last key a value moves if another spelling is beside it. -/
theorem overwrites_last {moved : Value} (ascending : fields.Ascending)
    (spelled : variant? key fields = some other) (found : get? key fields = some moved) :
    ∃ lost, Overwrites [] key other moved lost fields
      (Fields.insert other moved (Fields.erase key fields)) := by
  obtain ⟨isKey, different, folds⟩ := variant?_eq_some spelled
  obtain ⟨lost, atOther⟩ := (Fields.mem_keys_iff other fields).mp isKey
  have stillThere : get? other (Fields.erase key fields) = some lost := by
    rw [Fields.get?_erase_of_ne different.symm, atOther]
  refine ⟨lost, different, folds, ?_, ?_, ?_, ?_, ?_⟩
  · rw [List.nil_append, atPath?_singleton, found]
  · rw [List.nil_append, atPath?_singleton, atOther]
  · rw [List.nil_append, atPath?_singleton, Fields.get?_insert_self]
  · rw [List.nil_append, atPath?_singleton, Fields.get?_insert_of_ne different,
      ascending.get?_erase, if_pos rfl]
  · -- Both mappings hold the moved value and what is left without the two spellings.
    have before := (Fields.perm_leavesOf_erase found).trans
      ((Fields.perm_leavesOf_erase stillThere).append_left moved.leaves)
    have after := Fields.perm_leavesOf_replace (ascending.erase key) other moved
    refine before.trans (.trans ?_ (after.append_right lost.leaves).symm)
    rw [List.append_assoc]
    exact List.perm_append_comm.append_left moved.leaves

/-- One step: a move below a key is a move. -/
theorem Overwrites.below {moved lost : Value} {changed : Fields} (ascending : fields.Ascending)
    (found : get? key fields = some (.mapping child))
    (overwrites : Overwrites outer name other moved lost child changed) :
    Overwrites (key :: outer) name other moved lost fields
      (Fields.insert key (.mapping changed) fields) := by
  have before (ending : String) : (Value.mapping fields).atPath? (key :: outer ++ [ending]) =
      (Value.mapping child).atPath? (outer ++ [ending]) := by
    rw [List.cons_append, Value.atPath?_cons, Value.entries, found, Option.bind_some]
  have after (ending : String) :
      (Value.mapping (Fields.insert key (.mapping changed) fields)).atPath?
        (key :: outer ++ [ending]) = (Value.mapping changed).atPath? (outer ++ [ending]) := by
    rw [List.cons_append, Value.atPath?_cons, Value.entries, Fields.get?_insert_self,
      Option.bind_some]
  have nonempty {mapping : Fields} {ending : String} {value : Value}
      (reached : (Value.mapping mapping).atPath? (outer ++ [ending]) = some value) :
      mapping ≠ [] := by
    rintro rfl
    cases outer <;> cases reached
  refine ⟨overwrites.different, overwrites.folds, ?_, ?_, ?_, ?_, ?_⟩
  · rw [before, overwrites.moves]
  · rw [before, overwrites.loses]
  · rw [after, overwrites.lands]
  · rw [after, overwrites.vacates]
  · have inside := overwrites.keeps
    rw [← Value.leaves_mapping (nonempty overwrites.moves),
      ← Value.leaves_mapping (nonempty overwrites.lands)] at inside
    have whole := Fields.perm_leavesOf_erase found
    have changedWhole := Fields.perm_leavesOf_replace ascending key (.mapping changed)
    refine whole.trans ((inside.append_right _).trans ?_)
    refine .trans ?_ (changedWhole.append_right lost.leaves).symm
    rw [List.append_assoc, List.append_assoc]
    exact List.perm_append_comm.append_left _

/-- The whole way: alignment changes nothing or moves one value, whose place is spelled as the path
is up to case. -/
theorem align_eq_self_or_overwrites (path : List String) (ordered : fields.Ordered) :
    align path fields = fields ∨ ∃ outer name other moved lost,
      (outer ++ [name]).map folded = path.map folded ∧ path.getLast? = some name ∧
        Overwrites outer name other moved lost fields (align path fields) := by
  induction path generalizing fields with
  | nil => exact .inl rfl
  | cons key rest inductionHypothesis =>
      cases rest with
      | nil =>
          rw [align_last ordered.ascending]
          split
          · rename_i other moved spelled found
            obtain ⟨lost, overwrites⟩ := overwrites_last ordered.ascending spelled found
            exact .inr ⟨[], key, other, moved, lost, rfl, rfl, overwrites⟩
          · exact .inl rfl
      | cons next others =>
          rw [align_cons]
          split
          · rename_i child found
            obtain same | ⟨outer, name, other, moved, lost, spelled, isLast, overwrites⟩ :=
              inductionHypothesis ((Fields.ordered_mapping_iff child).mp (ordered.get? found))
            · rw [same]
              exact .inl (ordered.ascending.insert_of_get?_eq_some found)
            · refine .inr ⟨step key fields :: outer, name, other, moved, lost, ?_, ?_,
                overwrites.below ordered.ascending found⟩
              · rw [List.cons_append, List.map_cons, spelled, folded_step, ← List.map_cons]
              · rw [List.getLast?_cons_cons, isLast]
          · exact .inl rfl

/-! ### Nothing to move -/

/-- At no level of the walk along a path is there a key that differs from that of the path only in
case. -/
def Unvaried (path : List String) (fields : Fields) : Prop :=
  ∀ outer name, outer ++ [name] <+: path →
    ∀ key ∈ ((Value.mapping fields).entriesAt outer).keys, folded key = folded name → key = name

theorem Unvaried.variant?_eq_none (unvaried : Unvaried (key :: rest) fields) :
    variant? key fields = none :=
  (variant?_eq_none_iff key fields).mpr
    (unvaried [] key (List.cons_prefix_cons.mpr ⟨rfl, List.nil_prefix⟩))

theorem Unvaried.below (unvaried : Unvaried (key :: rest) fields)
    (found : get? key fields = some (.mapping child)) : Unvaried rest child := by
  intro outer name isPrefix
  have inside := unvaried (key :: outer) name (List.cons_prefix_cons.mpr ⟨rfl, isPrefix⟩)
  rw [Value.entriesAt, Value.atPath?_cons, Value.entries, found] at inside
  exact inside

theorem Unvaried.align_eq_self (unvaried : Unvaried path fields) (ordered : fields.Ordered) :
    align path fields = fields := by
  induction path generalizing fields with
  | nil => rfl
  | cons key rest inductionHypothesis =>
      have alone := unvaried.variant?_eq_none
      cases rest with
      | nil => rw [align_last ordered.ascending, alone]
      | cons next others =>
          have followed : step key fields = key := by
            rw [step, alone]
          rw [align_cons, followed]
          split
          · rename_i child found
            rw [inductionHypothesis (unvaried.below found)
              ((Fields.ordered_mapping_iff child).mp (ordered.get? found))]
            exact ordered.ascending.insert_of_get?_eq_some found
          · rfl

/-! ### A second alignment -/

theorem align_last_eq_self_of_none (ascending : fields.Ascending)
    (absent : get? key fields = none) : align [key] fields = fields := by
  rw [align_last ascending, absent]
  cases variant? key fields <;> rfl

/-- Changing what stands at a key that is there changes no choice between spellings. -/
theorem step_insert (key : String) (value : Value) {old : Value} (ascending : fields.Ascending)
    (found : get? name fields = some old) :
    step key (Fields.insert name value fields) = step key fields := by
  have alike : Fields.Alike (fun _ _ _ => True) (Fields.insert name value fields) fields := by
    intro spelling
    by_cases here : name = spelling
    · subst here
      exact .inr ⟨value, old, Fields.get?_insert_self _ _ _, found, trivial⟩
    · exact .inl (Fields.get?_insert_of_ne here value fields)
  exact alike.step_eq (ascending.insert name value) ascending key

/-- Alignment along a path that has been aligned changes nothing. -/
theorem align_align (path : List String) (ordered : fields.Ordered) :
    align path (align path fields) = align path fields := by
  induction path generalizing fields with
  | nil => rfl
  | cons key rest inductionHypothesis =>
      have ascending := ordered.ascending
      cases rest with
      | nil =>
          rw [align_last ascending]
          split
          · rename_i other moved spelled found
            have different := (variant?_eq_some spelled).2.1
            apply align_last_eq_self_of_none ((ascending.erase key).insert other moved)
            rw [Fields.get?_insert_of_ne different, ascending.get?_erase, if_pos rfl]
          · rename_i stays
            rw [align_last ascending]
            split
            · rename_i other moved spelled found
              exact absurd found (stays other moved spelled)
            · rfl
      | cons next others =>
          rw [align_cons key next others fields]
          split
          · rename_i child found
            have childOrdered := (Fields.ordered_mapping_iff child).mp (ordered.get? found)
            have again := inductionHypothesis childOrdered
            have sameStep :=
              step_insert key (.mapping (align (next :: others) child)) ascending found
            rw [align_cons, sameStep, Fields.get?_insert_self]
            dsimp only
            rw [again]
            exact (ascending.insert _ _).insert_of_get?_eq_some (Fields.get?_insert_self _ _ _)
          · rename_i noMapping
            rw [align_cons]
            split
            · rename_i child found
              exact absurd found (noMapping child)
            · rfl

/-! ### All together -/

/-- What alignment along a path does to a mapping.  Places that lead away from the path, also when
case makes no difference, are left alone.  Where no level of the walk has another spelling of the
key, nothing changes.  In any case at most one value moves, to another spelling of its key, and only
the value that stood there is lost.  A second alignment changes nothing. -/
theorem align_moves_one (path : List String) (ordered : fields.Ordered) :
    (∀ other, Apart (path.map folded) (other.map folded) →
      (Value.mapping (align path fields)).atPath? other =
        (Value.mapping fields).atPath? other) ∧
    (Unvaried path fields → align path fields = fields) ∧
    (align path fields = fields ∨ ∃ outer name other moved lost,
      (outer ++ [name]).map folded = path.map folded ∧ path.getLast? = some name ∧
        Overwrites outer name other moved lost fields (align path fields)) ∧
    align path (align path fields) = align path fields :=
  ⟨fun _ apart => atPath?_align_of_apart apart ordered,
    fun unvaried => unvaried.align_eq_self ordered,
    align_eq_self_or_overwrites path ordered, align_align path ordered⟩

/-- The settings of a server with two spellings of one key. -/
def twoSpellings : Fields :=
  Fields.insert "api_server" (.mapping
    (Fields.insert "CORS_origins" (.text "http://old")
      (Fields.insert "cors_origins" (.text "http://a")
        (Fields.insert "enabled" (.boolean true) [])))) []

theorem align_moves_one_origins :
    twoSpellings.Ordered ∧
    Apart (["api_server", "cors_origins"].map folded) (["API_server", "enabled"].map folded) ∧
    (Value.mapping (align ["api_server", "cors_origins"] twoSpellings)).atPath?
        ["API_server", "enabled"] = (Value.mapping twoSpellings).atPath? ["API_server", "enabled"] ∧
    Unvaried ["api_server"] twoSpellings ∧ align ["api_server"] twoSpellings = twoSpellings ∧
    align ["api_server", "cors_origins"] twoSpellings ≠ twoSpellings ∧
    align ["api_server", "cors_origins"] (align ["api_server", "cors_origins"] twoSpellings) =
      align ["api_server", "cors_origins"] twoSpellings := by
  have inside := ((Fields.ordered_nil.insert "enabled" (.boolean true)).insert "cors_origins"
    (.text "http://a")).insert "CORS_origins" (.text "http://old")
  have ordered : twoSpellings.Ordered :=
    Fields.ordered_nil.insert "api_server" ((Fields.ordered_mapping_iff _).mpr inside)
  have apart : Apart (["api_server", "cors_origins"].map folded)
      (["API_server", "enabled"].map folded) := by
    constructor <;> decide +kernel
  have unvaried : Unvaried ["api_server"] twoSpellings := by
    intro outer name isPrefix key isKey _
    obtain ⟨rfl, rfl⟩ : outer = [] ∧ name = "api_server" := by
      cases outer with
      | nil => exact ⟨rfl, (List.cons_prefix_cons.mp isPrefix).1⟩
      | cons first more =>
          have empty := List.prefix_nil.mp (List.cons_prefix_cons.mp isPrefix).2
          simp at empty
    exact List.mem_singleton.mp isKey
  obtain ⟨frame, -, -, again⟩ := align_moves_one ["api_server", "cors_origins"] ordered
  obtain ⟨-, idle, -, -⟩ := align_moves_one ["api_server"] ordered
  exact ⟨ordered, apart, frame _ apart, unvaried, idle unvaried, by decide +kernel, again⟩

end Key

end BotConfig
