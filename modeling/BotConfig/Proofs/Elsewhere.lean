import BotConfig.Proofs.Alike

/-!
Documents that differ at one path only.

An override can change what stands at its path, under every spelling of the path.  Two documents
that hold the same elsewhere still do so after alignment, also when one of them is aligned along the
path and the other is not.
-/

namespace BotConfig

open Key

/-! ### Spellings of a key -/

/-- A mapping has no key that differs at most in case from a given one. -/
def Key.Unspelled (key : String) (fields : Fields) : Prop :=
  ∀ other, folded other = folded key → Fields.get? other fields = none

/-- Alignment neither brings a key into a mapping nor takes all of its spellings away. -/
theorem Key.unspelled_align_iff {key : String} {fields : Fields} (ordered : fields.Ordered)
    (path : List String) : Unspelled key (align path fields) ↔ Unspelled key fields := by
  cases path with
  | nil => rfl
  | cons first rest =>
      by_cases different : folded first ≠ folded key
      · have same : ∀ other, folded other = folded key →
            Fields.get? other (align (first :: rest) fields) = Fields.get? other fields :=
          fun other folds => get?_align_of_folded_ne (folds ▸ different) rest ordered
        exact forall₂_congr fun other folds => by rw [same other folds]
      · have sameFolded : folded first = folded key := Decidable.not_not.mp different
        -- Only a value that is there is moved or changed, and it stays under some spelling.
        have idle : Unspelled key fields → align (first :: rest) fields = fields := by
          intro unspelled
          cases rest with
          | nil =>
              rw [align_last ordered.ascending, unspelled first sameFolded]
              cases variant? first fields <;> rfl
          | cons next others =>
              rw [align_cons, unspelled _ ((folded_step first fields).trans sameFolded)]
        refine ⟨fun unspelled => ?_, fun unspelled => by rwa [idle unspelled]⟩
        cases rest with
        | nil =>
            rw [align_last ordered.ascending] at unspelled
            split at unspelled
            · rename_i other value spelled _
              have there := unspelled other ((variant?_eq_some spelled).2.2.trans sameFolded)
              rw [Fields.get?_insert_self] at there
              cases there
            · exact unspelled
        | cons next others =>
            rw [align_cons] at unspelled
            split at unspelled
            · have there := unspelled _ ((folded_step first fields).trans sameFolded)
              rw [Fields.get?_insert_self] at there
              cases there
            · exact unspelled

namespace Fields

/-! ### Mappings that differ at one path -/

/-- Two mappings hold the same, but for what stands at the spellings of a path.  The first one has
something there only if the second one does. -/
def Elsewhere : List String → Fields → Fields → Prop
  | [], _, _ => True
  | [key], first, second =>
      (∀ other, folded other ≠ folded key → get? other first = get? other second) ∧
      (Unspelled key second → Unspelled key first)
  | key :: next :: rest, first, second =>
      (∀ other, folded other ≠ folded key → get? other first = get? other second) ∧
      ∀ other, folded other = folded key → get? other first = get? other second ∨
        ∃ child otherChild, get? other first = some (.mapping child) ∧
          get? other second = some (.mapping otherChild) ∧
          Elsewhere (next :: rest) child otherChild

variable {path : List String} {key next : String} {rest : List String} {first second : Fields}

theorem Elsewhere.refl (path : List String) (fields : Fields) : Elsewhere path fields fields := by
  match path with
  | [] => exact trivial
  | [_] => exact ⟨fun _ _ => rfl, id⟩
  | _ :: _ :: _ => exact ⟨fun _ _ => rfl, fun _ _ => .inl rfl⟩

theorem Elsewhere.get?_eq (elsewhere : Elsewhere (key :: rest) first second) {other : String}
    (different : folded other ≠ folded key) : get? other first = get? other second := by
  cases rest with
  | nil => exact elsewhere.1 other different
  | cons next rest => exact elsewhere.1 other different

/-- Before the last key the two mappings have the same keys. -/
theorem Elsewhere.alike (elsewhere : Elsewhere (key :: next :: rest) first second) :
    Alike (fun _ _ _ => True) first second := by
  intro other
  by_cases different : folded other ≠ folded key
  · exact .inl (elsewhere.1 other different)
  · obtain same | ⟨child, otherChild, found, otherFound, _⟩ :=
      elsewhere.2 other (Decidable.not_not.mp different)
    · exact .inl same
    · exact .inr ⟨_, _, found, otherFound, trivial⟩

/-- Two values under one key are the same, or mappings that differ at one path. -/
def ElsewhereIn (path : List String) (value other : Option Value) : Prop :=
  value = other ∨ ∃ child otherChild, value = some (.mapping child) ∧
    other = some (.mapping otherChild) ∧ Elsewhere path child otherChild

/-- What stands under the spellings of a key may differ at one path. -/
def Around (path : List String) (key : String) (first second : Fields) : Prop :=
  ∀ other, folded other = folded key →
    ElsewhereIn path (get? other first) (get? other second)

theorem Elsewhere.around (elsewhere : Elsewhere (key :: next :: rest) first second) :
    Around (next :: rest) key first second := elsewhere.2

theorem ElsewhereIn.none_or_some {value other : Option Value}
    (elsewhere : ElsewhereIn path value other) :
    (value = none ∧ other = none) ∨ ∃ content otherContent, value = some content ∧
      other = some otherContent ∧ ElsewhereIn path (some content) (some otherContent) := by
  obtain same | ⟨child, otherChild, found, otherFound, below⟩ := elsewhere
  · subst same
    cases value with
    | none => exact .inl ⟨rfl, rfl⟩
    | some content => exact .inr ⟨content, content, rfl, rfl, .inl rfl⟩
  · exact .inr ⟨_, _, found, otherFound, .inr ⟨child, otherChild, rfl, rfl, below⟩⟩

theorem Around.insert (around : Around path key first second) {value other : Value}
    (put : ElsewhereIn path (some value) (some other)) (name : String) :
    Around path key (Fields.insert name value first) (Fields.insert name other second) := by
  intro spelling folds
  rw [get?_insert, get?_insert]
  split
  · exact put
  · exact around spelling folds

theorem Around.erase (around : Around path key first second) (ascending : first.Ascending)
    (otherAscending : second.Ascending) (name : String) :
    Around path key (Fields.erase name first) (Fields.erase name second) := by
  intro spelling folds
  rw [ascending.get?_erase, otherAscending.get?_erase]
  split
  · exact .inl rfl
  · exact around spelling folds

/-! ### Alignment -/

theorem Around.align_last (around : Around path key first second) (ordered : first.Ordered)
    (otherOrdered : second.Ordered) {name : String} (folds : folded name = folded key)
    (sameVariant : variant? name first = variant? name second) :
    Around path key (Key.align [name] first) (Key.align [name] second) := by
  rw [Key.align_last ordered.ascending, Key.align_last otherOrdered.ascending, ← sameVariant]
  cases variant? name first with
  | none => exact around
  | some variant =>
      obtain ⟨none, otherNone⟩ | ⟨value, other, found, otherFound, put⟩ :=
        (around name folds).none_or_some
      · rw [none, otherNone]
        exact around
      · rw [found, otherFound]
        exact (around.erase ordered.ascending otherOrdered.ascending name).insert put variant

theorem Around.align_cons (around : Around path key first second) (ordered : first.Ordered)
    (otherOrdered : second.Ordered) {name after : String} {more : List String}
    (folds : folded name = folded key) (sameStep : step name first = step name second)
    (inside : ∀ {child otherChild : Fields}, child.Ordered → otherChild.Ordered →
      Elsewhere path child otherChild →
        Elsewhere path (Key.align (after :: more) child) (Key.align (after :: more) otherChild)) :
    Around path key (Key.align (name :: after :: more) first)
      (Key.align (name :: after :: more) second) := by
  rw [align_cons_eq ordered.ascending, align_cons_eq otherOrdered.ascending, ← sameStep]
  obtain ⟨none, otherNone⟩ | ⟨value, other, found, otherFound, put⟩ :=
    (around _ ((folded_step name first).trans folds)).none_or_some
  · rw [none, otherNone]
    exact around
  · rw [found, otherFound]
    refine around.insert ?_ _
    obtain same | ⟨child, otherChild, isChild, isOtherChild, below⟩ := put
    · rw [Option.some.inj same]
      exact .inl rfl
    · cases isChild
      cases isOtherChild
      exact .inr ⟨_, _, rfl, rfl, inside ((ordered_mapping_iff child).mp (ordered.get? found))
        ((ordered_mapping_iff otherChild).mp (otherOrdered.get? otherFound)) below⟩

/-- Both mappings are aligned along the same way. -/
theorem Elsewhere.align (elsewhere : Elsewhere path first second) (ordered : first.Ordered)
    (otherOrdered : second.Ordered) (way : List String) :
    Elsewhere path (Key.align way first) (Key.align way second) := by
  induction path generalizing first second way with
  | nil => exact trivial
  | cons key rest inductionHypothesis =>
      have off : ∀ other, folded other ≠ folded key →
          get? other (Key.align way first) = get? other (Key.align way second) := by
        intro other different
        refine get?_align_congr ordered otherOrdered (fun spelling folds => ?_) way
        exact elsewhere.get?_eq (folds.symm ▸ different)
      cases rest with
      | nil =>
          refine ⟨off, ?_⟩
          rw [unspelled_align_iff ordered, unspelled_align_iff otherOrdered]
          exact elsewhere.2
      | cons next others =>
          refine ⟨off, ?_⟩
          have alike := elsewhere.alike
          match way with
          | [] => exact elsewhere.around
          | name :: more =>
              by_cases different : folded name ≠ folded key
              · intro other folds
                rw [get?_align_of_folded_ne (folds ▸ different) more ordered,
                  get?_align_of_folded_ne (folds ▸ different) more otherOrdered]
                exact elsewhere.around other folds
              · have folds : folded name = folded key := Decidable.not_not.mp different
                cases more with
                | nil =>
                    exact elsewhere.around.align_last ordered otherOrdered folds
                      (alike.variant?_eq ordered.ascending otherOrdered.ascending name)
                | cons after more =>
                    exact elsewhere.around.align_cons ordered otherOrdered folds
                      (alike.step_eq ordered.ascending otherOrdered.ascending name)
                      fun childOrdered otherChildOrdered below =>
                        inductionHypothesis below childOrdered otherChildOrdered (after :: more)

theorem ElsewhereIn.alignIn_path {value : Option Value} {content : Value}
    (elsewhere : ElsewhereIn path value (some content)) (ordered : content.Ordered)
    (inside : ∀ {child otherChild : Fields}, otherChild.Ordered → Elsewhere path child otherChild →
      Elsewhere path child (Key.align path otherChild)) :
    ElsewhereIn path value (some (alignIn path content)) := by
  obtain same | ⟨child, otherChild, found, otherFound, below⟩ := elsewhere
  · cases content with
    | mapping child =>
        exact .inr ⟨child, _, same, rfl,
          inside ((ordered_mapping_iff child).mp ordered) (.refl path child)⟩
    | _ => exact .inl same
  · cases otherFound
    exact .inr ⟨child, _, found, rfl, inside ((ordered_mapping_iff otherChild).mp ordered) below⟩

/-- Only the second mapping is aligned along the path. -/
theorem Elsewhere.align_path (elsewhere : Elsewhere path first second)
    (otherOrdered : second.Ordered) : Elsewhere path first (Key.align path second) := by
  induction path generalizing first second with
  | nil => exact trivial
  | cons key rest inductionHypothesis =>
      have off : ∀ other, folded other ≠ folded key →
          get? other first = get? other (Key.align (key :: rest) second) := by
        intro other different
        rw [get?_align_of_folded_ne different.symm rest otherOrdered]
        exact elsewhere.get?_eq different
      cases rest with
      | nil =>
          refine ⟨off, ?_⟩
          rw [unspelled_align_iff otherOrdered]
          exact elsewhere.2
      | cons next others =>
          refine ⟨off, ?_⟩
          rw [align_cons_eq otherOrdered.ascending]
          intro other folds
          cases found : get? (step key second) second with
          | none => exact elsewhere.around other folds
          | some value =>
              dsimp only
              rw [get?_insert]
              split
              · rename_i here
                subst here
                have atStep := elsewhere.around _ (folded_step key second)
                rw [found] at atStep
                exact atStep.alignIn_path (otherOrdered.get? found)
                  fun childOrdered below => inductionHypothesis below childOrdered
              · exact elsewhere.around other folds

/-! ### Taking a value away -/

/-- A mapping without what stands at a path, in the spelling of the path. -/
def removed : List String → Fields → Fields
  | [], fields => fields
  | [key], fields => Fields.erase key fields
  | key :: next :: rest, fields =>
      match get? key fields with
      | some (.mapping child) => Fields.insert key (.mapping (removed (next :: rest) child)) fields
      | _ => fields

theorem ordered_removed {fields : Fields} (ordered : fields.Ordered) (path : List String) :
    (removed path fields).Ordered := by
  induction path generalizing fields with
  | nil => exact ordered
  | cons key rest inductionHypothesis =>
      cases rest with
      | nil => exact ordered.erase key
      | cons next others =>
          rw [removed]
          split
          · rename_i child found
            exact ordered.insert key ((ordered_mapping_iff _).mpr
              (inductionHypothesis ((ordered_mapping_iff child).mp (ordered.get? found))))
          · exact ordered

theorem elsewhere_removed {fields : Fields} (ordered : fields.Ordered) (path : List String) :
    Elsewhere path (removed path fields) fields := by
  induction path generalizing fields with
  | nil => exact trivial
  | cons key rest inductionHypothesis =>
      cases rest with
      | nil =>
          refine ⟨fun other different => ?_, fun unspelled other folds => ?_⟩
          · exact get?_erase_of_ne (fun same => different (congrArg folded same.symm)) fields
          · rw [removed, ordered.ascending.get?_erase, unspelled other folds, ite_self]
      | cons next others =>
          rw [removed]
          split
          · rename_i child found
            refine ⟨fun other different => ?_, fun other folds => ?_⟩
            · exact get?_insert_of_ne (fun same => different (congrArg folded same.symm)) _ fields
            · rw [get?_insert]
              split
              · rename_i here
                subst here
                exact .inr ⟨_, child, rfl, found,
                  inductionHypothesis ((ordered_mapping_iff child).mp (ordered.get? found))⟩
              · exact .inl rfl
          · exact .refl _ fields

theorem atPath?_removed {fields : Fields} (ordered : fields.Ordered) {path : List String}
    (nonempty : path ≠ []) : (Value.mapping (removed path fields)).atPath? path = none := by
  induction path generalizing fields with
  | nil => exact absurd rfl nonempty
  | cons key rest inductionHypothesis =>
      cases rest with
      | nil =>
          rw [removed, Value.atPath?_cons, Value.entries, ordered.ascending.get?_erase, if_pos rfl]
          rfl
      | cons next others =>
          rw [removed, Value.atPath?_cons, Value.entries]
          split
          · rename_i child found
            rw [get?_insert_self, Option.bind_some]
            exact inductionHypothesis ((ordered_mapping_iff child).mp (ordered.get? found))
              (List.cons_ne_nil next others)
          · rename_i noMapping
            cases found : get? key fields with
            | none => rfl
            | some value =>
                cases value with
                | mapping child => exact absurd found (noMapping child)
                | _ => rfl

/-- Alignment brings nothing to a path in lower case. -/
theorem atPath?_align_eq_none {fields : Fields} (ordered : fields.Ordered) {path way : List String}
    (lower : ∀ name ∈ path, IsLower name) (wayLower : ∀ name ∈ way, IsLower name)
    (absent : (Value.mapping fields).atPath? path = none) :
    (Value.mapping (Key.align way fields)).atPath? path = none := by
  induction path generalizing fields way with
  | nil => simp at absent
  | cons key rest inductionHypothesis =>
      obtain ⟨keyLower, restLower⟩ := List.forall_mem_cons.mp lower
      rw [Value.atPath?_cons, Value.entries] at absent ⊢
      obtain none | mapped := get?_align_of_isLower keyLower wayLower ordered
      · rw [none, Option.bind_none]
      · rw [mapped]
        cases found : get? key fields with
        | none => rfl
        | some value =>
            rw [found, Option.bind_some] at absent
            rw [Option.map_some, Option.bind_some]
            cases value with
            | mapping child =>
                exact inductionHypothesis ((ordered_mapping_iff child).mp (ordered.get? found))
                  restLower (fun name membership => wayLower name (mem_of_mem_behind membership))
                  absent
            | _ => exact absent

/-! ### Paths that lead to nothing -/

theorem resolves_of_get? {key name : String} {rest : List String} {value : Value}
    {fields : Fields} (unresolved : resolves (key :: rest) (.mapping fields) = false)
    (found : get? name fields = some value) (folds : folded name = folded key) :
    resolves rest value = false := by
  rw [resolves, List.any_eq_false] at unresolved
  have entry := unresolved (name, value) (mem_of_get?_eq_some found)
  rw [(agrees_eq_true_iff name key).mpr folds, Bool.true_and, Bool.not_eq_true] at entry
  exact entry

/-- A path that leads to nothing in the second mapping is no difference between the two. -/
theorem Elsewhere.eq_of_not_resolves (elsewhere : Elsewhere path first second)
    (nonempty : path ≠ []) (ordered : first.Ordered) (otherOrdered : second.Ordered)
    (unresolved : resolves path (.mapping second) = false) : first = second := by
  induction path generalizing first second with
  | nil => exact absurd rfl nonempty
  | cons key rest inductionHypothesis =>
      apply eq_of_get?_eq ordered.ascending otherOrdered.ascending
      intro other
      by_cases different : folded other ≠ folded key
      · exact elsewhere.get?_eq different
      · have folds : folded other = folded key := Decidable.not_not.mp different
        cases rest with
        | nil =>
            have unspelled : Unspelled key second := by
              intro spelling foldsToo
              cases found : get? spelling second with
              | none => rfl
              | some value => cases resolves_of_get? unresolved found foldsToo
            rw [elsewhere.2 unspelled other folds, unspelled other folds]
        | cons next others =>
            obtain same | ⟨child, otherChild, found, otherFound, below⟩ :=
              elsewhere.around other folds
            · exact same
            · rw [found, otherFound, inductionHypothesis below (List.cons_ne_nil next others)
                ((ordered_mapping_iff child).mp (ordered.get? found))
                ((ordered_mapping_iff otherChild).mp (otherOrdered.get? otherFound))
                (resolves_of_get? unresolved otherFound folds)]

end Fields

end BotConfig
