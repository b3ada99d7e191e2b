import Mathlib.Data.List.Sort
import BotConfig.Proofs.Paths

/-!
The effect of moving values to keys that are spelled with capitals.

`Key.align` moves at most the value at the end of its path, from its lower-case key to another
spelling beside it.  Paths that lead elsewhere, also when case makes no difference, are not
touched.
-/

namespace BotConfig.Key

/-! ### Case -/

/-- A key with its ASCII letters in lower case. -/
def folded (key : String) : List Char := key.toList.map Char.toLower

/-- A key without capital ASCII letters. -/
def IsLower (key : String) : Prop := folded key = key.toList

theorem agrees_eq_true_iff (first second : String) :
    agrees first second = true ↔ folded first = folded second := beq_iff_eq

theorem IsLower.eq_of_folded_eq {first second : String} (firstLower : IsLower first)
    (secondLower : IsLower second) (same : folded first = folded second) : first = second := by
  rw [firstLower, secondLower] at same
  exact String.toList_injective same

theorem eq_of_map_folded_eq {first second : List String} (firstLower : ∀ key ∈ first, IsLower key)
    (secondLower : ∀ key ∈ second, IsLower key)
    (same : first.map folded = second.map folded) : first = second := by
  induction first generalizing second with
  | nil => exact (List.map_eq_nil_iff.mp same.symm).symm
  | cons key rest inductionHypothesis =>
      cases second with
      | nil => cases same
      | cons otherKey otherRest =>
          obtain ⟨firstHead, firstTail⟩ := List.forall_mem_cons.mp firstLower
          obtain ⟨secondHead, secondTail⟩ := List.forall_mem_cons.mp secondLower
          obtain ⟨sameHead, sameTail⟩ := List.cons.inj same
          rw [firstHead.eq_of_folded_eq secondHead sameHead,
            inductionHypothesis firstTail secondTail sameTail]

theorem isPrefix_of_map_folded {first second : List String}
    (firstLower : ∀ key ∈ first, IsLower key) (secondLower : ∀ key ∈ second, IsLower key)
    (isPrefix : first.map folded <+: second.map folded) : first <+: second := by
  have same : first.map folded = (second.take first.length).map folded := by
    rw [List.map_take, List.prefix_iff_eq_take.mp isPrefix, List.length_map]
  rw [eq_of_map_folded_eq firstLower
    (fun key membership => secondLower key (List.mem_of_mem_take membership)) same]
  exact List.take_prefix _ _

/-- Paths in lower case that lead apart do so also when case makes no difference. -/
theorem Apart.map_folded {first second : List String} (apart : Apart first second)
    (firstLower : ∀ key ∈ first, IsLower key) (secondLower : ∀ key ∈ second, IsLower key) :
    Apart (first.map folded) (second.map folded) :=
  ⟨fun isPrefix => apart.1 (isPrefix_of_map_folded firstLower secondLower isPrefix),
    fun isPrefix => apart.2 (isPrefix_of_map_folded secondLower firstLower isPrefix)⟩

/-! ### Other spellings -/

theorem variant?_eq_some {key other : String} {fields : Fields}
    (found : variant? key fields = some other) :
    other ∈ fields.keys ∧ other ≠ key ∧ folded other = folded key := by
  have accepted := List.find?_some found
  rw [Bool.and_eq_true, bne_iff_ne, agrees_eq_true_iff] at accepted
  exact ⟨List.mem_of_find?_eq_some found, accepted⟩

theorem variant?_eq_none_iff (key : String) (fields : Fields) :
    variant? key fields = none ↔
      ∀ other ∈ fields.keys, folded other = folded key → other = key := by
  unfold variant?
  rw [List.find?_eq_none]
  constructor
  · intro rejected other membership same
    have refused := rejected other membership
    rw [Bool.and_eq_true, bne_iff_ne, agrees_eq_true_iff] at refused
    exact Decidable.byContradiction fun different => refused ⟨different, same⟩
  · intro alone other membership
    rw [Bool.and_eq_true, bne_iff_ne, agrees_eq_true_iff]
    rintro ⟨different, same⟩
    exact different (alone other membership same)

/-- Only the other spellings of a key matter to which of them comes first. -/
theorem variant?_congr {key : String} {first second : Fields} (firstAscending : first.Ascending)
    (secondAscending : second.Ascending)
    (same : ∀ other, other ≠ key → folded other = folded key →
      Fields.get? other first = Fields.get? other second) :
    variant? key first = variant? key second := by
  unfold variant?
  rw [← List.head?_filter, ← List.head?_filter]
  congr 1
  apply (firstAscending.filter _).eq_of_mem_iff (secondAscending.filter _)
  intro other
  rw [List.mem_filter, List.mem_filter]
  apply and_congr_left
  intro accepted
  rw [Bool.and_eq_true, bne_iff_ne, agrees_eq_true_iff] at accepted
  rw [Fields.mem_keys_iff, Fields.mem_keys_iff, same other accepted.1 accepted.2]

theorem variant?_entriesAt_congr {outer : List String} {name : String} {first second : Value}
    (firstOrdered : first.Ordered) (secondOrdered : second.Ordered)
    (same : ∀ other, folded other = folded name →
      first.atPath? (outer ++ [other]) = second.atPath? (outer ++ [other])) :
    variant? name (first.entriesAt outer) = variant? name (second.entriesAt outer) := by
  apply variant?_congr (firstOrdered.entriesAt outer).ascending
    (secondOrdered.entriesAt outer).ascending
  intro other _ sameFolded
  rw [Value.get?_entriesAt, Value.get?_entriesAt, same other sameFolded]

/-- The key that is followed on the way to a value. -/
def step (key : String) (fields : Fields) : String :=
  match variant? key fields with
  | some other => if (Fields.get? key fields).isSome then key else other
  | none => key

theorem folded_step (key : String) (fields : Fields) : folded (step key fields) = folded key := by
  unfold step
  split
  · rename_i other found
    split
    · rfl
    · exact (variant?_eq_some found).2.2
  · rfl

theorem step_of_get?_eq_some {key : String} {fields : Fields} {value : Value}
    (found : Fields.get? key fields = some value) : step key fields = key := by
  unfold step
  split
  · simp [found]
  · rfl

/-! ### One key -/

/-- At the last key the value moves to the other spelling, if there are both. -/
theorem align_last {fields : Fields} (ascending : fields.Ascending) (key : String) :
    align [key] fields =
      match variant? key fields, Fields.get? key fields with
      | some other, some value => Fields.insert other value (Fields.erase key fields)
      | _, _ => fields := by
  cases spelled : variant? key fields with
  | some other =>
      rw [align.eq_def]
      simp only [spelled]
      cases Fields.get? key fields <;> rfl
  | none =>
      rw [align.eq_def]
      simp only [spelled]
      cases found : Fields.get? key fields with
      | none => rfl
      | some value =>
          cases value with
          | mapping child => exact ascending.insert_of_get?_eq_some found
          | _ => rfl

/-- Before the last key a mapping is changed inside, and anything else stays. -/
theorem align_cons (key next : String) (rest : List String) (fields : Fields) :
    align (key :: next :: rest) fields =
      match Fields.get? (step key fields) fields with
      | some (.mapping child) =>
          Fields.insert (step key fields) (.mapping (align (next :: rest) child)) fields
      | _ => fields := by
  rw [align]
  · unfold step
    cases variant? key fields <;> rfl
  · intro other _ impossible
    cases impossible

/-! ### Frame -/

theorem get?_align_last_of_folded_ne {key other : String} (different : folded key ≠ folded other)
    {fields : Fields} (ascending : fields.Ascending) :
    Fields.get? other (align [key] fields) = Fields.get? other fields := by
  rw [align_last ascending]
  cases spelled : variant? key fields with
  | none => rfl
  | some variant =>
      have notVariant : variant ≠ other := by
        rintro rfl
        exact different (variant?_eq_some spelled).2.2.symm
      have notKey : key ≠ other := by
        rintro rfl
        exact different rfl
      cases Fields.get? key fields with
      | none => rfl
      | some value =>
          simp only [Fields.get?_insert_of_ne notVariant, Fields.get?_erase_of_ne notKey]

/-- A value at a path that leads elsewhere stays. -/
theorem atPath?_align_of_apart {path other : List String}
    (apart : Apart (path.map folded) (other.map folded)) {fields : Fields}
    (ordered : fields.Ordered) :
    (Value.mapping (align path fields)).atPath? other =
      (Value.mapping fields).atPath? other := by
  induction path generalizing other fields with
  | nil => exact absurd rfl apart.left_ne_nil
  | cons key rest inductionHypothesis =>
      cases other with
      | nil => exact absurd rfl apart.right_ne_nil
      | cons otherKey otherRest =>
          cases rest with
          | nil =>
              have different : folded key ≠ folded otherKey := by
                intro same
                exact apart.1 (List.cons_prefix_cons.mpr ⟨same, List.nil_prefix⟩)
              simp only [Value.atPath?_cons, Value.entries,
                get?_align_last_of_folded_ne different ordered.ascending]
          | cons next others =>
              rw [align_cons]
              split
              · rename_i child found
                by_cases followed : step key fields = otherKey
                · subst followed
                  simp only [List.map_cons, folded_step] at apart
                  simp only [Value.atPath?_cons, Value.entries, Fields.get?_insert_self, found,
                    Option.bind_some]
                  have below := inductionHypothesis apart.tail
                    ((Fields.ordered_mapping_iff child).mp (ordered.get? found))
                  exact below
                · simp only [Value.atPath?_cons, Value.entries,
                    Fields.get?_insert_of_ne followed]
              · rfl

theorem holds_align {holds : Value → Prop} (closed : Value.Closed holds) {fields : Fields}
    (given : holds (.mapping fields)) (path : List String) :
    holds (.mapping (align path fields)) := by
  induction path generalizing fields with
  | nil => exact given
  | cons key rest inductionHypothesis =>
      rw [align.eq_def]
      dsimp only
      split
      · split
        · rename_i found
          exact closed.insert (closed.erase given key) (closed.get? given found) _
        · exact given
      · split
        · rename_i found
          exact closed.insert given (inductionHypothesis (closed.get? given found)) _
        · exact given

theorem ordered_align {fields : Fields} (ordered : fields.Ordered) (path : List String) :
    (align path fields).Ordered :=
  (Fields.ordered_mapping_iff _).mp
    (holds_align Value.closed_ordered ((Fields.ordered_mapping_iff fields).mpr ordered) path)

/-! ### The own path -/

/-- Keys that are there in the spelling of the path are followed, whatever is beside them. -/
theorem atPath?_align_outer {outer rest : List String} (goesOn : rest ≠ []) {fields child : Fields}
    (found : (Value.mapping fields).atPath? outer = some (.mapping child)) :
    (Value.mapping (align (outer ++ rest) fields)).atPath? outer =
      some (.mapping (align rest child)) := by
  induction outer generalizing fields with
  | nil =>
      rw [Value.atPath?_nil] at found
      cases found
      rfl
  | cons key others inductionHypothesis =>
      rw [Value.atPath?_cons, Option.bind_eq_some_iff] at found
      obtain ⟨inside, atKey, below⟩ := found
      obtain ⟨next, more, shape⟩ : ∃ next more, others ++ rest = next :: more := by
        cases others with
        | nil => exact List.exists_cons_of_ne_nil goesOn
        | cons next more => exact ⟨next, more ++ rest, rfl⟩
      obtain ⟨inner, rfl⟩ : ∃ inner, inside = .mapping inner := by
        cases others with
        | nil =>
            rw [Value.atPath?_nil] at below
            exact ⟨child, Option.some.inj below⟩
        | cons next more =>
            cases inside with
            | mapping inner => exact ⟨inner, rfl⟩
            | _ => simp [Value.entries] at below
      rw [Value.entries] at atKey
      rw [List.cons_append, shape, align_cons, step_of_get?_eq_some atKey, atKey,
        Value.atPath?_cons, Value.entries, Fields.get?_insert_self, Option.bind_some, ← shape]
      exact inductionHypothesis below

/-- Where nothing stands at the path itself, nothing comes to stand there. -/
theorem atPath?_align_of_none {path : List String} {fields : Fields} (ordered : fields.Ordered)
    (absent : (Value.mapping fields).atPath? path = none) :
    (Value.mapping (align path fields)).atPath? path = none := by
  induction path generalizing fields with
  | nil => simp at absent
  | cons key rest inductionHypothesis =>
      rw [Value.atPath?_cons, Value.entries] at absent ⊢
      cases rest with
      | nil =>
          have missing : Fields.get? key fields = none := by simpa using absent
          rw [align_last ordered.ascending, missing]
          cases variant? key fields <;> simp [missing]
      | cons next others =>
          rw [align_cons]
          split
          · rename_i child found
            by_cases followed : step key fields = key
            · rw [followed] at found ⊢
              rw [found, Option.bind_some] at absent
              rw [Fields.get?_insert_self, Option.bind_some]
              exact inductionHypothesis ((Fields.ordered_mapping_iff child).mp
                (ordered.get? found)) absent
            · rw [Fields.get?_insert_of_ne followed, absent]
          · exact absent

/-- When no other spelling than a given one takes the value at the last key, it is afterwards at
exactly one of the two. -/
theorem align_last_wins {name spelling : String} {value : Value} {fields : Fields}
    (ascending : fields.Ascending) (found : Fields.get? name fields = some value)
    (sameFolded : folded spelling = folded name)
    (first : ∀ key, variant? name fields = some key → key = spelling) :
    ∃ key, (key = name ∨ key = spelling) ∧
      Fields.get? key (align [name] fields) = some value ∧
      ∀ other, other = name ∨ other = spelling → other ≠ key →
        Fields.get? other (align [name] fields) = none := by
  rw [align_last ascending, found]
  cases spelled : variant? name fields with
  | none =>
      refine ⟨name, .inl rfl, found, ?_⟩
      rintro other (rfl | rfl) different
      · exact absurd rfl different
      · rw [Fields.get?_eq_none_iff]
        intro membership
        exact different ((variant?_eq_none_iff name fields).mp spelled other membership sameFolded)
  | some variant =>
      obtain ⟨membership, notName, _⟩ := variant?_eq_some spelled
      refine ⟨variant, .inr (first variant spelled), Fields.get?_insert_self _ _ _, ?_⟩
      rintro other (rfl | rfl) different
      · rw [Fields.get?_insert_of_ne different.symm, ascending.get?_erase, if_pos rfl]
      · exact absurd (first variant spelled).symm different

theorem atPath?_align_wins {outer : List String} {name spelling : String} {value : Value}
    {document : Fields} (ordered : document.Ordered)
    (found : (Value.mapping document).atPath? (outer ++ [name]) = some value)
    (sameFolded : folded spelling = folded name)
    (first : ∀ key, variant? name ((Value.mapping document).entriesAt outer) = some key →
      key = spelling) :
    ∃ key, (key = name ∨ key = spelling) ∧
      (Value.mapping (align (outer ++ [name]) document)).atPath? (outer ++ [key]) = some value ∧
      ∀ other, other = name ∨ other = spelling → other ≠ key →
        (Value.mapping (align (outer ++ [name]) document)).atPath? (outer ++ [other]) = none := by
  obtain ⟨child, atOuter, atName⟩ := Value.exists_of_atPath?_append_singleton found
  have childOrdered := (Fields.ordered_mapping_iff child).mp
    (((Fields.ordered_mapping_iff document).mpr ordered).atPath? atOuter)
  have entries : (Value.mapping document).entriesAt outer = child := by
    rw [Value.entriesAt, atOuter]
    rfl
  rw [entries] at first
  obtain ⟨key, isSpelling, holds, nowhereElse⟩ :=
    align_last_wins childOrdered.ascending atName sameFolded first
  have atOuterAligned := atPath?_align_outer (List.cons_ne_nil name []) atOuter
  refine ⟨key, isSpelling, ?_, ?_⟩
  · rw [Value.atPath?_append_singleton atOuterAligned, holds]
  · intro other otherSpelling different
    rw [Value.atPath?_append_singleton atOuterAligned]
    exact nowhereElse other otherSpelling different

end BotConfig.Key
