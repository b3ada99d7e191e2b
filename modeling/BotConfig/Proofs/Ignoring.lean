import BotConfig.Config
import BotConfig.Proofs.Elsewhere
import BotConfig.Proofs.Settlement
import BotConfig.Proofs.Rereading

/-!
What decoding does not look at.

A path that leads to nothing in what has been decoded, written out, was not looked at: without what
stands there the same is decoded.  Most decoders read no mapping at all, so a path that goes on
below their field leads nowhere, and a path that ends at a field leads to what the field is written
as.
-/

namespace BotConfig

open Key

/-- A second mapping holds what the first one does, and something at a path in lower case where the
first one holds nothing. -/
structure Grown (path : List String) (first second : Fields) : Prop where
  lower : ∀ key ∈ path, IsLower key
  elsewhere : Fields.Elsewhere path first second
  absent : (Value.mapping first).atPath? path = none
  ordered : first.Ordered
  otherOrdered : second.Ordered
  nonnull : second.Nonnull

/-- What is written out shows nothing at the path. -/
structure Unseen (path : List String) (first second entries : Fields) : Prop
    extends Grown path first second where
  unresolved : resolves path (.mapping (Value.sortedFields entries)) = false

variable {path : List String} {first second entries : Fields} {name : String}

theorem Grown.nonempty (grown : Grown path first second) : path ≠ [] := by
  rintro rfl
  have absent := grown.absent
  simp at absent

/-- What the second mapping does not hold under a name in lower case the first one does not. -/
theorem Grown.get?_eq_none (grown : Grown path first second) (nameLower : IsLower name)
    (otherAbsent : Fields.get? name second = none) : Fields.get? name first = none := by
  obtain ⟨key, rest, rfl⟩ := List.exists_cons_of_ne_nil grown.nonempty
  by_cases different : folded name ≠ folded key
  · rw [grown.elsewhere.get?_eq different, otherAbsent]
  have folds : folded name = folded key := Decidable.not_not.mp different
  cases rest with
  | nil =>
      have sameName := nameLower.eq_of_folded_eq (grown.lower key List.mem_cons_self) folds
      have absent := grown.absent
      rw [Value.atPath?_cons, Value.entries, ← sameName] at absent
      cases found : Fields.get? name first with
      | none => rfl
      | some value => simp [found] at absent
  | cons next others =>
      obtain same | ⟨_, otherChild, _, otherFound, _⟩ := grown.elsewhere.around name folds
      · rw [same, otherAbsent]
      · rw [otherAbsent] at otherFound
        cases otherFound

/-- Under the name of an entry that is written the mappings hold the same, or mappings of which the
same is known further down. -/
theorem Unseen.get?_eq_or_inside (unseen : Unseen path first second entries) {written : String}
    (folds : folded written = folded name)
    (shown : (Fields.get? written entries).isSome = true) :
    Fields.get? name first = Fields.get? name second ∨
      ∃ key rest, ∃ child otherChild : Fields, path = key :: rest ∧ folded name = folded key ∧
        Fields.get? name first = some (.mapping child) ∧
        Fields.get? name second = some (.mapping otherChild) ∧
        otherChild.Nonnull ∧ Fields.Elsewhere rest child otherChild := by
  obtain ⟨key, rest, rfl⟩ := List.exists_cons_of_ne_nil unseen.nonempty
  by_cases different : folded name ≠ folded key
  · exact .inl (unseen.elsewhere.get?_eq different)
  have same : folded name = folded key := Decidable.not_not.mp different
  cases rest with
  | nil =>
      -- The entry that is written stands at the path.
      obtain ⟨value, found⟩ := Option.isSome_iff_exists.mp shown
      have sorted : Fields.get? written (Value.sortedFields entries) = some value.sorted := by
        rw [Fields.get?_sortedFields, found, Option.map_some]
      cases Fields.resolves_of_get? unseen.unresolved sorted (folds.trans same)
  | cons next others =>
      obtain equal | ⟨child, otherChild, found, otherFound, below⟩ :=
        unseen.elsewhere.around name same
      · exact .inl equal
      · have each := (Fields.nonnull_iff unseen.otherOrdered.ascending).mp unseen.nonnull
        exact .inr ⟨key, _, child, otherChild, rfl, same, found, otherFound,
          Value.mapping.inj (each name _ otherFound).2, below⟩

namespace Decode

variable {α β : Type} {decode : Decoder α} {encode : α → Value}

/-! ### Decoders that read no mapping -/

/-- No mapping without nulls is read. -/
def Refuses (decode : Decoder α) : Prop :=
  ∀ fields : Fields, fields.Nonnull → ∀ data, decode (.mapping fields) ≠ .ok data

theorem refuses_text : Refuses text := nofun

theorem refuses_boolean : Refuses boolean := nofun

theorem refuses_unsigned (bits : Nat) : Refuses (unsigned bits) := nofun

theorem refuses_real : Refuses real := nofun

theorem refuses_decimal : Refuses decimal := nofun

theorem refuses_freeText : Refuses freeText := nofun

theorem refuses_optionalFreeText : Refuses optionalFreeText := nofun

theorem refuses_texts : Refuses texts := nofun

theorem refuses_listOf (decode : Decoder α) : Refuses (listOf decode) := nofun

theorem Refuses.optional (refuses : Refuses decode) : Refuses (Decode.optional decode) := by
  intro fields nonnull data reads
  rw [Decode.optional] at reads
  · cases outcome : decode (.mapping fields) with
    | error failure =>
        rw [outcome] at reads
        cases reads
    | ok inner => exact refuses fields nonnull inner outcome
  · simp

/-- A mapping that names a choice holds a null. -/
theorem refuses_choice (choices : List (List String × α)) : Refuses (choice choices) := by
  intro fields nonnull data reads
  match fields with
  | [] => cases reads
  | [(name, content)] =>
      have notNull : content.isNull = false := by
        rw [Fields.Nonnull, Value.prunedFields] at nonnull
        cases null : content.isNull with
        | false => rfl
        | true =>
            rw [if_pos null] at nonnull
            cases nonnull
      simp only [choice, notNull, Bool.false_eq_true, if_false] at reads
      split at reads <;> cases reads
  | _ :: _ :: _ => cases reads

/-! ### Decoders that read mappings -/

/-- Below a path that leads to nothing in what is written, nothing is looked at. -/
def Ignores (decode : Decoder α) (encode : α → Value) : Prop :=
  ∀ {path : List String} {first second : Fields}, Grown path first second →
    ∀ data, decode (.mapping second) = .ok data →
      resolves path (encode data).sorted = false → decode (.mapping first) = .ok data

theorem ignores_fields : Ignores fields .mapping := by
  intro path first second grown data reads unresolved
  cases reads
  rw [Value.sorted, grown.otherOrdered.sortedFields_eq] at unresolved
  rw [grown.elsewhere.eq_of_not_resolves grown.nonempty grown.ordered grown.otherOrdered
    unresolved]
  rfl

theorem Ignores.optional (ignores : Ignores decode encode) :
    Ignores (Decode.optional decode) (Encode.optional encode) := by
  intro path first second grown data reads unresolved
  rw [Decode.optional] at reads ⊢
  · cases outcome : decode (.mapping second) with
    | error failure =>
        rw [outcome] at reads
        cases reads
    | ok inner =>
        rw [outcome] at reads
        cases reads
        rw [ignores grown inner outcome unresolved]
        rfl
  · simp
  · simp

namespace Record

/-! ### Fields of records -/

/-- What a record comes to for a mapping has a property. -/
def Reads (record : Record α) (fields : Fields) (goal : α → Prop) : Prop :=
  ∀ data, Gives record fields (.done data) → goal data

theorem Reads.seq {function : Record (α → β)} {argument : Record α} {fields : Fields}
    {goal : β → Prop}
    (functions : Reads function fields fun f =>
      ∀ data, Gives argument fields (.done data) → goal (f data)) :
    Reads (function <*> argument) fields goal := by
  intro result gives
  obtain ⟨f, data, functionGives, argumentGives, rfl⟩ := Reading.both_eq_done gives
  exact functions f functionGives data argumentGives

theorem Reads.map {function : α → β} {argument : Record α} {fields : Fields} {goal : β → Prop}
    (arguments : ∀ data, Gives argument fields (.done data) → goal (function data)) :
    Reads (function <$> argument) fields goal := by
  refine .seq ?_
  rintro f ⟨⟩
  exact arguments

/-- A record is read alike if all that it comes to is. -/
theorem Reads.ignores {record : Record α} {written : α → Fields}
    (reads : ∀ {path : List String} {first second : Fields}, Grown path first second →
      Reads record second fun data => Unseen path first second (written data) →
        Gives record first (.done data))
    (name : String) (writes : ∀ data, encode data = .mapping (written data)) :
    Ignores (record.decoder name) encode := by
  intro path first second grown data decodes unresolved
  rw [writes, Value.sorted] at unresolved
  have unseen : Gives record first (.done data) :=
    reads grown data (gives_of_decoder decodes) ⟨grown, unresolved⟩
  rw [unseen.decoder_eq]
  rfl

variable {fallback : Option α} {data : α}

theorem gives_field_congr (same : Fields.get? name first = Fields.get? name second)
    (gives : Gives (field name decode fallback) second (.done data)) :
    Gives (field name decode fallback) first (.done data) := by
  unfold Gives field at gives ⊢
  dsimp only at gives ⊢
  rw [same]
  exact gives

theorem decode_of_present {value : Value} (done : present decode name value = .done data) :
    decode value = .ok data := by
  unfold present at done
  split at done
  · rename_i reads
    cases done
    exact reads
  · cases done

theorem decode_of_gives_field {value : Value} (found : Fields.get? name second = some value)
    (gives : Gives (field name decode fallback) second (.done data)) :
    decode value = .ok data := by
  unfold Gives field at gives
  dsimp only at gives
  rw [found] at gives
  exact decode_of_present gives

theorem fallback_of_gives_field (missing : Fields.get? name second = none)
    (gives : Gives (field name decode fallback) second (.done data)) : fallback = some data := by
  unfold Gives field at gives
  dsimp only at gives
  rw [missing] at gives
  cases fallback with
  | none => cases gives
  | some standard => exact congrArg some (Reading.done.inj gives)

/-- A field that holds no mapping. -/
theorem plain (unseen : Unseen path first second entries) (refuses : Refuses decode)
    (gives : Gives (field name decode fallback) second (.done data))
    (shown : (Fields.get? name entries).isSome = true) :
    Gives (field name decode fallback) first (.done data) := by
  obtain same | ⟨_, _, _, otherChild, _, _, _, otherFound, nonnull, _⟩ :=
    unseen.get?_eq_or_inside rfl shown
  · exact gives_field_congr same gives
  · exact absurd (decode_of_gives_field otherFound gives) (refuses otherChild nonnull data)

/-- A field that may hold a mapping. -/
theorem nested (unseen : Unseen path first second entries) (ignores : Ignores decode encode)
    (nameLower : IsLower name) (gives : Gives (field name decode fallback) second (.done data))
    (written : Fields.get? name entries = some (encode data)) :
    Gives (field name decode fallback) first (.done data) := by
  obtain same | ⟨key, rest, child, otherChild, rfl, folds, found, otherFound, nonnull, below⟩ :=
    unseen.get?_eq_or_inside rfl (Option.isSome_iff_exists.mpr ⟨_, written⟩)
  · exact gives_field_congr same gives
  · obtain ⟨keyLower, restLower⟩ := List.forall_mem_cons.mp unseen.lower
    have sameName : name = key := nameLower.eq_of_folded_eq keyLower folds
    subst sameName
    have absent := unseen.absent
    rw [Value.atPath?_cons, Value.entries, found, Option.bind_some] at absent
    have inside : Grown rest child otherChild :=
      ⟨restLower, below, absent, (Fields.ordered_mapping_iff child).mp (unseen.ordered.get? found),
        (Fields.ordered_mapping_iff otherChild).mp (unseen.otherOrdered.get? otherFound), nonnull⟩
    have sorted : Fields.get? name (Value.sortedFields entries) = some (encode data).sorted := by
      rw [Fields.get?_sortedFields, written, Option.map_some]
    have reads := ignores inside data (decode_of_gives_field otherFound gives)
      (Fields.resolves_of_get? unseen.unresolved sorted rfl)
    unfold Gives field
    dsimp only
    rw [found]
    simp only [present, reads]

/-- Of a field with two spellings at most one is there. -/
theorem decode_of_gives_spelledTwoWays {spelling : String} {fallback : α} {value : Value}
    (gives : Gives (spelledTwoWays name spelling decode fallback) second (.done data))
    (found : Fields.get? name second = some value ∨ Fields.get? spelling second = some value) :
    decode value = .ok data := by
  unfold Gives spelledTwoWays at gives
  dsimp only at gives
  cases atName : Fields.get? name second with
  | none =>
      cases atSpelling : Fields.get? spelling second with
      | none =>
          rw [atName, atSpelling] at found
          obtain isSome | isSome := found <;> cases isSome
      | some other =>
          rw [atName, atSpelling] at found gives
          obtain isSome | isSome := found
          · cases isSome
          · cases isSome
            exact decode_of_present gives
  | some other =>
      cases atSpelling : Fields.get? spelling second with
      | none =>
          rw [atName, atSpelling] at found gives
          obtain isSome | isSome := found
          · cases isSome
            exact decode_of_present gives
          · cases isSome
      | some another =>
          rw [atName, atSpelling] at gives
          dsimp only at gives
          split at gives
          · cases gives
          · rename_i notDone
            exact absurd gives (notDone data)

/-- A field with two spellings that holds no mapping. -/
theorem plainTwoWays {spelling : String} {fallback : α}
    (unseen : Unseen path first second entries) (refuses : Refuses decode)
    (folds : folded spelling = folded name)
    (gives : Gives (spelledTwoWays name spelling decode fallback) second (.done data))
    (shown : (Fields.get? name entries).isSome = true) :
    Gives (spelledTwoWays name spelling decode fallback) first (.done data) := by
  obtain same | ⟨_, _, _, child, _, _, _, found, nonnull, _⟩ :=
    unseen.get?_eq_or_inside rfl shown
  · obtain otherSame | ⟨_, _, _, child, _, _, _, found, nonnull, _⟩ :=
      unseen.get?_eq_or_inside folds.symm shown
    · unfold Gives spelledTwoWays at gives ⊢
      dsimp only at gives ⊢
      rw [same, otherSame]
      exact gives
    · exact absurd (decode_of_gives_spelledTwoWays gives (.inr found)) (refuses child nonnull data)
  · exact absurd (decode_of_gives_spelledTwoWays gives (.inl found)) (refuses child nonnull data)

variable (encode) in
/-- A field that is written only if it is set. -/
theorem plainIfSet {choice : Option α} (unseen : Unseen path first second entries)
    (refuses : Refuses decode) (nameLower : IsLower name)
    (gives : Gives (.defaulted name (Decode.optional decode) none) second (.done choice))
    (written : Fields.get? name entries = choice.map encode) :
    Gives (.defaulted name (Decode.optional decode) none) first (.done choice) := by
  cases choice with
  | some given =>
      exact plain unseen refuses.optional gives
        (Option.isSome_iff_exists.mpr ⟨encode given, written⟩)
  | none =>
      have otherAbsent : Fields.get? name second = none := by
        cases found : Fields.get? name second with
        | none => rfl
        | some value =>
            have reads := decode_of_gives_field found gives
            obtain ⟨notNull, -⟩ :=
              (Fields.nonnull_iff unseen.otherOrdered.ascending).mp unseen.nonnull name value found
            rw [Decode.optional] at reads
            · cases outcome : decode value with
              | error failure =>
                  rw [outcome] at reads
                  cases reads
              | ok inner =>
                  rw [outcome] at reads
                  cases reads
            · rintro rfl
              cases notNull
      have absent := unseen.get?_eq_none nameLower otherAbsent
      exact gives_field_congr (absent.trans otherAbsent.symm) gives

end Record

end Decode

end BotConfig
