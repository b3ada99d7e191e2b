import BotConfig.Proofs.Precedence

/-!
Two documents with the same keys.

Alignment looks at keys and at nothing else, so it moves the same values in two documents that
differ only in some of their values.  A value that is moved takes the other spelling of its key
along; as long as something stands at the key itself, nothing has been moved from it.
-/

namespace BotConfig

namespace Fields

/-- Two mappings have the same keys, and where their values differ they may do so. -/
def Alike (may : String → Value → Value → Prop) (first second : Fields) : Prop :=
  ∀ key, get? key first = get? key second ∨
    ∃ value other, get? key first = some value ∧ get? key second = some other ∧
      may key value other

/-- Unless a key is left out, its other spellings hold the same in two mappings. -/
def Settled (key : String) (first second : Fields) : Prop :=
  (get? key first = none ∧ get? key second = none) ∨
    ∀ other, other ≠ key → Key.folded other = Key.folded key →
      get? other first = get? other second

variable {may : String → Value → Value → Prop} {first second : Fields}

theorem Alike.mono {weaker : String → Value → Value → Prop} (alike : Alike may first second)
    (weaken : ∀ key value other, may key value other → weaker key value other) :
    Alike weaker first second := by
  intro key
  obtain same | ⟨value, other, found, otherFound, differ⟩ := alike key
  · exact .inl same
  · exact .inr ⟨value, other, found, otherFound, weaken key value other differ⟩

theorem Alike.get?_eq_none_iff (alike : Alike may first second) (key : String) :
    get? key first = none ↔ get? key second = none := by
  obtain same | ⟨value, other, found, otherFound, _⟩ := alike key
  · rw [same]
  · simp [found, otherFound]

theorem Alike.isSome_get? (alike : Alike may first second) (key : String) :
    (get? key first).isSome = (get? key second).isSome := by
  obtain same | ⟨value, other, found, otherFound, _⟩ := alike key
  · rw [same]
  · rw [found, otherFound]
    rfl

theorem Alike.keys_eq (alike : Alike may first second) (ascending : first.Ascending)
    (otherAscending : second.Ascending) : first.keys = second.keys := by
  apply ascending.eq_of_mem_iff otherAscending
  intro key
  rw [mem_keys_iff, mem_keys_iff, ← Option.isSome_iff_exists, ← Option.isSome_iff_exists,
    alike.isSome_get? key]

/-- Mappings that are alike stay so when values that are alike are put at one key. -/
theorem Alike.insert (alike : Alike may first second) (key : String) {value other : Value}
    (alikeThere : value = other ∨ may key value other) :
    Alike may (Fields.insert key value first) (Fields.insert key other second) := by
  intro name
  by_cases here : key = name
  · subst here
    simp only [get?_insert_self, Option.some.injEq]
    obtain same | differs := alikeThere
    · exact .inl same
    · exact .inr ⟨value, other, rfl, rfl, differs⟩
  · rw [get?_insert_of_ne here, get?_insert_of_ne here]
    exact alike name

theorem Alike.erase (alike : Alike may first second) (ascending : first.Ascending)
    (otherAscending : second.Ascending) (key : String) :
    Alike may (Fields.erase key first) (Fields.erase key second) := by
  intro name
  rw [ascending.get?_erase, otherAscending.get?_erase]
  split
  · exact .inl rfl
  · exact alike name

end Fields

namespace Key

/-! ### Alignment inside a value -/

/-- Align what is inside a value, if it is a mapping. -/
def alignIn (path : List String) : Value → Value
  | .mapping fields => .mapping (align path fields)
  | value => value

@[simp]
theorem alignIn_nil (value : Value) : alignIn [] value = value := by
  cases value <;> simp [alignIn, align]

theorem align_cons_eq {fields : Fields} (ascending : fields.Ascending) (key next : String)
    (rest : List String) :
    align (key :: next :: rest) fields =
      match Fields.get? (step key fields) fields with
      | some value => Fields.insert (step key fields) (alignIn (next :: rest) value) fields
      | none => fields := by
  rw [align_cons]
  cases found : Fields.get? (step key fields) fields with
  | none => rfl
  | some value =>
      cases value with
      | mapping child => rfl
      | _ => exact (ascending.insert_of_get?_eq_some found).symm

/-- Entries under keys that differ not only in case from the first key of a path stay. -/
theorem get?_align_of_folded_ne {key other : String} (different : folded key ≠ folded other)
    (rest : List String) {fields : Fields} (ordered : fields.Ordered) :
    Fields.get? other (align (key :: rest) fields) = Fields.get? other fields := by
  have apart : Apart ((key :: rest).map folded) ([other].map folded) :=
    Apart.of_head_ne different _ _
  have same := atPath?_align_of_apart apart ordered
  simpa [Value.entries] using same

/-- What is left of a path behind a key. -/
def behind (key : String) : List String → List String
  | [] => []
  | first :: rest => if first = key then rest else []

theorem mem_of_mem_behind {key other : String} {path : List String}
    (membership : other ∈ behind key path) : other ∈ path := by
  cases path with
  | nil => exact membership
  | cons first rest =>
      by_cases here : first = key
      · rw [behind, if_pos here] at membership
        exact List.mem_cons_of_mem first membership
      · rw [behind, if_neg here] at membership
        cases membership

/-- What stands at a key in lower case is taken away or aligned inside. -/
theorem get?_align_of_isLower {key : String} {path : List String} (keyLower : IsLower key)
    (lower : ∀ other ∈ path, IsLower other) {fields : Fields} (ordered : fields.Ordered) :
    Fields.get? key (align path fields) = none ∨
      Fields.get? key (align path fields) =
        (Fields.get? key fields).map (alignIn (behind key path)) := by
  have idle : (Fields.get? key fields).map (alignIn []) = Fields.get? key fields := by
    cases Fields.get? key fields <;> simp
  cases path with
  | nil =>
      right
      rw [behind, idle, align]
  | cons first rest =>
      by_cases here : first = key
      · subst here
        rw [behind, if_pos rfl]
        cases rest with
        | nil =>
            rw [align_last ordered.ascending, idle]
            split
            · rename_i other value found _
              left
              rw [Fields.get?_insert_of_ne (variant?_eq_some found).2.1,
                ordered.ascending.get?_erase, if_pos rfl]
            · exact .inr rfl
        | cons next others =>
            rw [align_cons_eq ordered.ascending]
            cases present : Fields.get? first fields with
            | some value =>
                rw [step_of_get?_eq_some present, present]
                exact .inr (Fields.get?_insert_self _ _ _)
            | none =>
                left
                split
                · rename_i value found
                  have aside : step first fields ≠ first := by
                    intro same
                    rw [same, present] at found
                    cases found
                  rw [Fields.get?_insert_of_ne aside, present]
                · exact present
      · right
        have different : folded first ≠ folded key := by
          intro same
          exact here ((lower first List.mem_cons_self).eq_of_folded_eq keyLower same)
        rw [behind, if_neg here, idle, get?_align_of_folded_ne different rest ordered]

/-- Where nothing stands at a key in lower case, nothing comes to stand there. -/
theorem get?_align_eq_none {key : String} {path : List String} (keyLower : IsLower key)
    (lower : ∀ other ∈ path, IsLower other) {fields : Fields} (ordered : fields.Ordered)
    (absent : Fields.get? key fields = none) : Fields.get? key (align path fields) = none := by
  obtain none | mapped := get?_align_of_isLower keyLower lower ordered
  · exact none
  · rw [mapped, absent]
    rfl

end Key

open Key

namespace Fields

variable {may : String → Value → Value → Prop} {first second : Fields}

theorem Alike.variant?_eq (alike : Alike may first second) (ascending : first.Ascending)
    (otherAscending : second.Ascending) (key : String) :
    variant? key first = variant? key second := by
  rw [variant?, variant?, alike.keys_eq ascending otherAscending]

theorem Alike.step_eq (alike : Alike may first second) (ascending : first.Ascending)
    (otherAscending : second.Ascending) (key : String) : step key first = step key second := by
  rw [step, step, alike.variant?_eq ascending otherAscending, alike.isSome_get? key]

/-- Values that may differ may still do so under another spelling of their key, and when they are
aligned inside. -/
structure Steady (may : String → Value → Value → Prop) : Prop where
  turn : ∀ {key other value replaced}, folded key = folded other →
    may key value replaced → may other value replaced
  enter : ∀ {key value replaced path}, (∀ name ∈ path, IsLower name) →
    value.Ordered → replaced.Ordered → may key value replaced →
      may key (alignIn path value) (alignIn path replaced)

/-- Alignment keeps documents alike. -/
theorem Alike.align (steady : Steady may) (alike : Alike may first second)
    (ordered : first.Ordered) (otherOrdered : second.Ordered) {path : List String}
    (lower : ∀ name ∈ path, IsLower name) :
    Alike may (Key.align path first) (Key.align path second) := by
  have sameVariant := alike.variant?_eq ordered.ascending otherOrdered.ascending
  have sameStep := alike.step_eq ordered.ascending otherOrdered.ascending
  cases path with
  | nil => exact alike
  | cons key rest =>
      cases rest with
      | nil =>
          rw [align_last ordered.ascending, align_last otherOrdered.ascending, ← sameVariant]
          cases spelled : variant? key first with
          | none => exact alike
          | some variant =>
              have sameFolded := (variant?_eq_some spelled).2.2
              have rest := alike.erase ordered.ascending otherOrdered.ascending key
              obtain same | ⟨value, other, found, otherFound, differ⟩ := alike key
              · rw [← same]
                cases get? key first with
                | none => exact alike
                | some value => exact rest.insert variant (.inl rfl)
              · rw [found, otherFound]
                exact rest.insert variant (.inr (steady.turn sameFolded.symm differ))
      | cons next others =>
          have below : ∀ name ∈ next :: others, IsLower name :=
            fun name membership => lower name (List.mem_cons_of_mem key membership)
          rw [align_cons_eq ordered.ascending, align_cons_eq otherOrdered.ascending, ← sameStep]
          obtain same | ⟨value, other, found, otherFound, differ⟩ := alike (step key first)
          · rw [← same]
            cases get? (step key first) first with
            | none => exact alike
            | some value => exact alike.insert _ (.inl rfl)
          · rw [found, otherFound]
            exact alike.insert _ (.inr
              (steady.enter below (ordered.get? found) (otherOrdered.get? otherFound) differ))

/-- Alignment moves a value away from its key or leaves the other spellings of the key alone. -/
theorem Settled.align {key : String} (settled : Settled key first second)
    (present : get? key first = none ↔ get? key second = none) (keyLower : IsLower key)
    (ordered : first.Ordered) (otherOrdered : second.Ordered) {path : List String}
    (lower : ∀ name ∈ path, IsLower name) :
    Settled key (Key.align path first) (Key.align path second) := by
  by_cases absent : get? key first = none
  · exact .inl ⟨get?_align_eq_none keyLower lower ordered absent,
      get?_align_eq_none keyLower lower otherOrdered (present.mp absent)⟩
  · obtain ⟨none, -⟩ | others := settled
    · exact absurd none absent
    have otherPresent : get? key second ≠ none := fun none => absent (present.mpr none)
    cases path with
    | nil => exact .inr others
    | cons name rest =>
        by_cases here : name = key
        · subst here
          obtain ⟨value, found⟩ := Option.ne_none_iff_exists'.mp absent
          obtain ⟨other, otherFound⟩ := Option.ne_none_iff_exists'.mp otherPresent
          cases rest with
          | nil =>
              have sameVariant := variant?_congr ordered.ascending otherOrdered.ascending others
              rw [align_last ordered.ascending, align_last otherOrdered.ascending, ← sameVariant,
                found, otherFound]
              cases spelled : variant? name first with
              | none => exact .inr others
              | some variant =>
                  have aside := (variant?_eq_some spelled).2.1
                  left
                  simp only [get?_insert_of_ne aside, ordered.ascending.get?_erase,
                    otherOrdered.ascending.get?_erase, if_true, and_self]
          | cons next more =>
              rw [align_cons_eq ordered.ascending, align_cons_eq otherOrdered.ascending,
                step_of_get?_eq_some found, step_of_get?_eq_some otherFound, found, otherFound]
              right
              intro spelling aside sameFolded
              rw [get?_insert_of_ne aside.symm, get?_insert_of_ne aside.symm]
              exact others spelling aside sameFolded
        · have different : folded name ≠ folded key := by
            intro same
            exact here ((lower name List.mem_cons_self).eq_of_folded_eq keyLower same)
          right
          intro spelling aside sameFolded
          rw [get?_align_of_folded_ne (sameFolded ▸ different) rest ordered,
            get?_align_of_folded_ne (sameFolded ▸ different) rest otherOrdered]
          exact others spelling aside sameFolded

/-- Mappings that agree on all spellings of a key still do so when both are aligned. -/
theorem get?_align_congr {key : String} (ordered : first.Ordered) (otherOrdered : second.Ordered)
    (same : ∀ other, folded other = folded key → get? other first = get? other second)
    (path : List String) :
    get? key (Key.align path first) = get? key (Key.align path second) := by
  cases path with
  | nil => exact same key rfl
  | cons name rest =>
      by_cases different : folded name ≠ folded key
      · rw [get?_align_of_folded_ne different rest ordered,
          get?_align_of_folded_ne different rest otherOrdered, same key rfl]
      · have sameFolded : folded name = folded key := Decidable.not_not.mp different
        have sameName := same name sameFolded
        have sameVariant : variant? name first = variant? name second :=
          variant?_congr ordered.ascending otherOrdered.ascending
            fun other _ folds => same other (folds.trans sameFolded)
        have sameStep : step name first = step name second := by
          rw [step, step, sameVariant, sameName]
        cases rest with
        | nil =>
            rw [align_last ordered.ascending, align_last otherOrdered.ascending, ← sameVariant,
              ← sameName]
            split
            · simp only [get?_insert, ordered.ascending.get?_erase,
                otherOrdered.ascending.get?_erase, same key rfl]
            · exact same key rfl
        | cons next others =>
            rw [align_cons_eq ordered.ascending, align_cons_eq otherOrdered.ascending, ← sameStep,
              ← same (step name first) ((folded_step name first).trans sameFolded)]
            split
            · simp only [get?_insert, same key rfl]
            · exact same key rfl

end Fields

namespace Loader

/-- A property of two documents that every alignment keeps is kept by all of them together. -/
theorem foldl_align_induction {holds : Fields → Fields → Prop} {allowed : List String → Prop}
    (step : ∀ {path first second}, allowed path → first.Ordered → second.Ordered →
      holds first second → holds (align path first) (align path second))
    {paths : List (List String)} (allow : ∀ path ∈ paths, allowed path)
    {first second : Fields} (ordered : first.Ordered) (otherOrdered : second.Ordered)
    (initial : holds first second) :
    holds (paths.foldl (fun document path => align path document) first)
      (paths.foldl (fun document path => align path document) second) := by
  induction paths generalizing first second with
  | nil => exact initial
  | cons path rest inductionHypothesis =>
      obtain ⟨pathAllowed, restAllowed⟩ := List.forall_mem_cons.mp allow
      exact inductionHypothesis restAllowed (ordered_align ordered path)
        (ordered_align otherOrdered path) (step pathAllowed ordered otherOrdered initial)

theorem aligned_eq (merged : Merged) :
    aligned merged = (merged.overrides.map Override.path).foldl
      (fun document path => align path document) merged.document := by
  rw [aligned, List.foldl_map]

/-- A property of two merged documents that every alignment keeps is kept by all overrides of the
one environment. -/
theorem aligned_induction {holds : Fields → Fields → Prop} {allowed : List String → Prop}
    (step : ∀ {path first second}, allowed path → first.Ordered → second.Ordered →
      holds first second → holds (align path first) (align path second))
    {first second : Merged}
    (allow : ∀ path ∈ first.overrides.map Override.path, allowed path)
    (samePaths : first.overrides.map Override.path = second.overrides.map Override.path)
    (ordered : first.document.Ordered) (otherOrdered : second.document.Ordered)
    (initial : holds first.document second.document) :
    holds (aligned first) (aligned second) := by
  have kept := foldl_align_induction step allow ordered otherOrdered initial
  rw [← aligned_eq, samePaths, ← aligned_eq] at kept
  exact kept

theorem ordered_aligned {merged : Merged} (ordered : merged.document.Ordered) :
    (aligned merged).Ordered :=
  ordered_foldl_align ordered merged.overrides

theorem outcome_load_of_merge {loader : Loader} {world : World} {sources : List Source}
    {merged : Merged} (merges : (loader.merge world sources).outcome = .ok merged) :
    (loader.load world sources).outcome = (settle merged).outcome := by
  rw [load, Traced.outcome_bind, merges, Except.bind]

/-- What all values have that are read holds of a merged document. -/
theorem holds_of_outcome_merge {holds : Value → Prop} (closed : Value.Closed holds)
    {loader : Loader} {world : World} {sources : List Source} {merged : Merged}
    (merges : (loader.merge world sources).outcome = .ok merged) :
    holds (.mapping merged.document) := by
  obtain ⟨layers, visits, rfl⟩ := (outcome_merge_eq_ok_iff _ _ _ _).mp merges
  exact holds_documentOf closed (visits.holds closed) _

theorem ordered_of_outcome_merge {loader : Loader} {world : World} {sources : List Source}
    {merged : Merged} (merges : (loader.merge world sources).outcome = .ok merged) :
    merged.document.Ordered :=
  (Fields.ordered_mapping_iff _).mp (holds_of_outcome_merge Value.closed_ordered merges)

theorem lower_of_outcome_merge {loader : Loader} {world : World} {sources : List Source}
    {merged : Merged} (merges : (loader.merge world sources).outcome = .ok merged) :
    ∀ path ∈ merged.overrides.map Override.path, ∀ name ∈ path, IsLower name := by
  obtain ⟨layers, visits, rfl⟩ := (outcome_merge_eq_ok_iff _ _ _ _).mp merges
  intro path membership
  obtain ⟨override, listed, rfl⟩ := List.mem_map.mp membership
  exact (Override.lower_of_mem_overrides listed).2

end Loader

end BotConfig
