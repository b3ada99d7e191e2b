import BotConfig.Proofs.Secrets

/-!
Secrets that can be seen.

Where two documents hold different texts as a secret, they still do so after alignment, there or at
another spelling of the keys.  What stands at another spelling is not masked.
-/

namespace BotConfig

open Key

/-! ### What masking leaves alone -/

theorem Key.Apart.of_length_eq {α : Type} {first second : List α}
    (sameLength : first.length = second.length) (different : first ≠ second) :
    Apart first second :=
  ⟨fun isPrefix => different (isPrefix.eq_of_length sameLength),
    fun isPrefix => different (isPrefix.eq_of_length sameLength.symm).symm⟩

theorem Value.atPath?_sorted (value : Value) (path : List String) :
    value.sorted.atPath? path = (value.atPath? path).map Value.sorted := by
  induction path generalizing value with
  | nil => simp
  | cons key rest inductionHypothesis =>
      cases value with
      | mapping fields =>
          rw [atPath?_cons, atPath?_cons, sorted, entries, entries, Fields.get?_sortedFields]
          cases Fields.get? key fields with
          | none => rfl
          | some child => exact inductionHypothesis child
      | _ => rfl

theorem Redaction.atPath?_mask_of_apart {path other : List String} (apart : Apart path other)
    (value : Value) : (mask path value).atPath? other = value.atPath? other := by
  induction path generalizing other value with
  | nil => exact absurd rfl apart.left_ne_nil
  | cons key rest inductionHypothesis =>
      cases other with
      | nil => exact absurd rfl apart.right_ne_nil
      | cons name others =>
          cases value with
          | mapping fields =>
              rw [mask, Value.atPath?_cons, Value.atPath?_cons, Value.entries, Value.entries,
                get?_maskField]
              by_cases here : name = key
              · subst here
                rw [if_pos rfl]
                cases Fields.get? name fields with
                | none => rfl
                | some child => exact inductionHypothesis apart.tail child
              · rw [if_neg here]
          | _ => rfl

/-- A redacted configuration holds what it held before at paths that lead to no secret. -/
theorem Config.atPath?_redacted (config : Config) {path : List String}
    (apart : ∀ secret ∈ Redaction.secretPaths, Apart secret path) :
    config.redacted.atPath? path = (config.encode.atPath? path).map Value.sorted := by
  have unmasked {secrets : List (List String)} (apart : ∀ secret ∈ secrets, Apart secret path)
      (value : Value) :
      (secrets.foldl (fun value path => Redaction.mask path value) value).atPath? path =
        value.atPath? path := by
    induction secrets generalizing value with
    | nil => rfl
    | cons secret rest inductionHypothesis =>
        obtain ⟨secretApart, restApart⟩ := List.forall_mem_cons.mp apart
        rw [List.foldl_cons, inductionHypothesis restApart,
          Redaction.atPath?_mask_of_apart secretApart]
  rw [redacted_eq, Value.atPath?_sorted, unmasked apart]

/-! ### Differences under alignment -/

namespace Fields

theorem steady_true : Steady (fun _ _ _ => True) := ⟨fun _ _ => trivial, fun _ _ _ _ => trivial⟩

/-- Two mappings hold different things at a spelling of a key, which is the key itself unless the
key is left out. -/
def Bared (key : String) (differ : Value → Value → Prop) (first second : Fields) : Prop :=
  ∃ spelling value other, folded spelling = folded key ∧ get? spelling first = some value ∧
    get? spelling second = some other ∧ differ value other ∧
    (spelling = key ∨ get? key first = none ∧ get? key second = none)

variable {key : String} {differ : Value → Value → Prop} {first second : Fields}

/-- A path to another key leaves the difference where it is. -/
theorem Bared.align_of_folded_ne (bared : Bared key differ first second)
    (ordered : first.Ordered) (otherOrdered : second.Ordered) {name : String}
    (away : folded name ≠ folded key) (rest : List String) :
    Bared key differ (Key.align (name :: rest) first) (Key.align (name :: rest) second) := by
  obtain ⟨spelling, value, other, sameFolded, found, otherFound, differs, place⟩ := bared
  have awayFromSpelling : folded name ≠ folded spelling := sameFolded ▸ away
  refine ⟨spelling, value, other, sameFolded, ?_, ?_, differs, ?_⟩
  · rw [get?_align_of_folded_ne awayFromSpelling rest ordered, found]
  · rw [get?_align_of_folded_ne awayFromSpelling rest otherOrdered, otherFound]
  · rw [get?_align_of_folded_ne away rest ordered, get?_align_of_folded_ne away rest otherOrdered]
    exact place

/-- Where the last key is moved to another spelling, the difference at it moves along. -/
theorem Bared.align_last (bared : Bared key differ first second)
    (alike : first.Alike (fun _ _ _ => True) second) (ordered : first.Ordered)
    (otherOrdered : second.Ordered) :
    Bared key differ (Key.align [key] first) (Key.align [key] second) := by
  obtain ⟨spelling, value, other, sameFolded, found, otherFound, differs, place⟩ := bared
  rw [Key.align_last ordered.ascending, Key.align_last otherOrdered.ascending,
    ← alike.variant?_eq ordered.ascending otherOrdered.ascending]
  cases spelled : variant? key first with
  | none => exact ⟨spelling, value, other, sameFolded, found, otherFound, differs, place⟩
  | some variant =>
      obtain rfl | ⟨absent, otherAbsent⟩ := place
      · obtain ⟨-, aside, variantFolded⟩ := variant?_eq_some spelled
        rw [found, otherFound]
        refine ⟨variant, value, other, variantFolded, get?_insert_self _ _ _,
          get?_insert_self _ _ _, differs, .inr ?_⟩
        simp only [get?_insert_of_ne aside, ordered.ascending.get?_erase,
          otherOrdered.ascending.get?_erase, if_true, and_self]
      · rw [absent, otherAbsent]
        exact ⟨spelling, value, other, sameFolded, found, otherFound, differs,
          .inr ⟨absent, otherAbsent⟩⟩

/-- What both mappings hold at a spelling may change, as long as what differs there still does. -/
theorem Bared.insert_both (bared : Bared key differ first second) {spelling : String}
    {value other newValue newOther : Value} (found : get? spelling first = some value)
    (otherFound : get? spelling second = some other)
    (kept : differ value other → differ newValue newOther) :
    Bared key differ (insert spelling newValue first) (insert spelling newOther second) := by
  obtain ⟨bare, _, _, sameFolded, bareFound, otherBareFound, differs, place⟩ := bared
  have stillAbsent (missing : get? key first = none ∧ get? key second = none) :
      get? key (insert spelling newValue first) = none ∧
        get? key (insert spelling newOther second) = none := by
    have aside : spelling ≠ key := by
      rintro rfl
      exact Option.some_ne_none value (found.symm.trans missing.1)
    rw [get?_insert_of_ne aside, get?_insert_of_ne aside]
    exact missing
  by_cases here : spelling = bare
  · subst here
    cases found.symm.trans bareFound
    cases otherFound.symm.trans otherBareFound
    exact ⟨spelling, _, _, sameFolded, get?_insert_self _ _ _, get?_insert_self _ _ _,
      kept differs, place.imp_right stillAbsent⟩
  · refine ⟨bare, _, _, sameFolded, ?_, ?_, differs, place.imp_right stillAbsent⟩
    · rw [get?_insert_of_ne here, bareFound]
    · rw [get?_insert_of_ne here, otherBareFound]

/-- A longer path stays outside the difference or works inside both of its sides. -/
theorem Bared.align_cons (bared : Bared key differ first second)
    (alike : first.Alike (fun _ _ _ => True) second) (ordered : first.Ordered)
    (otherOrdered : second.Ordered) (name next : String) (rest : List String)
    (inside : ∀ {value other}, value.Ordered → other.Ordered → differ value other →
      differ (alignIn (next :: rest) value) (alignIn (next :: rest) other)) :
    Bared key differ (Key.align (name :: next :: rest) first)
      (Key.align (name :: next :: rest) second) := by
  have present := alike.get?_eq_none_iff (step name first)
  rw [align_cons_eq ordered.ascending, align_cons_eq otherOrdered.ascending,
    ← alike.step_eq ordered.ascending otherOrdered.ascending]
  cases found : get? (step name first) first with
  | none =>
      rw [present.mp found]
      exact bared
  | some child =>
      obtain ⟨otherChild, otherFound⟩ := Option.ne_none_iff_exists'.mp fun absent =>
        Option.some_ne_none child (found.symm.trans (present.mpr absent))
      rw [otherFound]
      exact bared.insert_both found otherFound
        (inside (ordered.get? found) (otherOrdered.get? otherFound))

theorem Bared.align (bared : Bared key differ first second)
    (inside : ∀ {value other path}, (∀ name ∈ path, IsLower name) → value.Ordered →
      other.Ordered → differ value other → differ (alignIn path value) (alignIn path other))
    (alike : first.Alike (fun _ _ _ => True) second) (ordered : first.Ordered)
    (otherOrdered : second.Ordered) (keyLower : IsLower key) {path : List String}
    (lower : ∀ name ∈ path, IsLower name) :
    Bared key differ (Key.align path first) (Key.align path second) := by
  rcases path with _ | ⟨name, _ | ⟨next, rest⟩⟩
  · exact bared
  · by_cases here : name = key
    · subst here
      exact bared.align_last alike ordered otherOrdered
    · refine bared.align_of_folded_ne ordered otherOrdered (fun same => here ?_) []
      exact (lower name List.mem_cons_self).eq_of_folded_eq keyLower same
  · exact bared.align_cons alike ordered otherOrdered name next rest
      (inside fun part membership => lower part (List.mem_cons_of_mem name membership))

end Fields

namespace Config

/-- Different texts. -/
def TextsDiffer (value other : Value) : Prop := value.Filled ∧ other.Filled ∧ value ≠ other

/-- Different texts inside mappings with the same keys. -/
def DifferInside (key : String) (value other : Value) : Prop :=
  ∃ inside otherInside : Fields, value = .mapping inside ∧ other = .mapping otherInside ∧
    inside.Alike (fun _ _ _ => True) otherInside ∧
    Fields.Bared key TextsDiffer inside otherInside

/-- Documents hold different texts as a secret, but for the case of its keys. -/
def Exposed (secret : String × String) (first second : Fields) : Prop :=
  Fields.Bared secret.1 (DifferInside secret.2) first second

variable {secret : String × String} {first second : Fields}

theorem TextsDiffer.alignIn {value other : Value} (differ : TextsDiffer value other)
    (path : List String) : TextsDiffer (Key.alignIn path value) (Key.alignIn path other) := by
  obtain ⟨filled, otherFilled, different⟩ := differ
  rw [filled.alignIn_eq, otherFilled.alignIn_eq]
  exact ⟨filled, otherFilled, different⟩

theorem DifferInside.alignIn {key : String} {value other : Value} {path : List String}
    (keyLower : IsLower key) (lower : ∀ name ∈ path, IsLower name) (ordered : value.Ordered)
    (otherOrdered : other.Ordered) (differ : DifferInside key value other) :
    DifferInside key (Key.alignIn path value) (Key.alignIn path other) := by
  obtain ⟨inside, otherInside, rfl, rfl, alike, bared⟩ := differ
  rw [Fields.ordered_mapping_iff] at ordered otherOrdered
  exact ⟨_, _, rfl, rfl, alike.align Fields.steady_true ordered otherOrdered lower,
    bared.align (fun _ _ _ differ => differ.alignIn _) alike ordered otherOrdered keyLower lower⟩

theorem Exposed.align (exposed : Exposed secret first second)
    (secretLower : IsLower secret.1 ∧ IsLower secret.2)
    (alike : first.Alike (fun _ _ _ => True) second) (ordered : first.Ordered)
    (otherOrdered : second.Ordered) {path : List String} (lower : ∀ name ∈ path, IsLower name) :
    Exposed secret (Key.align path first) (Key.align path second) :=
  Fields.Bared.align exposed (fun below valueOrdered otherValueOrdered differ =>
    differ.alignIn secretLower.2 below valueOrdered otherValueOrdered) alike ordered otherOrdered
    secretLower.1 lower

/-- A secret that differs is exposed. -/
theorem exposed_of_sameButSecrets (same : SameButSecrets first second)
    (differs : (Value.mapping first).atPath? [secret.1, secret.2] ≠
      (Value.mapping second).atPath? [secret.1, secret.2]) : Exposed secret first second := by
  obtain sameThere | ⟨_, _, found, otherFound, inside, otherInside, rfl, rfl, alike⟩ :=
    same secret.1
  · refine absurd ?_ differs
    rw [Value.atPath?_cons, Value.atPath?_cons, Value.entries, Value.entries, sameThere]
  · obtain sameInside | ⟨value, other, valueFound, otherValueFound, -, filled, otherFilled⟩ :=
      alike secret.2
    · refine absurd ?_ differs
      simp only [Value.atPath?_cons, Value.entries, found, otherFound, Option.bind_some,
        sameInside]
    · have different : value ≠ other := by
        rintro rfl
        refine differs ?_
        simp only [Value.atPath?_cons, Value.entries, found, otherFound, Option.bind_some,
          valueFound, otherValueFound]
      exact ⟨secret.1, _, _, rfl, found, otherFound,
        ⟨inside, otherInside, rfl, rfl, alike.mono fun _ _ _ _ => trivial,
          secret.2, value, other, rfl, valueFound, otherValueFound,
          ⟨filled, otherFilled, different⟩, .inl rfl⟩, .inl rfl⟩

/-! ### Secrets that are moved away -/

theorem isLower_of_mem_modeledKeys : ∀ key ∈ modeledKeys, IsLower key := by
  simp only [IsLower]
  decide +kernel

theorem apart_of_notMem_documentSecrets {part key : String}
    (shown : (part, key) ∉ documentSecrets) :
    ∀ path ∈ Redaction.secretPaths, Apart path ["extra", part, key] := by
  have paths : ∀ path ∈ Redaction.secretPaths, path.head? ≠ some "extra" ∨
      ∃ secret ∈ documentSecrets, path = ["extra", secret.1, secret.2] := by
    decide
  intro path membership
  obtain elsewhere | ⟨secret, known, rfl⟩ := paths path membership
  · cases path with
    | nil =>
        have nonempty : ∀ path ∈ Redaction.secretPaths, path ≠ [] := by decide
        exact absurd rfl (nonempty [] membership)
    | cons head rest => exact .of_head_ne (fun same => elsewhere (congrArg some same)) _ _
  · refine .of_length_eq rfl ?_
    rintro ⟨⟩
    exact shown known

/-- A secret that is not where it is masked differs where nothing is. -/
theorem Exposed.exists_atPath?_ne (exposed : Exposed secret first second)
    (known : secret ∈ documentSecrets) (moved : ¬ Stays first secret) :
    ∃ part key value other, part ∉ modeledKeys ∧ (part, key) ∉ documentSecrets ∧
      (Value.mapping first).atPath? [part, key] = some value ∧
      (Value.mapping second).atPath? [part, key] = some other ∧ TextsDiffer value other := by
  obtain ⟨partLower, keyLower⟩ := isLower_of_mem_documentSecrets secret known
  obtain ⟨part, _, _, samePart, found, otherFound, insideDiffers, partPlace⟩ := exposed
  obtain ⟨inside, otherInside, rfl, rfl, -, bared⟩ := insideDiffers
  obtain ⟨key, value, other, sameKey, valueFound, otherValueFound, differ, keyPlace⟩ := bared
  have stands : (Value.mapping first).atPath? [part, key] = some value := by
    rw [Value.atPath?_cons, Value.entries, found, Option.bind_some, Value.atPath?_cons,
      Value.entries, valueFound, Option.bind_some, Value.atPath?_nil]
  have otherStands : (Value.mapping second).atPath? [part, key] = some other := by
    rw [Value.atPath?_cons, Value.entries, otherFound, Option.bind_some, Value.atPath?_cons,
      Value.entries, otherValueFound, Option.bind_some, Value.atPath?_nil]
  refine ⟨part, key, value, other, ?_, ?_, stands, otherStands, differ⟩
  · intro modeled
    have isPart : part = secret.1 :=
      (isLower_of_mem_modeledKeys part modeled).eq_of_folded_eq partLower samePart
    subst isPart
    refine moved ?_
    rw [Stays, shelter, if_pos modeled, Value.atPath?_cons, Value.entries, found]
    exact Option.some_ne_none _
  · intro listed
    obtain ⟨listedLower, listedKeyLower⟩ := isLower_of_mem_documentSecrets _ listed
    have isPart : part = secret.1 := listedLower.eq_of_folded_eq partLower samePart
    have isKey : key = secret.2 := listedKeyLower.eq_of_folded_eq keyLower sameKey
    subst isPart isKey
    refine moved ?_
    unfold Stays shelter
    split
    · rw [Value.atPath?_cons, Value.entries, found]
      exact Option.some_ne_none _
    · rw [stands]
      exact Option.some_ne_none _

/-- An entry that means nothing and is not masked can be read in a redacted configuration. -/
theorem atPath?_redacted_extra {config : Config} {document : Fields}
    (extra : config.extra = extraOf document) {part key content : String}
    (unmodeled : part ∉ modeledKeys) (shown : (part, key) ∉ documentSecrets)
    (stands : (Value.mapping document).atPath? [part, key] = some (.text content)) :
    config.redacted.atPath? ["extra", part, key] = some (.text content) := by
  have extraStands : config.encode.atPath? ["extra", part, key] =
      (Value.mapping config.extra).atPath? [part, key] := rfl
  rw [config.atPath?_redacted (apart_of_notMem_documentSecrets shown), extraStands, extra,
    Value.atPath?_cons, Value.entries, get?_extraOf, if_neg unmodeled]
  rw [Value.atPath?_cons, Value.entries] at stands
  rw [stands]
  rfl

theorem ShownAlike.redacted_ne {config other : Config}
    (alike : ShownAlike first second config other)
    (exposed : Exposed secret first second) (known : secret ∈ documentSecrets)
    (moved : ¬ Stays first secret) : config.redacted ≠ other.redacted := by
  obtain ⟨part, key, _, _, unmodeled, shown, stands, otherStands, ⟨_⟩, ⟨_⟩, different⟩ :=
    exposed.exists_atPath?_ne known moved
  intro same
  have content := atPath?_redacted_extra alike.extra unmodeled shown stands
  have otherContent := atPath?_redacted_extra alike.otherExtra unmodeled shown otherStands
  rw [same, otherContent] at content
  exact different (Option.some.inj content).symm

end Config

end BotConfig
