import BotConfig.Proofs.Elsewhere
import BotConfig.Proofs.Settlement

/-!
Documents without an override.

An override puts its value at its path, and mappings on the way to it where there is nothing.  If
the documents and the other overrides have nothing but mappings on the way, the merged document is
without the override what it is with it, but for what is put there.
-/

namespace BotConfig

namespace Fields

/-- What a key leads to as a mapping. Where there is none it is empty. -/
def inside (key : String) (fields : Fields) : Fields := ((get? key fields).getD .null).entries

/-- A key leads to a mapping or to nothing. -/
def Admits (key : String) (fields : Fields) : Prop :=
  ∀ value, get? key fields = some value → ∃ child, value = .mapping child

/-- On the way to the end of a path everything that is met is a mapping. -/
def Open : List String → Fields → Prop
  | [], _ => True
  | key :: rest, fields => rest ≠ [] → Admits key fields ∧ Open rest (inside key fields)

/-- There are mappings all the way to the end of a path, and nothing at the end. -/
def Vacant : List String → Fields → Prop
  | [], _ => False
  | [key], fields => get? key fields = none
  | key :: next :: rest, fields =>
      ∃ child, get? key fields = some (.mapping child) ∧ Vacant (next :: rest) child

/-- The second mapping is the first one with something put at the end of a path, and with mappings
on the way to it. -/
def Planted : List String → Fields → Fields → Prop
  | [], _, _ => True
  | key :: rest, first, second =>
      (∀ other, other ≠ key → get? other first = get? other second) ∧
      (rest ≠ [] → Admits key first ∧ Admits key second ∧
        (get? key second = none → get? key first = none) ∧
        Planted rest (inside key first) (inside key second))

variable {path other : List String} {key : String} {fields first second patch otherPatch : Fields}

/-! ### Single keys -/

theorem inside_of_get?_eq_none (absent : get? key fields = none) : inside key fields = [] := by
  rw [inside, absent]
  rfl

theorem inside_of_get?_eq_some {child : Fields} (found : get? key fields = some (.mapping child)) :
    inside key fields = child := by
  rw [inside, found]
  rfl

theorem Ordered.inside (ordered : fields.Ordered) (key : String) : (inside key fields).Ordered :=
  (ordered.ordered_getD_get? key).entries

theorem Ordered.pruned (ordered : fields.Ordered) : Fields.Ordered (Value.prunedFields fields) :=
  (ordered_mapping_iff _).mp
    (Value.closed_ordered.pruned (.mapping fields) ((ordered_mapping_iff fields).mpr ordered))

theorem Admits.cases (admits : Admits key fields) :
    get? key fields = none ∨ ∃ child, get? key fields = some (.mapping child) := by
  cases found : get? key fields with
  | none => exact .inl rfl
  | some value =>
      obtain ⟨child, rfl⟩ := admits value found
      exact .inr ⟨child, rfl⟩

theorem get?_overlay (base : Fields) (ordered : patch.Ordered) (key : String) :
    get? key (overlay base patch) =
      match get? key patch with
      | none => get? key base
      | some value => some (((get? key base).getD .null).overlay value) :=
  Value.get?_overlayFields base ordered.ascending key

theorem get?_overlay_mapping (base : Fields) {child : Fields} (ordered : patch.Ordered)
    (found : get? key patch = some (.mapping child)) :
    get? key (overlay base patch) = some (.mapping (overlay (inside key base) child)) := by
  have childAscending := ((ordered_mapping_iff child).mp (ordered.get? found)).ascending
  rw [get?_overlay base ordered, found]
  exact congrArg some (Value.overlay_mapping _ childAscending)

theorem Admits.overlay {base : Fields} (admits : Admits key base) (patchAdmits : Admits key patch)
    (ordered : patch.Ordered) : Admits key (overlay base patch) := by
  intro value found
  obtain absent | ⟨child, isChild⟩ := patchAdmits.cases
  · rw [get?_overlay base ordered, absent] at found
    exact admits value found
  · rw [get?_overlay_mapping base ordered isChild] at found
    exact ⟨_, (Option.some.inj found).symm⟩

theorem inside_overlay (base : Fields) (admits : Admits key patch) (ordered : patch.Ordered) :
    inside key (overlay base patch) = overlay (inside key base) (inside key patch) := by
  obtain absent | ⟨child, isChild⟩ := admits.cases
  · rw [inside_of_get?_eq_none absent, inside, get?_overlay base ordered, absent]
    rfl
  · rw [inside_of_get?_eq_some isChild,
      inside_of_get?_eq_some (get?_overlay_mapping base ordered isChild)]

theorem Admits.pruned (admits : Admits key fields) (ascending : fields.Ascending) :
    Admits key (Value.prunedFields fields) := by
  intro value found
  rw [Value.get?_prunedFields ascending] at found
  obtain absent | ⟨child, isChild⟩ := admits.cases
  · rw [absent] at found
    cases found
  · rw [isChild] at found
    exact ⟨_, (Option.some.inj found).symm⟩

theorem inside_pruned (ascending : fields.Ascending) (key : String) :
    inside key (Value.prunedFields fields) = Value.prunedFields (inside key fields) := by
  rw [inside, ← Value.pruned_getD_get? ascending, Value.entries_pruned]
  rfl

/-! ### Mappings on the way to the end of a path -/

theorem planted_self (isOpen : Open path fields) : Planted path fields fields := by
  induction path generalizing fields with
  | nil => exact trivial
  | cons key rest inductionHypothesis =>
      refine ⟨fun _ _ => rfl, fun goesOn => ?_⟩
      obtain ⟨admits, below⟩ := isOpen goesOn
      exact ⟨admits, admits, id, inductionHypothesis below⟩

theorem open_nil (path : List String) : Open path [] := by
  induction path with
  | nil => exact trivial
  | cons key rest inductionHypothesis => exact fun _ => ⟨nofun, inductionHypothesis⟩

theorem get?_nested_cons (key name : String) (rest : List String) (value : Value) :
    get? name (Fields.nested (key :: rest) value) =
      if key = name then some (value.nested rest) else none := rfl

theorem inside_nested_cons (key : String) {rest : List String} (goesOn : rest ≠ [])
    (value : Value) :
    inside key (Fields.nested (key :: rest) value) = Fields.nested rest value := by
  refine inside_of_get?_eq_some ?_
  rw [get?_nested_cons, if_pos rfl, Value.mapping_nested goesOn]

theorem planted_nested (nonempty : path ≠ []) (value : Value) :
    Planted path [] (Fields.nested path value) := by
  induction path with
  | nil => exact absurd rfl nonempty
  | cons key rest inductionHypothesis =>
      refine ⟨fun other different => ?_, fun goesOn => ⟨nofun, ?_, fun _ => rfl, ?_⟩⟩
      · rw [get?_nested_cons, if_neg (Ne.symm different)]
        rfl
      · intro content found
        rw [get?_nested_cons, if_pos rfl, ← Value.mapping_nested goesOn] at found
        exact ⟨_, (Option.some.inj found).symm⟩
      · rw [inside_nested_cons key goesOn]
        exact inductionHypothesis goesOn

/-- A value on no key of the way to the end of a path is in mappings there. -/
theorem open_nested (noPrefix : ¬ other <+: path) (value : Value) :
    Open path (Fields.nested other value) := by
  induction path generalizing other with
  | nil => exact trivial
  | cons key rest inductionHypothesis =>
      intro goesOn
      cases other with
      | nil => exact absurd List.nil_prefix noPrefix
      | cons name others =>
          by_cases same : name = key
          · subst same
            have below : ¬ others <+: rest :=
              fun isPrefix => noPrefix (List.cons_prefix_cons.mpr ⟨rfl, isPrefix⟩)
            have othersGoOn : others ≠ [] := by
              rintro rfl
              exact below List.nil_prefix
            refine ⟨fun content found => ?_, ?_⟩
            · rw [get?_nested_cons, if_pos rfl, ← Value.mapping_nested othersGoOn] at found
              exact ⟨_, (Option.some.inj found).symm⟩
            · rw [inside_nested_cons name othersGoOn]
              exact inductionHypothesis below
          · have absent : get? key (Fields.nested (name :: others) value) = none := by
              rw [get?_nested_cons, if_neg same]
            refine ⟨fun content found => ?_, ?_⟩
            · rw [absent] at found
              cases found
            · rw [inside_of_get?_eq_none absent]
              exact open_nil rest

/-- A path that goes on beyond a value that is no mapping is not open. -/
theorem not_open_nested {value : Value} (plain : ∀ child, value ≠ .mapping child)
    (nonempty : path ≠ []) {rest : List String} (goesOn : rest ≠ []) :
    ¬ Open (path ++ rest) (Fields.nested path value) := by
  induction path with
  | nil => exact absurd rfl nonempty
  | cons key others inductionHypothesis =>
      intro isOpen
      obtain ⟨admits, below⟩ := isOpen (List.append_ne_nil_of_right_ne_nil others goesOn)
      cases others with
      | nil =>
          obtain ⟨child, isChild⟩ := admits value (by rw [get?_nested_cons, if_pos rfl]; rfl)
          exact plain child isChild
      | cons next others =>
          have othersGoOn := List.cons_ne_nil next others
          rw [inside_nested_cons key othersGoOn] at below
          exact inductionHypothesis othersGoOn below

/-! ### What keeps a difference where it is -/

theorem Planted.overlay (planted : Planted path first second)
    (patched : Planted path patch otherPatch) (ordered : patch.Ordered)
    (otherOrdered : otherPatch.Ordered) :
    Planted path (overlay first patch) (overlay second otherPatch) := by
  induction path generalizing first second patch otherPatch with
  | nil => exact trivial
  | cons key rest inductionHypothesis =>
      refine ⟨fun other different => ?_, fun goesOn => ?_⟩
      · rw [get?_overlay first ordered, get?_overlay second otherOrdered,
          planted.1 other different, patched.1 other different]
      obtain ⟨admits, otherAdmits, there, below⟩ := planted.2 goesOn
      obtain ⟨patchAdmits, otherPatchAdmits, patchThere, patchBelow⟩ := patched.2 goesOn
      refine ⟨admits.overlay patchAdmits ordered, otherAdmits.overlay otherPatchAdmits otherOrdered,
        fun absent => ?_, ?_⟩
      · obtain otherPatchAbsent | ⟨child, isChild⟩ := otherPatchAdmits.cases
        · rw [get?_overlay second otherOrdered, otherPatchAbsent] at absent
          rw [get?_overlay first ordered, patchThere otherPatchAbsent]
          exact there absent
        · rw [get?_overlay_mapping second otherOrdered isChild] at absent
          cases absent
      · rw [inside_overlay first patchAdmits ordered,
          inside_overlay second otherPatchAdmits otherOrdered]
        exact inductionHypothesis below patchBelow (ordered.inside key) (otherOrdered.inside key)

theorem Planted.pruned (planted : Planted path first second) (ordered : first.Ordered)
    (otherOrdered : second.Ordered) :
    Planted path (Value.prunedFields first) (Value.prunedFields second) := by
  induction path generalizing first second with
  | nil => exact trivial
  | cons key rest inductionHypothesis =>
      have ascending := ordered.ascending
      have otherAscending := otherOrdered.ascending
      refine ⟨fun other different => ?_, fun goesOn => ?_⟩
      · rw [Value.get?_prunedFields ascending, Value.get?_prunedFields otherAscending,
          planted.1 other different]
      obtain ⟨admits, otherAdmits, there, below⟩ := planted.2 goesOn
      refine ⟨admits.pruned ascending, otherAdmits.pruned otherAscending, fun absent => ?_, ?_⟩
      · obtain otherAbsent | ⟨child, isChild⟩ := otherAdmits.cases
        · rw [Value.get?_prunedFields ascending, there otherAbsent]
        · rw [Value.get?_prunedFields otherAscending, isChild] at absent
          cases absent
      · rw [inside_pruned ascending, inside_pruned otherAscending]
        exact inductionHypothesis below (ordered.inside key) (otherOrdered.inside key)

theorem Planted.erase (planted : Planted path first second) (ascending : first.Ascending)
    (otherAscending : second.Ascending) (name : String) :
    Planted path (Fields.erase name first) (Fields.erase name second) := by
  cases path with
  | nil => exact trivial
  | cons key rest =>
      refine ⟨fun other different => ?_, fun goesOn => ?_⟩
      · rw [ascending.get?_erase, otherAscending.get?_erase, planted.1 other different]
      · by_cases same : name = key
        · subst same
          have absent : get? name (Fields.erase name first) = none := by
            rw [ascending.get?_erase, if_pos rfl]
          have otherAbsent : get? name (Fields.erase name second) = none := by
            rw [otherAscending.get?_erase, if_pos rfl]
          rw [inside_of_get?_eq_none absent, inside_of_get?_eq_none otherAbsent, Admits, Admits,
            absent, otherAbsent]
          exact ⟨nofun, nofun, id, planted_self (open_nil rest)⟩
        · obtain ⟨admits, otherAdmits, there, below⟩ := planted.2 goesOn
          rw [inside, inside, Admits, Admits, get?_erase_of_ne same, get?_erase_of_ne same]
          exact ⟨admits, otherAdmits, there, below⟩

/-- What is put at a free end of a path is taken away again. -/
theorem Planted.removed_eq (planted : Planted path first second) (vacant : Vacant path first)
    (ordered : first.Ordered) (otherOrdered : second.Ordered) : removed path second = first := by
  induction path generalizing first second with
  | nil => exact vacant.elim
  | cons key rest inductionHypothesis =>
      cases rest with
      | nil =>
          apply eq_of_get?_eq (otherOrdered.ascending.erase key) ordered.ascending
          intro other
          rw [otherOrdered.ascending.get?_erase]
          split
          · rename_i same
            subst same
            exact vacant.symm
          · rename_i different
            exact (planted.1 other (Ne.symm different)).symm
      | cons next others =>
          obtain ⟨inner, found, innerVacant⟩ := vacant
          obtain ⟨-, otherAdmits, there, below⟩ := planted.2 (List.cons_ne_nil next others)
          obtain otherAbsent | ⟨child, otherFound⟩ := otherAdmits.cases
          · rw [there otherAbsent] at found
            cases found
          rw [inside_of_get?_eq_some found, inside_of_get?_eq_some otherFound] at below
          have same := inductionHypothesis below innerVacant
            ((ordered_mapping_iff inner).mp (ordered.get? found))
            ((ordered_mapping_iff child).mp (otherOrdered.get? otherFound))
          rw [removed, otherFound]
          dsimp only
          rw [same]
          apply eq_of_get?_eq (otherOrdered.ascending.insert key _) ordered.ascending
          intro other
          rw [get?_insert]
          split
          · rename_i here
            subst here
            exact found.symm
          · rename_i different
            exact (planted.1 other (Ne.symm different)).symm

end Fields

/-! ### The document of all layers -/

namespace Override

/-- The overrides of other paths. -/
def without (path : List String) (overrides : List Override) : List Override :=
  overrides.filter fun override => override.path ≠ path

variable {path : List String} {overrides : List Override}

theorem without_cons_of_eq {override : Override} (here : override.path = path)
    (rest : List Override) : without path (override :: rest) = without path rest :=
  List.filter_cons_of_neg (by simpa using here)

theorem without_cons_of_ne {override : Override} (elsewhere : override.path ≠ path)
    (rest : List Override) : without path (override :: rest) = override :: without path rest :=
  List.filter_cons_of_pos (by simpa using elsewhere)

theorem without_filter (path : List String) (overrides : List Override)
    (chosen : Override → Bool) :
    (without path overrides).filter chosen = without path (overrides.filter chosen) := by
  simp only [without, List.filter_filter, Bool.and_comm]

/-- A free text is laid over the documents twice, first as any other override is read.  A path that
is open for the text is open for that layer too. -/
theorem open_layer {override : Override} (nonempty : override.path ≠ [])
    (different : override.path ≠ path)
    (isOpen : Fields.Open path (Fields.nested override.path override.value)) :
    Fields.Open path override.layer := by
  unfold value at isOpen
  cases isText : override.isText with
  | false =>
      rw [isText, if_neg Bool.false_ne_true] at isOpen
      exact isOpen
  | true =>
      rw [isText, if_pos rfl] at isOpen
      refine Fields.open_nested ?_ _
      rintro ⟨rest, rfl⟩
      refine Fields.not_open_nested (by simp) nonempty ?_ isOpen
      rintro rfl
      exact different (List.append_nil _).symm

/-- The overrides of a path only put something there, if the path is open for all other ones. -/
theorem planted_foldl {value : Override → Value}
    (valuesOrdered : ∀ override, (value override).Ordered) (nonempty : path ≠ [])
    (free : ∀ override ∈ without path overrides,
      Fields.Open path (Fields.nested override.path (value override)))
    {first second : Fields} (planted : Fields.Planted path first second) :
    Fields.Planted path
      (((without path overrides).map fun override =>
        Fields.nested override.path (value override)).foldl Fields.overlay first)
      ((overrides.map fun override =>
        Fields.nested override.path (value override)).foldl Fields.overlay second) := by
  induction overrides generalizing first second with
  | nil => exact planted
  | cons override rest inductionHypothesis =>
      have layerOrdered : (Fields.nested override.path (value override)).Ordered :=
        (Value.ordered_nested (valuesOrdered override) override.path).entries
      by_cases here : override.path = path
      · rw [without_cons_of_eq here] at free ⊢
        -- The first mapping stays as it is, which is to lay an empty one over it.
        refine inductionHypothesis free ?_
        have put : Fields.Planted path [] (Fields.nested override.path (value override)) := by
          rw [here]
          exact Fields.planted_nested nonempty _
        exact planted.overlay put Fields.ordered_nil layerOrdered
      · rw [without_cons_of_ne here] at free ⊢
        obtain ⟨overrideFree, restFree⟩ := List.forall_mem_cons.mp free
        refine inductionHypothesis restFree (planted.overlay ?_ layerOrdered layerOrdered)
        exact Fields.planted_self overrideFree

theorem planted_foldl_layers (nonempty : path ≠ [])
    (overridesNonempty : ∀ override ∈ overrides, override.path ≠ [])
    (free : ∀ override ∈ without path overrides,
      Fields.Open path (Fields.nested override.path override.value))
    {first second : Fields} (planted : Fields.Planted path first second) :
    Fields.Planted path ((layers (without path overrides)).foldl Fields.overlay first)
      ((layers overrides).foldl Fields.overlay second) := by
  have one : Fields.Planted path (Fields.overlayAll ((without path overrides).map layer))
      (Fields.overlayAll (overrides.map layer)) := by
    refine planted_foldl (fun override => ordered_parse override.content) nonempty
      (fun override membership => ?_) (Fields.planted_self (Fields.open_nil path))
    obtain ⟨listed, different⟩ := List.mem_filter.mp membership
    exact open_layer (overridesNonempty override listed) (of_decide_eq_true different)
      (free override membership)
  have laid (overrides : List Override) : (Fields.overlayAll (overrides.map layer)).Ordered :=
    Fields.ordered_overlayAll (List.forall_mem_map.mpr fun override _ => override.ordered_layer)
  rw [layers, layers, List.foldl_cons, List.foldl_cons, without_filter]
  refine planted_foldl (fun override => .text override.content) nonempty ?_
    (planted.overlay one (laid _) (laid _))
  rw [← without_filter]
  intro override membership
  obtain ⟨listed, isText⟩ := List.mem_filter.mp membership
  have isOpen := free override listed
  rwa [value, if_pos isText] at isOpen

end Override

namespace Loader

variable {layers : List Layer} {path : List String} {overrides : List Override}

/-- The nulls of the documents may be dropped before the overrides are laid over them. -/
theorem documentOf_eq_of_pruned (ordered : ∀ layer ∈ layers, layer.document.Ordered)
    (overrides : List Override) :
    documentOf layers overrides = Value.prunedFields (Fields.erase Config.includeKey
      ((Override.layers overrides).foldl Fields.overlay
        (Value.prunedFields (Fields.overlayAll (layers.map Layer.document))))) := by
  have documentsOrdered := ordered_overlayAll_documents ordered
  have prunedOrdered := documentsOrdered.pruned
  have layersOrdered := Override.ordered_layers overrides
  change Value.prunedFields (Fields.erase Config.includeKey (laid layers overrides)) = _
  rw [Fields.pruned_erase (ordered_laid ordered overrides).ascending, laid,
    Fields.pruned_foldl_overlay layersOrdered documentsOrdered,
    Fields.pruned_erase (Fields.Ordered.foldl_overlay layersOrdered prunedOrdered).ascending,
    Fields.pruned_foldl_overlay layersOrdered prunedOrdered, Value.prunedFields_prunedFields]

theorem documentOf_nil (layers : List Layer) :
    documentOf layers [] = Value.prunedFields
      (Fields.erase Config.includeKey (Fields.overlayAll (layers.map Layer.document))) := rfl

/-- The list of included files is dropped, so there is no room inside it, and a path with room leads
elsewhere. -/
theorem open_of_vacant (ordered : ∀ layer ∈ layers, layer.document.Ordered)
    (isOpen : Fields.Open path (documentOf layers []))
    (vacant : Fields.Vacant path (documentOf layers overrides)) :
    Fields.Open path (Value.prunedFields (Fields.overlayAll (layers.map Layer.document))) := by
  match path, vacant with
  | [key], _ => exact fun goesOn => absurd rfl goesOn
  | key :: next :: rest, ⟨child, found, _⟩ =>
      have outside : Config.includeKey ≠ key := by
        rintro rfl
        rw [get?_includeKey_documentOf ordered] at found
        cases found
      rw [documentOf_nil,
        Fields.pruned_erase (ordered_overlayAll_documents ordered).ascending] at isOpen
      intro goesOn
      have opens := isOpen goesOn
      rw [Fields.Admits, Fields.inside, Fields.get?_erase_of_ne outside] at opens
      exact opens

/-- If a path is open for the documents and for all other overrides, then the merged document
without the overrides of the path is the merged document without what stands there, as long as
nothing does and the mappings on the way are there. -/
theorem documentOf_without (ordered : ∀ layer ∈ layers, layer.document.Ordered)
    (overridesNonempty : ∀ override ∈ overrides, override.path ≠ [])
    (isOpen : Fields.Open path (documentOf layers []))
    (free : ∀ override ∈ Override.without path overrides,
      Fields.Open path (Fields.nested override.path override.value))
    (vacant : Fields.Vacant path (documentOf layers (Override.without path overrides))) :
    documentOf layers (Override.without path overrides) =
      Fields.removed path (documentOf layers overrides) := by
  have nonempty : path ≠ [] := by
    rintro rfl
    exact vacant
  have laidOrdered (overrides : List Override) : ((Override.layers overrides).foldl Fields.overlay
      (Value.prunedFields (Fields.overlayAll (layers.map Layer.document)))).Ordered :=
    Fields.Ordered.foldl_overlay (Override.ordered_layers overrides)
      (ordered_overlayAll_documents ordered).pruned
  have planted := Override.planted_foldl_layers nonempty overridesNonempty free
    (Fields.planted_self (open_of_vacant ordered isOpen vacant))
  have erased := planted.erase (laidOrdered _).ascending (laidOrdered _).ascending Config.includeKey
  have pruned := erased.pruned ((laidOrdered _).erase _) ((laidOrdered _).erase _)
  rw [← documentOf_eq_of_pruned ordered, ← documentOf_eq_of_pruned ordered] at pruned
  exact (pruned.removed_eq vacant (ordered_documentOf ordered _)
    (ordered_documentOf ordered _)).symm

end Loader

end BotConfig
