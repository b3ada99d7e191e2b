import BotConfig.Proofs.Precedence

/-!
Free text from the environment.

The value of a variable is read like any other first, and what is read may meet other values.  The
free texts are laid over all that afterwards, each at its own path, so the last variable for a path
decides what stands there: the characters of its value.
-/

namespace BotConfig

namespace Override

/-- No free text stands above another one. -/
theorem apart_of_mem_textPaths : ∀ first ∈ textPaths, ∀ second ∈ textPaths, first ≠ second →
    Key.Apart first second := by
  unfold Key.Apart
  decide

theorem ne_nil_of_mem_textPaths : ∀ path ∈ textPaths, path ≠ [] := by decide

theorem outside_of_mem_textPaths : ∀ path ∈ textPaths,
    path.head? ≠ some Config.includeKey := by decide

theorem isText_eq_true_iff (override : Override) :
    override.isText = true ↔ override.path ∈ textPaths := List.contains_iff_mem

/-- A text is put in place of what stands at its path, and whatever stands above it. -/
theorem atPath?_overlay_textLayer {override : Override} (isText : override.path ∈ textPaths)
    (base : Fields) :
    (Value.mapping (Fields.overlay base override.textLayer)).atPath? override.path =
      some (.text override.content) := by
  have nonempty := ne_nil_of_mem_textPaths _ isText
  have ordered : (Value.mapping override.textLayer).Ordered :=
    (Value.mapping_nested nonempty (.text override.content)) ▸
      Value.ordered_nested (.text override.content) override.path
  exact Value.atPath?_overlay (.mapping base) ordered
    (atPath?_mapping_nested nonempty (.text override.content))

/-- Texts at other paths leave alone what stands at the path of a text. -/
theorem spares_textLayers_of_ne {overrides : List Override} {path : List String}
    (isText : path ∈ textPaths) (elsewhere : ∀ other ∈ overrides, other.path ≠ path) :
    ∀ layer ∈ (overrides.filter Override.isText).map textLayer,
      (Value.mapping layer).Spares path := by
  refine List.forall_mem_map.mpr fun other membership => ?_
  obtain ⟨listed, otherIsText⟩ := List.mem_filter.mp membership
  exact spares_nested (apart_of_mem_textPaths _ ((isText_eq_true_iff other).mp otherIsText) _ isText
    (elsewhere other listed)) _

/-- Of the overrides of a free text the last one gives the text. -/
theorem atPath?_foldl_layers_text {before after : List Override} {override : Override}
    (isText : override.path ∈ textPaths) (last : ∀ other ∈ after, other.path ≠ override.path)
    (base : Fields) :
    (Value.mapping ((layers (before ++ override :: after)).foldl
      Fields.overlay base)).atPath? override.path = some (.text override.content) := by
  have texts : layers (before ++ override :: after) =
      (Fields.overlayAll ((before ++ override :: after).map layer) ::
        (before.filter Override.isText).map textLayer) ++
          override.textLayer :: (after.filter Override.isText).map textLayer := by
    simp [layers, (isText_eq_true_iff override).mpr isText]
  have ordered := ordered_layers (before ++ override :: after)
  rw [texts] at ordered ⊢
  obtain ⟨-, textsOrdered⟩ := List.forall_mem_append.mp ordered
  obtain ⟨-, afterOrdered⟩ := List.forall_mem_cons.mp textsOrdered
  rw [List.foldl_append, List.foldl_cons, Fields.atPath?_foldl_overlay_of_spares afterOrdered
    (spares_textLayers_of_ne isText last), atPath?_overlay_textLayer isText]

/-! ### Variables -/

/-- A variable without a name overrides nothing. -/
theorem path?_empty (start : String) : path? start "" = none := by
  have short : afterStart? (start.toList ++ ['_', '_']) (Text.trim "".toList) = none := by
    cases start.toList <;> rfl
  rw [path?, short]
  rfl

theorem ofEnvironment_append (start : String) (first second : List (String × String)) :
    ofEnvironment start (first ++ second) =
      ofEnvironment start first ++ ofEnvironment start second :=
  List.filterMap_append

theorem ofEnvironment_cons {start name content : String} {path : List String}
    (found : path? start name = some path) (rest : List (String × String)) :
    ofEnvironment start ((name, content) :: rest) =
      ⟨path, content⟩ :: ofEnvironment start rest := by
  have named : name ≠ "" := by
    rintro rfl
    rw [path?_empty] at found
    cases found
  refine List.filterMap_cons_some ?_
  simp [named, found]

theorem path?_of_mem_ofEnvironment {start : String} {environment : List (String × String)}
    {override : Override} (membership : override ∈ ofEnvironment start environment) :
    ∃ entry ∈ environment, path? start entry.1 = some override.path := by
  obtain ⟨⟨name, content⟩, listed, found⟩ := List.mem_filterMap.mp membership
  dsimp only at found
  split at found
  · cases found
  · obtain ⟨path, isPath, rfl⟩ := Option.map_eq_some_iff.mp found
    exact ⟨_, listed, isPath⟩

end Override

namespace Loader

variable {layers : List Layer}

theorem atPath?_documentOf_text (ordered : ∀ layer ∈ layers, layer.document.Ordered)
    {before after : List Override} {override : Override}
    (isText : override.path ∈ Override.textPaths)
    (last : ∀ other ∈ after, other.path ≠ override.path) :
    (Value.mapping (documentOf layers (before ++ override :: after))).atPath? override.path =
      some (.text override.content) := by
  have atOverride : (Value.mapping (laid layers (before ++ override :: after))).atPath?
      override.path = some (.text override.content) :=
    Override.atPath?_foldl_layers_text isText last _
  have nonempty := Override.ne_nil_of_mem_textPaths _ isText
  have outside := Override.outside_of_mem_textPaths _ isText
  obtain ⟨key, rest, shape⟩ := List.exists_cons_of_ne_nil nonempty
  rw [shape] at outside atOverride ⊢
  have keyOutside : key ≠ Config.includeKey := fun same => outside (by rw [same]; rfl)
  rw [atPath?_documentOf ordered _ keyOutside, atOverride]
  rfl

/-- Of the variables for the path of a free text the last one gives what the merged document holds
there: the text of its value, whatever the documents hold and whatever the other variables are. -/
theorem free_text_verbatim {loader : Loader} {world : World} {sources : List Source}
    {merged : Merged} {start name content : String} {before after : List (String × String)}
    {path : List String} (starts : loader.environmentStart = some start)
    (environment : world.environment = before ++ (name, content) :: after)
    (isText : path ∈ Override.textPaths) (found : Override.path? start name = some path)
    (last : ∀ entry ∈ after, Override.path? start entry.1 ≠ some path)
    (merges : (loader.merge world sources).outcome = .ok merged) :
    (Value.mapping merged.document).atPath? path = some (.text content) := by
  obtain ⟨layers, ordered, document, fromEnvironment, -⟩ := outcome_merge_without_overrides merges
  have overridden : merged.overrides = Override.ofEnvironment start before ++
      ⟨path, content⟩ :: Override.ofEnvironment start after := by
    rw [fromEnvironment, overrides, starts]
    dsimp only
    rw [environment, Override.ofEnvironment_append, Override.ofEnvironment_cons found]
  have lastOverride : ∀ other ∈ Override.ofEnvironment start after, other.path ≠ path := by
    rintro other membership rfl
    obtain ⟨entry, listed, same⟩ := Override.path?_of_mem_ofEnvironment membership
    exact last entry listed same
  rw [document, overridden]
  exact atPath?_documentOf_text ordered isText lastOverride

/-- A key that reads as a list stays a text, although the document and a later variable hold other
things in place of the section. -/
theorem free_text_verbatim_list :
    ∃ merged, (merge ⟨some "TRADING"⟩ ⟨fun _ => .error .notFound,
        [("TRADING__EXCHANGE__KEY", "007"), ("trading__exchange__key", "[1, 2]"),
          ("TRADING__EXCHANGE", "true")]⟩ [.inline "a.json" "\x7b\"exchange\": 5\x7d"]).outcome =
        .ok merged ∧
      (Value.mapping merged.document).atPath? ["exchange", "key"] = some (.text "[1, 2]") := by
  have succeeds : (merge ⟨some "TRADING"⟩ ⟨fun _ => .error .notFound,
      [("TRADING__EXCHANGE__KEY", "007"), ("trading__exchange__key", "[1, 2]"),
        ("TRADING__EXCHANGE", "true")]⟩ [.inline "a.json" "\x7b\"exchange\": 5\x7d"]).Succeeds := by
    decide +kernel
  obtain ⟨merged, merges⟩ := succeeds
  have environment : [("TRADING__EXCHANGE__KEY", "007"), ("trading__exchange__key", "[1, 2]"),
      ("TRADING__EXCHANGE", "true")] = [("TRADING__EXCHANGE__KEY", "007")] ++
        ("trading__exchange__key", "[1, 2]") :: [("TRADING__EXCHANGE", "true")] := rfl
  have isPath : Override.path? "TRADING" "trading__exchange__key" = some ["exchange", "key"] := by
    decide +kernel
  refine ⟨merged, merges, free_text_verbatim rfl environment (by decide) isPath ?_ merges⟩
  decide +kernel

end Loader

end BotConfig
