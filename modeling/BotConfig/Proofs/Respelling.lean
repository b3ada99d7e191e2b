import BotConfig.Proofs.Credentials

/-!
Free texts that are spelled in two ways.

A free text may stand in a document as a text, as a bare number or as a truth value.  Two documents
that differ only in how free texts of one section are spelled still do so when the same layers are
laid over both and when both are aligned, and they are decoded to the same configuration.
-/

namespace BotConfig

open Key

/-! ### Layers over mappings that are alike -/

namespace Fields

variable {may : String → Value → Value → Prop} {first second : Fields} {outer : String}

theorem Alike.getD_get? (alike : Alike may first second) (key : String) :
    (get? key first).getD .null = (get? key second).getD .null ∨
      may key ((get? key first).getD .null) ((get? key second).getD .null) := by
  obtain same | ⟨value, other, found, otherFound, differ⟩ := alike key
  · exact .inl (by rw [same])
  · rw [found, otherFound]
    exact .inr differ

/-- Values that may differ may still do so with values laid over them and without nulls. -/
structure Layered (may : String → Value → Value → Prop) : Prop where
  overlay : ∀ {key base otherBase patch otherPatch}, patch.Ordered → otherPatch.Ordered →
    base = otherBase ∨ may key base otherBase → patch = otherPatch ∨ may key patch otherPatch →
      Value.overlay base patch = Value.overlay otherBase otherPatch ∨
        may key (Value.overlay base patch) (Value.overlay otherBase otherPatch)
  pruned : ∀ {key value other}, value.Ordered → other.Ordered → may key value other →
    value.isNull = false ∧ other.isNull = false ∧ may key value.pruned other.pruned

theorem Alike.overlay (layered : Layered may) {patch otherPatch : Fields}
    (alike : Alike may first second) (patchAlike : Alike may patch otherPatch)
    (ordered : patch.Ordered) (otherOrdered : otherPatch.Ordered) :
    Alike may (Fields.overlay first patch) (Fields.overlay second otherPatch) := by
  intro key
  have below := alike.getD_get? key
  unfold Fields.overlay
  rw [Value.get?_overlayFields first ordered.ascending,
    Value.get?_overlayFields second otherOrdered.ascending]
  -- What is laid over the key is the same or differs as it may.
  have laid {value other : Value} (found : get? key patch = some value)
      (otherFound : get? key otherPatch = some other)
      (differ : value = other ∨ may key value other) :
      some (Value.overlay ((get? key first).getD .null) value) =
          some (Value.overlay ((get? key second).getD .null) other) ∨
        ∃ whole otherWhole, some (Value.overlay ((get? key first).getD .null) value) = some whole ∧
          some (Value.overlay ((get? key second).getD .null) other) = some otherWhole ∧
            may key whole otherWhole := by
    obtain same | differs :=
      layered.overlay (ordered.get? found) (otherOrdered.get? otherFound) below differ
    · exact .inl (congrArg some same)
    · exact .inr ⟨_, _, rfl, rfl, differs⟩
  obtain same | ⟨value, other, found, otherFound, differ⟩ := patchAlike key
  · rw [← same]
    cases found : get? key patch with
    | none => exact alike key
    | some value => exact laid found (same ▸ found) (.inl rfl)
  · rw [found, otherFound]
    exact laid found otherFound (.inr differ)

theorem Alike.pruned (layered : Layered may) (alike : Alike may first second)
    (ordered : first.Ordered) (otherOrdered : second.Ordered) :
    Alike may (Value.prunedFields first) (Value.prunedFields second) := by
  intro key
  rw [Value.get?_prunedFields ordered.ascending, Value.get?_prunedFields otherOrdered.ascending]
  obtain same | ⟨value, other, found, otherFound, differ⟩ := alike key
  · exact .inl (by rw [same])
  · obtain ⟨notNull, otherNotNull, differs⟩ :=
      layered.pruned (ordered.get? found) (otherOrdered.get? otherFound) differ
    rw [found, otherFound]
    exact .inr ⟨_, _, by simp [notNull], by simp [otherNotNull], differs⟩

theorem Alike.foldl_overlay (layered : Layered may) {layers otherLayers : List Fields}
    (alike : Alike may first second) (layersAlike : List.Forall₂ (Alike may) layers otherLayers)
    (ordered : ∀ layer ∈ layers, layer.Ordered)
    (otherOrdered : ∀ layer ∈ otherLayers, layer.Ordered) :
    Alike may (layers.foldl Fields.overlay first) (otherLayers.foldl Fields.overlay second) := by
  induction layersAlike generalizing first second with
  | nil => exact alike
  | cons layerAlike _ inductionHypothesis =>
      obtain ⟨layerOrdered, restOrdered⟩ := List.forall_mem_cons.mp ordered
      obtain ⟨otherLayerOrdered, otherRestOrdered⟩ := List.forall_mem_cons.mp otherOrdered
      exact inductionHypothesis (alike.overlay layered layerAlike layerOrdered otherLayerOrdered)
        restOrdered otherRestOrdered

/-! ### Mappings that differ inside one mapping -/

/-- At one key, mappings may stand that differ inside. -/
def Within (outer : String) (may : String → Value → Value → Prop) (key : String)
    (value other : Value) : Prop :=
  key = outer ∧ ∃ inside otherInside, value = .mapping inside ∧ other = .mapping otherInside ∧
    Alike may inside otherInside

theorem Layered.within (layered : Layered may) : Layered (Within outer may) := by
  constructor
  · intro key base otherBase patch otherPatch ordered otherOrdered alikeBase alikePatch
    obtain rfl | ⟨rfl, child, otherChild, rfl, rfl, childAlike⟩ := alikePatch
    · obtain rfl | ⟨rfl, inside, otherInside, rfl, rfl, insideAlike⟩ := alikeBase
      · exact .inl rfl
      · cases patch with
        | mapping child =>
            rw [ordered_mapping_iff] at ordered
            exact .inr ⟨rfl, _, _, rfl, rfl,
              insideAlike.overlay layered (fun _ => .inl rfl) ordered ordered⟩
        | _ => exact .inl rfl
    · rw [ordered_mapping_iff] at ordered otherOrdered
      have entries : Alike may base.entries otherBase.entries := by
        obtain rfl | ⟨_, inside, otherInside, rfl, rfl, insideAlike⟩ := alikeBase
        · exact fun _ => .inl rfl
        · exact insideAlike
      rw [Value.overlay_mapping base ordered.ascending,
        Value.overlay_mapping otherBase otherOrdered.ascending]
      exact .inr ⟨rfl, _, _, rfl, rfl, entries.overlay layered childAlike ordered otherOrdered⟩
  · rintro key _ _ ordered otherOrdered ⟨rfl, inside, otherInside, rfl, rfl, insideAlike⟩
    rw [ordered_mapping_iff] at ordered otherOrdered
    exact ⟨rfl, rfl, rfl, _, _, rfl, rfl, insideAlike.pruned layered ordered otherOrdered⟩

/-- Alignment keeps the difference inside the mapping, unless it moves the mapping as a whole. -/
theorem Alike.align_within (steady : Steady may) (alike : Alike (Within outer may) first second)
    (ordered : first.Ordered) (otherOrdered : second.Ordered) {path : List String}
    (lower : ∀ name ∈ path, IsLower name) (stays : path ≠ [outer]) :
    Alike (Within outer may) (Key.align path first) (Key.align path second) := by
  have sameVariant := alike.variant?_eq ordered.ascending otherOrdered.ascending
  have sameStep := alike.step_eq ordered.ascending otherOrdered.ascending
  cases path with
  | nil => exact alike
  | cons key rest =>
      cases rest with
      | nil =>
          have same : get? key first = get? key second := by
            obtain same | ⟨_, _, _, _, rfl, _⟩ := alike key
            · exact same
            · exact absurd rfl stays
          rw [align_last ordered.ascending, align_last otherOrdered.ascending, ← sameVariant,
            ← same]
          split
          · exact (alike.erase ordered.ascending otherOrdered.ascending key).insert _ (.inl rfl)
          · exact alike
      | cons next others =>
          have below := (List.forall_mem_cons.mp lower).2
          rw [align_cons_eq ordered.ascending, align_cons_eq otherOrdered.ascending, ← sameStep]
          obtain same | ⟨value, other, found, otherFound, here, inside, otherInside, rfl, rfl,
            insideAlike⟩ := alike (step key first)
          · rw [← same]
            split
            · exact alike.insert _ (.inl rfl)
            · exact alike
          · have insideOrdered := (ordered_mapping_iff _).mp (ordered.get? found)
            have otherInsideOrdered := (ordered_mapping_iff _).mp (otherOrdered.get? otherFound)
            rw [found, otherFound]
            exact alike.insert _ (.inr ⟨here, _, _, rfl, rfl,
              insideAlike.align steady insideOrdered otherInsideOrdered below⟩)

end Fields

/-! ### Spellings of free text -/

/-- Two values are read as the same free text. -/
structure Value.SameText (value other : Value) : Prop where
  plain : value.Plain
  otherPlain : other.Plain
  reads : Decode.freeText value = Decode.freeText other

theorem Value.SameText.optionalFreeText {value other : Value} (same : value.SameText other) :
    Decode.optionalFreeText value = Decode.optionalFreeText other := by
  rw [Decode.optionalFreeText, Decode.optionalFreeText, same.reads]

theorem Value.Plain.overlay {patch : Value} (plain : patch.Plain) (base : Value) :
    base.overlay patch = patch := by
  cases plain <;> rfl

theorem Value.Plain.entries {value : Value} (plain : value.Plain) : value.entries = [] := by
  cases plain <;> rfl

theorem Value.Plain.pruned {value : Value} (plain : value.Plain) : value.pruned = value := by
  cases plain <;> rfl

theorem Value.Plain.isNull {value : Value} (plain : value.Plain) : value.isNull = false := by
  cases plain <;> rfl

/-- The keys of free texts in a section that has any. -/
def freeTexts : String → List String
  | "exchange" => ["key", "secret", "password", "uid"]
  | "telegram" => ["token", "chat_id", "topic_id"]
  | "api_server" => ["username", "password", "jwt_secret_key"]
  | _ => []

/-- A key is one of a free text, where case makes no difference. -/
def NamesText (outer key : String) : Prop := ∃ name ∈ freeTexts outer, folded key = folded name

instance (outer : String) : DecidablePred (NamesText outer) :=
  fun key => inferInstanceAs (Decidable (∃ name ∈ freeTexts outer, folded key = folded name))

/-- At the key of a free text the same text is spelled in two ways. -/
def Respells (outer key : String) (value other : Value) : Prop :=
  NamesText outer key ∧ value.SameText other

theorem steady_respells (outer : String) : Fields.Steady (Respells outer) := by
  constructor
  · rintro key other value replaced sameFolded ⟨⟨name, listed, folds⟩, same⟩
    exact ⟨⟨name, listed, sameFolded.symm.trans folds⟩, same⟩
  · rintro key value replaced path - - - ⟨names, same⟩
    rw [same.plain.alignIn, same.otherPlain.alignIn]
    exact ⟨names, same⟩

theorem layered_respells (outer : String) : Fields.Layered (Respells outer) := by
  constructor
  · intro key base otherBase patch otherPatch ordered _ alikeBase alikePatch
    obtain rfl | ⟨names, same⟩ := alikePatch
    · obtain rfl | ⟨-, same⟩ := alikeBase
      · exact .inl rfl
      · cases patch with
        | mapping child =>
            have ascending := ((Fields.ordered_mapping_iff child).mp ordered).ascending
            rw [Value.overlay_mapping base ascending, Value.overlay_mapping otherBase ascending,
              same.plain.entries, same.otherPlain.entries]
            exact .inl rfl
        | _ => exact .inl rfl
    · rw [same.plain.overlay, same.otherPlain.overlay]
      exact .inr ⟨names, same⟩
  · rintro key value other - - ⟨names, same⟩
    rw [same.plain.pruned, same.otherPlain.pruned]
    exact ⟨same.plain.isNull, same.otherPlain.isNull, names, same⟩

/-! ### Decoding -/

section

variable {first second : Fields} {outer : String} {α : Type}

theorem get?_eq_of_not_namesText (alike : first.Alike (Respells outer) second) {name : String}
    (other : ¬ NamesText outer name) : Fields.get? name first = Fields.get? name second := by
  obtain same | ⟨_, _, _, _, names, _⟩ := alike name
  · exact same
  · exact absurd names other

theorem matched_of_sameText (alike : first.Alike (Respells outer) second) (name : String)
    {decode : Decode.Decoder α} {fallback : Option α}
    (reads : ∀ {value other : Value}, value.SameText other → decode value = decode other) :
    Decode.Record.Matched Eq (.field name decode fallback) first second := by
  obtain same | ⟨value, other, found, otherFound, -, sameText⟩ := alike name
  · exact .field same
  · refine .field_of_decode found otherFound ?_
    rw [reads sameText]
    exact .refl (fun _ => rfl) _

theorem Exchange.decode_respelled (alike : first.Alike (Respells "exchange") second) :
    decode (.mapping first) = decode (.mapping second) := by
  have field {α : Type} (name : String) {decode : Decode.Decoder α} {fallback : Option α}
      (other : ¬ NamesText "exchange" name) :
      Decode.Record.Matched Eq (.field name decode fallback) first second :=
    .field (get?_eq_of_not_namesText alike other)
  refine Matched.eq (Decode.Record.Matched.decoder ?_ "ExchangeConfig")
  unfold record
  refine .seqSame ?_ (field "unknown_fee_rate" (by decide))
  refine .seqSame ?_ (field "skip_pair_validation" (by decide))
  refine .seqSame ?_ (field "markets_refresh_interval" (by decide))
  refine .seqSame ?_ (field "enable_ws" (by decide))
  refine .seqSame ?_ (field "pair_blacklist" (by decide))
  refine .seqSame ?_ (field "pair_whitelist" (by decide))
  refine .seqSame ?_ (field "ccxt_async_config" (by decide))
  refine .seqSame ?_ (field "ccxt_config" (by decide))
  refine .seqSame ?_ (matched_of_sameText alike "uid" Value.SameText.optionalFreeText)
  refine .seqSame ?_ (matched_of_sameText alike "password" Value.SameText.optionalFreeText)
  refine .seqSame ?_ (matched_of_sameText alike "secret" Value.SameText.reads)
  refine .seqSame ?_ (matched_of_sameText alike "key" Value.SameText.reads)
  refine .mapSame ?_ (field "name" (by decide))
  intros
  rfl

theorem Telegram.decode_respelled (alike : first.Alike (Respells "telegram") second) :
    decode (.mapping first) = decode (.mapping second) := by
  have field {α : Type} (name : String) {decode : Decode.Decoder α} {fallback : Option α}
      (other : ¬ NamesText "telegram" name) :
      Decode.Record.Matched Eq (.field name decode fallback) first second :=
    .field (get?_eq_of_not_namesText alike other)
  refine Matched.eq (Decode.Record.Matched.decoder ?_ "TelegramConfig")
  unfold record
  refine .seqSame ?_ (field "notification_settings" (by decide))
  refine .seqSame ?_ (field "balance_dust_level" (by decide))
  refine .seqSame ?_ (field "reload" (by decide))
  refine .seqSame ?_ (field "authorized_users" (by decide))
  refine .seqSame ?_ (matched_of_sameText alike "topic_id" Value.SameText.optionalFreeText)
  refine .seqSame ?_ (matched_of_sameText alike "chat_id" Value.SameText.reads)
  refine .seqSame ?_ (matched_of_sameText alike "token" Value.SameText.reads)
  refine .mapSame ?_ (field "enabled" (by decide))
  intros
  rfl

theorem ApiServer.decode_respelled (alike : first.Alike (Respells "api_server") second) :
    decode (.mapping first) = decode (.mapping second) := by
  have same (name : String) (other : ¬ NamesText "api_server" name) :
      Fields.get? name first = Fields.get? name second := get?_eq_of_not_namesText alike other
  refine Matched.eq (Decode.Record.Matched.decoder ?_ "ApiServerConfig")
  unfold record
  refine .seqSame ?_ (.field (same "verbosity" (by decide)))
  refine .seqSame ?_ (.spelledTwoWays (same "CORS_origins" (by decide))
    (same "cors_origins" (by decide)))
  refine .seqSame ?_ (.field (same "ws_token" (by decide)))
  refine .seqSame ?_ (matched_of_sameText alike "jwt_secret_key" Value.SameText.optionalFreeText)
  refine .seqSame ?_ (matched_of_sameText alike "password" Value.SameText.reads)
  refine .seqSame ?_ (matched_of_sameText alike "username" Value.SameText.reads)
  refine .seqSame ?_ (.field (same "listen_port" (by decide)))
  refine .seqSame ?_ (.field (same "listen_ip_address" (by decide)))
  refine .mapSame ?_ (.field (same "enabled" (by decide)))
  intros
  rfl

end

/-! ### Configurations -/

/-- Two documents hold the same, but for the spelling of free texts in one section. -/
def Respelled (outer : String) (first second : Fields) : Prop :=
  first.Alike (Fields.Within outer (Respells outer)) second

theorem Respelled.get?_eq {outer : String} {first second : Fields}
    (respelled : Respelled outer first second) {key : String} (elsewhere : key ≠ outer) :
    Fields.get? key first = Fields.get? key second := by
  obtain same | ⟨_, _, _, _, here, _⟩ := respelled key
  · exact same
  · exact absurd here elsewhere

namespace Config

variable {first second : Fields} {outer : String}

/-- The sections with free texts. -/
def textSections : List String := ["exchange", "telegram", "api_server"]

theorem matched_of_respelled {α : Type} (respelled : Respelled outer first second) {name : String}
    {decode : Decode.Decoder α} {fallback : Option α}
    (reads : ∀ {inside other : Fields}, inside.Alike (Respells name) other →
      decode (.mapping inside) = decode (.mapping other)) :
    Decode.Record.Matched Eq (.field name decode fallback) first second := by
  obtain same | ⟨_, _, found, otherFound, rfl, inside, otherInside, rfl, rfl, alike⟩ :=
    respelled name
  · exact .field same
  · refine .field_of_decode found otherFound ?_
    rw [reads alike]
    exact .refl (fun _ => rfl) _

theorem decode_respelled (hasTexts : outer ∈ textSections)
    (respelled : Respelled outer first second) :
    decode (.mapping first) = decode (.mapping second) := by
  have same (key : String) (_ : key ∈ modeledKeys) (unpaired : key ∉ pairedKeys) :
      Fields.get? key first = Fields.get? key second := by
    have paired : ∀ outer ∈ textSections, outer ∈ pairedKeys := by decide
    exact respelled.get?_eq (ne_of_mem_of_not_mem (paired outer hasTexts) unpaired).symm
  have dryRun : Fields.get? "dry_run" first = Fields.get? "dry_run" second :=
    respelled.get?_eq (ne_of_mem_of_not_mem hasTexts (by decide)).symm
  refine Matched.eq ((matched_decode same (.field dryRun)
    (matched_of_respelled respelled Exchange.decode_respelled)
    (matched_of_respelled respelled fun alike => ?_)
    (matched_of_respelled respelled fun alike => ?_)).mono fun _ _ paired => paired.eq)
  · exact congrArg (some <$> ·) (ApiServer.decode_respelled alike)
  · exact congrArg (some <$> ·) (Telegram.decode_respelled alike)

/-- The spelling of free texts makes no difference to what is decoded. -/
theorem ofDocument_respelled (hasTexts : outer ∈ textSections)
    (respelled : Respelled outer first second) (ascending : first.Ascending)
    (otherAscending : second.Ascending) : ofDocument first = ofDocument second := by
  have sameExtra : extraOf first = extraOf second := by
    have modeled : ∀ outer ∈ textSections, outer ∈ modeledKeys := by decide
    exact extraOf_congr ascending otherAscending fun key outside =>
      respelled.get?_eq (ne_of_mem_of_not_mem (modeled outer hasTexts) outside).symm
  have sameComplete : complete first = complete second := by
    funext config
    rw [complete, complete, completed, completed, unrecognizedOf, unrecognizedOf, sameExtra]
  rw [ofDocument_eq, ofDocument_eq, decode_respelled hasTexts respelled, sameComplete]

end Config

end BotConfig
