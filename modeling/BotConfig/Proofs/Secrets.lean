import BotConfig.Proofs.Alike
import BotConfig.Proofs.Visible

/-!
Documents that differ in secrets.

Where two documents differ in secrets only, and each secret is set in both, the configurations that
they are decoded to show the same.  Alignment may move a secret to another spelling of its key,
where it is no secret any more; as long as it does not, masking hides the difference.
-/

namespace BotConfig

open Redaction

/-- A text that is not empty. -/
inductive Value.Filled : Value → Prop
  | text {content : String} : content ≠ "" → Filled (.text content)

namespace Value.Filled

variable {value : Value}

theorem veil_eq {content : String} (filled : content ≠ "") : veil content = placeholder := by
  have isSet : content.isEmpty = false := by simpa using filled
  rw [veil, isSet, if_neg Bool.false_ne_true]

theorem freeText (filled : value.Filled) :
    ∃ content, Decode.freeText value = .ok content ∧ veil content = placeholder := by
  obtain ⟨filled⟩ := filled
  exact ⟨_, rfl, veil_eq filled⟩

theorem optionalFreeText (filled : value.Filled) :
    ∃ content, Decode.optionalFreeText value = .ok content ∧
      content.map veil = some placeholder := by
  obtain @⟨content, filled⟩ := filled
  have isSet : content.isEmpty = false := by simpa using filled
  refine ⟨some content, ?_, ?_⟩
  · simp [Decode.optionalFreeText, Decode.freeText, Except.map, filled]
  · rw [Option.map_some, veil_eq filled]

theorem texts (filled : value.Filled) :
    ∃ contents, Decode.texts value = .ok contents ∧ contents.isEmpty = false := by
  obtain ⟨_⟩ := filled
  exact ⟨_, rfl, rfl⟩

theorem masked_eq (filled : value.Filled) : masked value = .text placeholder := by
  obtain @⟨content, filled⟩ := filled
  have isSet : isSet (.text content) = true := by simpa [Redaction.isSet] using filled
  rw [masked, if_pos isSet]

theorem skeleton_eq (filled : value.Filled) : value.skeleton = .null := by
  obtain ⟨_⟩ := filled
  rfl

theorem alignIn_eq (filled : value.Filled) (path : List String) :
    Key.alignIn path value = value := by
  obtain ⟨_⟩ := filled
  rfl

end Value.Filled

theorem Fields.Alike.skeletonFields_eq {may : String → Value → Value → Prop}
    {first second : Fields} (alike : Fields.Alike may first second) (ascending : first.Ascending)
    (otherAscending : second.Ascending)
    (same : ∀ key value other, Fields.get? key first = some value →
      Fields.get? key second = some other → may key value other →
        value.skeleton = other.skeleton) :
    Value.skeletonFields first = Value.skeletonFields second := by
  have ascends {fields : Fields} (ascending : fields.Ascending) :
      Fields.Ascending (Value.skeletonFields fields) := by
    rw [Fields.Ascending, Value.keys_skeletonFields]
    exact ascending
  apply Fields.eq_of_get?_eq (ascends ascending) (ascends otherAscending)
  intro key
  rw [Value.get?_skeletonFields, Value.get?_skeletonFields]
  obtain sameThere | ⟨value, other, found, otherFound, differ⟩ := alike key
  · rw [sameThere]
  · rw [found, otherFound, Option.map_some, Option.map_some,
      same key value other found otherFound differ]

/-- Texts that are replaced at the key of a secret. -/
def Replaced (isSecret : String → Prop) (key : String) (value other : Value) : Prop :=
  isSecret key ∧ value.Filled ∧ other.Filled

/-- Mappings that differ at most in texts at the keys of secrets. -/
def Differ (isSecret : String → String → Prop) (part : String) (value other : Value) : Prop :=
  ∃ inside otherInside : Fields, value = .mapping inside ∧ other = .mapping otherInside ∧
    inside.Alike (Replaced (isSecret part)) otherInside

theorem Differ.mono {isSecret weaker : String → String → Prop} {part : String}
    {value other : Value} (differ : Differ isSecret part value other)
    (weaken : ∀ key, isSecret part key → weaker part key) : Differ weaker part value other := by
  obtain ⟨inside, otherInside, rfl, rfl, alike⟩ := differ
  exact ⟨inside, otherInside, rfl, rfl, alike.mono fun key _ _ replaced =>
    ⟨weaken key replaced.1, replaced.2⟩⟩

theorem Differ.eq {isSecret : String → String → Prop} {part : String} {value other : Value}
    (differ : Differ isSecret part value other) (noSecret : ∀ key, ¬ isSecret part key)
    (ordered : value.Ordered) (otherOrdered : other.Ordered) : value = other := by
  obtain ⟨inside, otherInside, rfl, rfl, alike⟩ := differ
  rw [Fields.ordered_mapping_iff] at ordered otherOrdered
  rw [Fields.eq_of_get?_eq ordered.ascending otherOrdered.ascending]
  intro key
  obtain same | ⟨_, _, _, _, secret, _⟩ := alike key
  · exact same
  · exact absurd secret (noSecret key)

theorem Differ.skeleton_eq {isSecret : String → String → Prop} {part : String}
    {value other : Value} (differ : Differ isSecret part value other) (ordered : value.Ordered)
    (otherOrdered : other.Ordered) : value.skeleton = other.skeleton := by
  obtain ⟨inside, otherInside, rfl, rfl, alike⟩ := differ
  rw [Fields.ordered_mapping_iff] at ordered otherOrdered
  rw [Value.skeleton, Value.skeleton,
    alike.skeletonFields_eq ordered.ascending otherOrdered.ascending]
  rintro key value other - - ⟨-, filled, otherFilled⟩
  rw [filled.skeleton_eq, otherFilled.skeleton_eq]

theorem steady_differ {isSecret : String → String → Prop}
    (turns : ∀ {part other key spelling}, Key.folded part = Key.folded other →
      Key.folded key = Key.folded spelling → isSecret part key → isSecret other spelling) :
    Fields.Steady (Differ isSecret) := by
  constructor
  · rintro part other _ _ sameFolded differ
    obtain ⟨inside, otherInside, rfl, rfl, alike⟩ := differ
    exact ⟨inside, otherInside, rfl, rfl, alike.mono fun key _ _ replaced =>
      ⟨turns sameFolded rfl replaced.1, replaced.2⟩⟩
  · rintro part _ _ path lower ordered otherOrdered ⟨inside, otherInside, rfl, rfl, alike⟩
    rw [Fields.ordered_mapping_iff] at ordered otherOrdered
    refine ⟨_, _, rfl, rfl, alike.align ⟨?_, ?_⟩ ordered otherOrdered lower⟩
    · rintro key spelling _ _ sameFolded ⟨secret, filled⟩
      exact ⟨turns rfl sameFolded secret, filled⟩
    · rintro key value other path - - - ⟨secret, filled, otherFilled⟩
      rw [filled.alignIn_eq, otherFilled.alignIn_eq]
      exact ⟨secret, filled, otherFilled⟩

namespace Config

/-! ### The secrets of a document -/

/-- Where secrets are: the key of a part of the document, and the key inside. -/
def documentSecrets : List (String × String) := [
  ("exchange", "key"), ("exchange", "secret"), ("exchange", "password"), ("exchange", "uid"),
  ("api_server", "password"), ("api_server", "jwt_secret_key"), ("api_server", "ws_token"),
  ("telegram", "token"), ("telegram", "chat_id"),
  ("webhook", "url"), ("discord", "webhook_url")]

/-- Documents that agree everywhere but at secrets, and where they differ both hold text. -/
def SameButSecrets (first second : Fields) : Prop :=
  first.Alike (Differ fun part key => (part, key) ∈ documentSecrets) second

/-- The key of a secret and that of its part, in any spelling. -/
def Hidden (secrets : List (String × String)) (part key : String) : Prop :=
  ∃ secret ∈ secrets, Key.folded part = Key.folded secret.1 ∧ Key.folded key = Key.folded secret.2

instance (secrets : List (String × String)) (part key : String) :
    Decidable (Hidden secrets part key) :=
  inferInstanceAs (Decidable (∃ secret ∈ secrets,
    Key.folded part = Key.folded secret.1 ∧ Key.folded key = Key.folded secret.2))

theorem isLower_of_mem_documentSecrets :
    ∀ secret ∈ documentSecrets, Key.IsLower secret.1 ∧ Key.IsLower secret.2 := by
  simp only [Key.IsLower]
  decide

/-- What is asked of two documents before they are decoded: they differ at most where secrets are,
and the other spellings of the keys of secrets hold the same. -/
structure Concealing (secrets : List (String × String)) (first second : Fields) : Prop where
  alike : first.Alike (Differ (Hidden secrets)) second
  settled : ∀ secret ∈ secrets, Fields.Settled secret.1 first second
  settledInside : ∀ secret ∈ secrets, ∀ inside otherInside,
    Fields.get? secret.1 first = some (.mapping inside) →
    Fields.get? secret.1 second = some (.mapping otherInside) →
      Fields.Settled secret.2 inside otherInside

/-- What has to be in its place for a secret to be masked: in a section, entries that are not read
are not written either, and elsewhere all of them are. -/
def shelter (secret : String × String) : List String :=
  if secret.1 ∈ modeledKeys then [secret.1] else [secret.1, secret.2]

/-- A secret is where it is masked. -/
def Stays (document : Fields) (secret : String × String) : Prop :=
  (Value.mapping document).atPath? (shelter secret) ≠ none

theorem Stays.get?_ne_none {document : Fields} {secret : String × String}
    (stays : Stays document secret) : Fields.get? secret.1 document ≠ none := by
  intro none
  refine stays ?_
  unfold shelter
  split <;> rw [Value.atPath?_cons, Value.entries, none] <;> rfl

variable {secrets : List (String × String)} {first second : Fields}

/-- Secrets in their places are spelled in lower case, so nothing else differs. -/
theorem concealing_of_alike (known : secrets ⊆ documentSecrets)
    (alike : first.Alike (Differ fun part key => (part, key) ∈ secrets) second)
    (ordered : first.Ordered) (otherOrdered : second.Ordered) :
    Concealing secrets first second := by
  have lower (secret : String × String) (membership : secret ∈ secrets) :
      Key.IsLower secret.1 ∧ Key.IsLower secret.2 :=
    isLower_of_mem_documentSecrets secret (known membership)
  refine ⟨?_, ?_, ?_⟩
  · refine alike.mono fun part value other differ => differ.mono ?_
    intro key secret
    exact ⟨(part, key), secret, rfl, rfl⟩
  · intro secret membership
    right
    intro spelling aside sameFolded
    obtain same | ⟨value, other, found, otherFound, differ⟩ := alike spelling
    · exact same
    · rw [found, otherFound, differ.eq ?_ (ordered.get? found) (otherOrdered.get? otherFound)]
      intro key spelledSecret
      exact aside ((lower _ spelledSecret).1.eq_of_folded_eq (lower _ membership).1 sameFolded)
  · intro secret membership inside otherInside found otherFound
    right
    intro spelling aside sameFolded
    obtain same | ⟨_, _, valueFound, otherValueFound, _, _, rfl, rfl, insideAlike⟩ := alike secret.1
    · rw [found, otherFound, Option.some.injEq, Value.mapping.injEq] at same
      rw [same]
    · cases found.symm.trans valueFound
      cases otherFound.symm.trans otherValueFound
      obtain sameInside | ⟨_, _, _, _, spelledSecret, _⟩ := insideAlike spelling
      · exact sameInside
      · exact absurd
          ((lower _ spelledSecret).2.eq_of_folded_eq (lower _ membership).2 sameFolded) aside

namespace Concealing

theorem align (known : secrets ⊆ documentSecrets) (given : Concealing secrets first second)
    {path : List String} (pathLower : ∀ name ∈ path, Key.IsLower name) (ordered : first.Ordered)
    (otherOrdered : second.Ordered) :
    Concealing secrets (Key.align path first) (Key.align path second) := by
  have lower (secret : String × String) (membership : secret ∈ secrets) :
      Key.IsLower secret.1 ∧ Key.IsLower secret.2 :=
    isLower_of_mem_documentSecrets secret (known membership)
  have steady : Fields.Steady (Differ (Hidden secrets)) := by
    refine steady_differ ?_
    rintro part other key spelling samePart sameKey ⟨secret, membership, foldedPart, foldedKey⟩
    exact ⟨secret, membership, samePart.symm.trans foldedPart, sameKey.symm.trans foldedKey⟩
  refine ⟨given.alike.align steady ordered otherOrdered pathLower, ?_, ?_⟩
  · intro secret membership
    exact (given.settled secret membership).align (given.alike.get?_eq_none_iff _)
      (lower secret membership).1 ordered otherOrdered pathLower
  · intro secret membership alignedInside otherAlignedInside alignedFound otherAlignedFound
    obtain ⟨partLower, keyLower⟩ := lower secret membership
    -- What is still at the key of the part was there before, and is aligned inside.
    have unaligned {fields aligned : Fields} (ordered : fields.Ordered)
        (found : Fields.get? secret.1 (Key.align path fields) = some (.mapping aligned)) :
        ∃ inside, Fields.get? secret.1 fields = some (.mapping inside) ∧
          aligned = Key.align (Key.behind secret.1 path) inside := by
      obtain none | mapped := Key.get?_align_of_isLower partLower pathLower ordered
      · rw [none] at found
        cases found
      · rw [mapped, Option.map_eq_some_iff] at found
        obtain ⟨value, present, isMapping⟩ := found
        cases value with
        | mapping inside =>
            rw [Key.alignIn, Value.mapping.injEq] at isMapping
            exact ⟨inside, present, isMapping.symm⟩
        | _ => cases isMapping
    obtain ⟨inside, found, rfl⟩ := unaligned ordered alignedFound
    obtain ⟨otherInside, otherFound, rfl⟩ := unaligned otherOrdered otherAlignedFound
    have insideOrdered := (Fields.ordered_mapping_iff _).mp (ordered.get? found)
    have otherInsideOrdered := (Fields.ordered_mapping_iff _).mp (otherOrdered.get? otherFound)
    have present :
        Fields.get? secret.2 inside = none ↔ Fields.get? secret.2 otherInside = none := by
      obtain same | ⟨_, _, valueFound, otherValueFound, _, _, rfl, rfl, insideAlike⟩ :=
        given.alike secret.1
      · rw [found, otherFound, Option.some.injEq, Value.mapping.injEq] at same
        rw [same]
      · cases found.symm.trans valueFound
        cases otherFound.symm.trans otherValueFound
        exact insideAlike.get?_eq_none_iff secret.2
    exact (given.settledInside secret membership inside otherInside found otherFound).align present
      keyLower insideOrdered otherInsideOrdered
      fun name membership => pathLower name (Key.mem_of_mem_behind membership)

theorem get?_eq_of_folded_ne (given : Concealing secrets first second) (ordered : first.Ordered)
    (otherOrdered : second.Ordered) {part : String}
    (unspelled : ∀ secret ∈ secrets, Key.folded part ≠ Key.folded secret.1) :
    Fields.get? part first = Fields.get? part second := by
  obtain same | ⟨value, other, found, otherFound, differ⟩ := given.alike part
  · exact same
  · rw [found, otherFound, differ.eq ?_ (ordered.get? found) (otherOrdered.get? otherFound)]
    rintro key ⟨secret, membership, sameFolded, _⟩
    exact unspelled secret membership sameFolded

/-- A part that is not a secret's own is the same while secrets are in their places. -/
theorem get?_eq_of_ne (given : Concealing secrets first second) (ordered : first.Ordered)
    (otherOrdered : second.Ordered) (kept : ∀ secret ∈ secrets, Stays first secret)
    {part : String} (aside : ∀ secret ∈ secrets, part ≠ secret.1) :
    Fields.get? part first = Fields.get? part second := by
  by_cases spelled : ∃ secret ∈ secrets, Key.folded part = Key.folded secret.1
  · obtain ⟨secret, membership, sameFolded⟩ := spelled
    obtain ⟨none, -⟩ | others := given.settled secret membership
    · exact absurd none (kept secret membership).get?_ne_none
    · exact others part (aside secret membership) sameFolded
  · refine given.get?_eq_of_folded_ne ordered otherOrdered fun secret membership sameFolded => ?_
    exact spelled ⟨secret, membership, sameFolded⟩

/-- A secret in its place is masked, and nothing beside it in its part differs. -/
theorem mask_eq (given : Concealing secrets first second) (known : secrets ⊆ documentSecrets)
    (ordered : first.Ordered) (otherOrdered : second.Ordered)
    (kept : ∀ secret ∈ secrets, Stays first secret) {part key : String}
    (only : ∀ secret ∈ documentSecrets, secret.1 = part → secret.2 = key)
    (partLower : Key.IsLower part) (unmodeled : part ∉ modeledKeys) :
    (Fields.get? part first).map (mask [key]) = (Fields.get? part second).map (mask [key]) := by
  obtain same | ⟨_, _, found, otherFound, inside, otherInside, rfl, rfl, alike⟩ := given.alike part
  · rw [same]
  rw [found, otherFound, Option.map_some, Option.map_some, mask, mask]
  have ascending := ((Fields.ordered_mapping_iff _).mp (ordered.get? found)).ascending
  have otherAscending :=
    ((Fields.ordered_mapping_iff _).mp (otherOrdered.get? otherFound)).ascending
  rw [Fields.eq_of_get?_eq (ascending_maskField ascending key [])
    (ascending_maskField otherAscending key [])]
  intro name
  rw [get?_maskField, get?_maskField]
  obtain same | ⟨value, other, valueFound, otherValueFound, hidden, filled, otherFilled⟩ :=
    alike name
  · rw [same]
  obtain ⟨secret, membership, samePart, sameKey⟩ := hidden
  have isPart : secret.1 = part :=
    (isLower_of_mem_documentSecrets secret (known membership)).1.eq_of_folded_eq partLower
      samePart.symm
  have isKey : secret.2 = key := only secret (known membership) isPart
  subst isPart isKey
  by_cases here : name = secret.2
  · rw [if_pos here, if_pos here, valueFound, otherValueFound, Option.map_some, Option.map_some,
      mask, mask, filled.masked_eq, otherFilled.masked_eq]
  · rw [if_neg here, if_neg here]
    obtain ⟨none, -⟩ | others :=
      given.settledInside secret membership inside otherInside found otherFound
    · have missing : (Value.mapping first).atPath? (shelter secret) = Option.none := by
        rw [shelter, if_neg unmodeled, Value.atPath?_cons, Value.entries, found, Option.bind_some,
          Value.atPath?_cons, Value.entries, none]
        rfl
      exact absurd missing (kept secret membership)
    · exact others name here sameKey

theorem maskedExtra_eq (given : Concealing secrets first second)
    (known : secrets ⊆ documentSecrets) (ordered : first.Ordered) (otherOrdered : second.Ordered)
    (kept : ∀ secret ∈ secrets, Stays first secret) :
    maskedExtra (extraOf first) = maskedExtra (extraOf second) := by
  have ascending := ascending_maskField (ascending_maskField
    (ascending_extraOf ordered.ascending) "webhook" ["url"]) "discord" ["webhook_url"]
  have otherAscending := ascending_maskField (ascending_maskField
    (ascending_extraOf otherOrdered.ascending) "webhook" ["url"]) "discord" ["webhook_url"]
  have webhook : (Fields.get? "webhook" first).map (mask ["url"]) =
      (Fields.get? "webhook" second).map (mask ["url"]) :=
    given.mask_eq known ordered otherOrdered kept (by decide) (by unfold Key.IsLower; decide)
      (by decide)
  have discord : (Fields.get? "discord" first).map (mask ["webhook_url"]) =
      (Fields.get? "discord" second).map (mask ["webhook_url"]) :=
    given.mask_eq known ordered otherOrdered kept (by decide) (by unfold Key.IsLower; decide)
      (by decide)
  apply Fields.eq_of_get?_eq ascending otherAscending
  intro key
  simp only [get?_maskField, get?_extraOf]
  by_cases modeled : key ∈ modeledKeys
  · rw [if_pos modeled, if_pos modeled]
  · rw [if_neg modeled, if_neg modeled]
    by_cases isDiscord : key = "discord"
    · subst isDiscord
      simpa using discord
    · by_cases isWebhook : key = "webhook"
      · subst isWebhook
        simpa using webhook
      · rw [if_neg isDiscord, if_neg isDiscord, if_neg isWebhook, if_neg isWebhook]
        refine given.get?_eq_of_ne ordered otherOrdered kept fun secret membership isPart => ?_
        have parts : ∀ secret ∈ documentSecrets,
            secret.1 ∈ modeledKeys ∨ secret.1 = "discord" ∨ secret.1 = "webhook" := by
          decide
        rcases parts secret (known membership) with isModeled | other | other
        · exact modeled (isPart ▸ isModeled)
        · exact isDiscord (isPart.trans other)
        · exact isWebhook (isPart.trans other)

theorem skeletonFields_extraOf_eq (given : Concealing secrets first second)
    (ordered : first.Ordered) (otherOrdered : second.Ordered) :
    Value.skeletonFields (extraOf first) = Value.skeletonFields (extraOf second) := by
  have alike : Fields.Alike (fun part value other => Fields.get? part first = some value ∧
      Fields.get? part second = some other ∧ Differ (Hidden secrets) part value other)
      (extraOf first) (extraOf second) := by
    intro key
    rw [get?_extraOf, get?_extraOf]
    split
    · exact .inl rfl
    · obtain same | ⟨value, other, found, otherFound, differ⟩ := given.alike key
      · exact .inl same
      · exact .inr ⟨value, other, found, otherFound, found, otherFound, differ⟩
  apply alike.skeletonFields_eq (ascending_extraOf ordered.ascending)
    (ascending_extraOf otherOrdered.ascending)
  rintro key value other - - ⟨found, otherFound, differ⟩
  exact differ.skeleton_eq (ordered.get? found) (otherOrdered.get? otherFound)

end Concealing

theorem unrecognizedOf_eq_of_skeletonFields_eq
    (same : Value.skeletonFields (extraOf first) = Value.skeletonFields (extraOf second)) :
    unrecognizedOf first = unrecognizedOf second := by
  have sameKeys : (extraOf first).keys = (extraOf second).keys := by
    rw [← Value.keys_skeletonFields, same, Value.keys_skeletonFields]
  rw [unrecognizedOf, unrecognizedOf]
  exact congrArg (List.filter _) sameKeys

end Config

/-! ### Decoding -/

/-- What may differ inside a part of a document. -/
def Fields.Concealed (part : String) (first second : Fields) : Prop :=
  first.Alike (Replaced (Config.Hidden Config.documentSecrets part)) second

namespace Fields.Concealed

variable {part : String} {first second : Fields}

theorem field (concealed : Fields.Concealed part first second) {α : Type} (name : String)
    {decode : Decode.Decoder α} {fallback : Option α}
    (shown : ¬ Config.Hidden Config.documentSecrets part name) :
    Decode.Record.Matched Eq (.field name decode fallback) first second := by
  obtain same | ⟨_, _, _, _, hidden, _⟩ := concealed name
  · exact .field same
  · exact absurd hidden shown

/-- Of a secret only what all texts that are set have in common is seen. -/
theorem secret (concealed : Fields.Concealed part first second) {α β : Type} {view : α → β}
    {shown : β} (name : String) {decode : Decode.Decoder α} {fallback : Option α}
    (reads : ∀ {value : Value}, value.Filled →
      ∃ data, decode value = .ok data ∧ view data = shown) :
    Decode.Record.Matched (fun data other => view data = view other) (.field name decode fallback)
      first second := by
  obtain same | ⟨value, other, found, otherFound, -, filled, otherFilled⟩ := concealed name
  · refine (Decode.Record.Matched.field same).mono ?_
    rintro data _ rfl
    rfl
  · refine .field_of_decode found otherFound ?_
    obtain ⟨data, yields, views⟩ := reads filled
    obtain ⟨otherData, otherYields, otherViews⟩ := reads otherFilled
    rw [yields, otherYields]
    exact .ok (views.trans otherViews.symm)

end Fields.Concealed

namespace Exchange

theorem matched_veiled {first second : Fields}
    (concealed : Fields.Concealed "exchange" first second) :
    Matched (fun exchange other => exchange.veiled = other.veiled) (decode (.mapping first))
      (decode (.mapping second)) := by
  refine Decode.Record.Matched.decoder ?_ "ExchangeConfig"
  unfold record
  refine .seqSame ?_ (concealed.field "unknown_fee_rate" (by decide))
  refine .seqSame ?_ (concealed.field "skip_pair_validation" (by decide))
  refine .seqSame ?_ (concealed.field "markets_refresh_interval" (by decide))
  refine .seqSame ?_ (concealed.field "enable_ws" (by decide))
  refine .seqSame ?_ (concealed.field "pair_blacklist" (by decide))
  refine .seqSame ?_ (concealed.field "pair_whitelist" (by decide))
  refine .seqSame ?_ (concealed.field "ccxt_async_config" (by decide))
  refine .seqSame ?_ (concealed.field "ccxt_config" (by decide))
  refine .seq ?_ (concealed.secret "uid" Value.Filled.optionalFreeText)
  refine .seq ?_ (concealed.secret "password" Value.Filled.optionalFreeText)
  refine .seq ?_ (concealed.secret "secret" Value.Filled.freeText)
  refine .seq ?_ (concealed.secret "key" Value.Filled.freeText)
  refine .mapSame ?_ (concealed.field "name" (by decide))
  intro name key otherKey keys secret otherSecret secrets password otherPassword passwords
    uid otherUid uids
  intros
  simp only [veiled, keys, secrets, passwords, uids]

end Exchange

namespace ApiServer

theorem matched_veiled {first second : Fields}
    (concealed : Fields.Concealed "api_server" first second) :
    Matched (fun server other => server.veiled = other.veiled) (decode (.mapping first))
      (decode (.mapping second)) := by
  refine Decode.Record.Matched.decoder ?_ "ApiServerConfig"
  unfold record
  refine .seqSame ?_ (concealed.field "verbosity" (by decide))
  refine .seqSame ?_ ?_
  rotate_left
  · have same (name : String) (shown : ¬ Config.Hidden Config.documentSecrets "api_server" name) :
        Fields.get? name first = Fields.get? name second := by
      obtain same | ⟨_, _, _, _, hidden, _⟩ := concealed name
      · exact same
      · exact absurd hidden shown
    exact .spelledTwoWays (same "CORS_origins" (by decide)) (same "cors_origins" (by decide))
  refine .seq ?_ (concealed.secret "ws_token" Value.Filled.texts)
  refine .seq ?_ (concealed.secret "jwt_secret_key" Value.Filled.optionalFreeText)
  refine .seq ?_ (concealed.secret "password" Value.Filled.freeText)
  refine .seqSame ?_ (concealed.field "username" (by decide))
  refine .seqSame ?_ (concealed.field "listen_port" (by decide))
  refine .seqSame ?_ (concealed.field "listen_ip_address" (by decide))
  refine .mapSame ?_ (concealed.field "enabled" (by decide))
  intro enabled address port username password otherPassword passwords tokenKey otherTokenKey
    tokenKeys tokens otherTokens sameTokens
  intros
  simp only [veiled, passwords, tokenKeys, sameTokens]

end ApiServer

namespace Telegram

theorem matched_veiled {first second : Fields}
    (concealed : Fields.Concealed "telegram" first second) :
    Matched (fun telegram other => telegram.veiled = other.veiled) (decode (.mapping first))
      (decode (.mapping second)) := by
  refine Decode.Record.Matched.decoder ?_ "TelegramConfig"
  unfold record
  refine .seqSame ?_ (concealed.field "notification_settings" (by decide))
  refine .seqSame ?_ (concealed.field "balance_dust_level" (by decide))
  refine .seqSame ?_ (concealed.field "reload" (by decide))
  refine .seqSame ?_ (concealed.field "authorized_users" (by decide))
  refine .seqSame ?_ (concealed.field "topic_id" (by decide))
  refine .seq ?_ (concealed.secret "chat_id" Value.Filled.freeText)
  refine .seq ?_ (concealed.secret "token" Value.Filled.freeText)
  refine .mapSame ?_ (concealed.field "enabled" (by decide))
  intro enabled token otherToken tokens chatId otherChatId chatIds
  intros
  simp only [veiled, tokens, chatIds]

end Telegram

namespace Config

variable {secrets : List (String × String)} {first second : Fields}

theorem Concealing.matched_part (given : Concealing secrets first second)
    (known : secrets ⊆ documentSecrets) (part : String) {α β : Type} {view : α → β}
    {decode : Decode.Decoder α} {fallback : Option α}
    (reads : ∀ {inside otherInside : Fields}, Fields.Concealed part inside otherInside →
      Matched (fun data other => view data = view other) (decode (.mapping inside))
        (decode (.mapping otherInside))) :
    Decode.Record.Matched (fun data other => view data = view other) (.field part decode fallback)
      first second := by
  obtain same | ⟨_, _, found, otherFound, inside, otherInside, rfl, rfl, alike⟩ := given.alike part
  · refine (Decode.Record.Matched.field same).mono ?_
    rintro data _ rfl
    rfl
  · refine .field_of_decode found otherFound (reads (alike.mono ?_))
    rintro key value other ⟨⟨secret, membership, folded⟩, filled⟩
    exact ⟨⟨secret, known membership, folded⟩, filled⟩

theorem matched_optional {α β : Type} {view : α → β} {decode : Decode.Decoder α}
    {first second : Fields}
    (matched : Matched (fun data other => view data = view other) (decode (.mapping first))
      (decode (.mapping second))) :
    Matched (fun data other => data.map view = other.map view)
      (Decode.optional decode (.mapping first)) (Decode.optional decode (.mapping second)) := by
  refine matched.map fun data other same => ?_
  rw [Option.map_some, Option.map_some, same]

theorem matched_decode_cloaked (given : Concealing secrets first second)
    (known : secrets ⊆ documentSecrets) (ordered : first.Ordered) (otherOrdered : second.Ordered) :
    Matched (fun config other => config.cloaked = other.cloaked) (decode (.mapping first))
      (decode (.mapping second)) := by
  have same (key : String) (shown : ∀ secret ∈ documentSecrets,
      Key.folded key ≠ Key.folded secret.1) : Fields.get? key first = Fields.get? key second :=
    given.get?_eq_of_folded_ne ordered otherOrdered fun secret membership =>
      shown secret (known membership)
  have unpaired : ∀ key ∈ modeledKeys, key ∉ pairedKeys → ∀ secret ∈ documentSecrets,
      Key.folded key ≠ Key.folded secret.1 := by
    decide +kernel
  refine (matched_decode (fun key modeled aside => same key (unpaired key modeled aside))
    (.field (same "dry_run" (by decide)))
    (given.matched_part known "exchange" Exchange.matched_veiled)
    (given.matched_part known "api_server" fun concealed =>
      matched_optional (ApiServer.matched_veiled concealed))
    (given.matched_part known "telegram" fun concealed =>
      matched_optional (Telegram.matched_veiled concealed))).mono ?_
  rintro config other ⟨dryRun, exchange, apiServer, telegram, rest⟩
  rw [rest]
  simp only [cloaked, veiled, dryRun, exchange, apiServer, telegram]

theorem cloaked_completed (document : Fields) (config : Config) :
    (completed document config).cloaked = { config.cloaked.withStages with
      extra := Value.skeletonFields (extraOf document),
      unrecognized := unrecognizedOf document } := by
  rw [← cloaked_withStages]
  rfl

/-- Configurations of two documents that show the same. -/
structure ShownAlike (first second : Fields) (config other : Config) : Prop where
  cloaked : config.cloaked = other.cloaked
  extra : config.extra = extraOf first
  otherExtra : other.extra = extraOf second

theorem matched_ofDocument_shownAlike (given : Concealing secrets first second)
    (known : secrets ⊆ documentSecrets) (ordered : first.Ordered) (otherOrdered : second.Ordered) :
    Matched (ShownAlike first second) (ofDocument first) (ofDocument second) := by
  refine matched_ofDocument (matched_decode_cloaked given known ordered otherOrdered) ?_ ?_
  · intro config other same
    rw [← config.withStages.fieldRules_cloaked, cloaked_withStages, same, ← cloaked_withStages,
      fieldRules_cloaked]
  · intro config other same _
    have sameExtra := given.skeletonFields_extraOf_eq ordered otherOrdered
    refine ⟨?_, rfl, rfl⟩
    rw [cloaked_completed, cloaked_completed, same, sameExtra,
      unrecognizedOf_eq_of_skeletonFields_eq sameExtra]

theorem ShownAlike.redacted_eq {config other : Config}
    (alike : ShownAlike first second config other)
    (masked : maskedExtra (extraOf first) = maskedExtra (extraOf second)) :
    config.redacted = other.redacted := by
  rw [← alike.extra, ← alike.otherExtra] at masked
  refine redacted_eq_of_veiled ?_ masked
  exact congrArg (fun config : Config => { config with extra := [] }) alike.cloaked

end Config

end BotConfig
