import BotConfig.Proofs.Places
import BotConfig.Proofs.Redaction
import BotConfig.Proofs.Reordering

/-!
What masking leaves alone.

Masking the secret at a path changes what stands at the path, and of the values on the way there
no more than that.  The paths of secrets are apart, so they may be masked in any order and as
often as one likes.
-/

namespace BotConfig

open Decode (Step)

/-- What is not set: its text or its list is empty, or it is null. -/
def Value.Unset (value : Value) : Prop := value = .null ∨ value = .text "" ∨ value = .list []

theorem Key.Apart.map {α β : Type} {embed : α → β} {first second : List α}
    (apart : Apart first second) (injective : Function.Injective embed) :
    Apart (first.map embed) (second.map embed) :=
  ⟨fun isPrefix => apart.1 ((List.prefix_map_iff_of_injective injective).mp isPrefix),
    fun isPrefix => apart.2 ((List.prefix_map_iff_of_injective injective).mp isPrefix)⟩

namespace Redaction

/-! ### One secret -/

theorem isSet_eq_false_iff (value : Value) : isSet value = false ↔ value.Unset := by
  unfold Value.Unset
  cases value with
  | text content => simp [isSet]
  | list items => simp [isSet]
  | _ => simp [isSet]

theorem masked_of_unset {value : Value} (unset : value.Unset) : masked value = value := by
  rw [masked, (isSet_eq_false_iff value).mpr unset]
  rfl

theorem masked_of_not_unset {value : Value} (set : ¬ value.Unset) :
    masked value = .text placeholder := by
  have isSet : isSet value = true := by
    rw [← Bool.not_eq_false, isSet_eq_false_iff]
    exact set
  rw [masked, if_pos isSet]

theorem masked_masked (value : Value) : masked (masked value) = masked value := by
  by_cases unset : value.Unset
  · rw [masked_of_unset unset, masked_of_unset unset]
  · rw [masked_of_not_unset unset]
    rfl

theorem part?_mask (key : String) (rest : List String) (value : Value) (step : Step) :
    (mask (key :: rest) value).part? step =
      if step = .key key then (value.part? step).map (mask rest) else value.part? step := by
  cases value with
  | mapping fields =>
      cases step with
      | key name => simp only [mask, Value.part?, Value.entries, get?_maskField, Step.key.injEq]
      | index position =>
          rw [if_neg (by simp)]
          rfl
  | _ => cases step <;> simp [mask, Value.part?, Value.entries]

theorem outline_mask_cons (key : String) (rest : List String) (value : Value) :
    (mask (key :: rest) value).outline = value.outline := by
  cases value with
  | mapping fields => rw [mask, Value.outline, Value.outline, keys_maskField]
  | _ => rfl

/-- Above a secret and beside it a value keeps its items and its keys. -/
theorem outline_follow?_mask {secret : List String} {path : List Step}
    (outside : ¬ secret.map Step.key <+: path) (value : Value) :
    ((mask secret value).follow? path).map Value.outline =
      (value.follow? path).map Value.outline := by
  induction path generalizing secret value with
  | nil =>
      cases secret with
      | nil => exact absurd List.nil_prefix outside
      | cons key rest => exact congrArg some (outline_mask_cons key rest value)
  | cons step more inductionHypothesis =>
      cases secret with
      | nil => exact absurd List.nil_prefix outside
      | cons key rest =>
          -- Only the step to the key of the secret leads to a part that differs.
          simp only [Value.follow?_cons, part?_mask]
          split
          next isKey =>
            have below : ¬ rest.map Step.key <+: more := by
              intro isPrefix
              apply outside
              rw [isKey]
              exact List.cons_prefix_cons.mpr ⟨rfl, isPrefix⟩
            cases value.part? step with
            | none => rfl
            | some part => exact inductionHypothesis below part
          next => rfl

/-- A value that neither holds a secret nor lies within one stays as it is. -/
theorem follow?_mask_of_apart {secret : List String} {path : List Step}
    (apart : Key.Apart (secret.map Step.key) path) (value : Value) :
    (mask secret value).follow? path = value.follow? path := by
  induction path generalizing secret value with
  | nil => exact absurd rfl apart.right_ne_nil
  | cons step more inductionHypothesis =>
      cases secret with
      | nil => exact absurd rfl apart.left_ne_nil
      | cons key rest =>
          simp only [Value.follow?_cons, part?_mask]
          split
          next isKey =>
            subst isKey
            cases value.part? (.key key) with
            | none => rfl
            | some part => exact inductionHypothesis apart.tail part
          next => rfl

theorem follow?_mask_self (secret : List String) (value : Value) :
    (mask secret value).follow? (secret.map Step.key) =
      (value.follow? (secret.map Step.key)).map masked := by
  induction secret generalizing value with
  | nil => cases value <;> rfl
  | cons key rest inductionHypothesis =>
      simp only [List.map_cons, Value.follow?_cons, part?_mask, if_true]
      cases value.part? (.key key) with
      | none => rfl
      | some part => exact inductionHypothesis part

theorem mask_mask (secret : List String) (value : Value) :
    mask secret (mask secret value) = mask secret value := by
  induction secret generalizing value with
  | nil =>
      simp only [mask]
      exact masked_masked value
  | cons key rest inductionHypothesis =>
      cases value with
      | mapping fields =>
          simp only [mask, Value.mapping.injEq]
          induction fields with
          | nil => rfl
          | cons entry others fieldsHypothesis =>
              rcases entry with ⟨name, value⟩
              by_cases here : name = key
              · simp [maskField, here, inductionHypothesis]
              · simp [maskField, here, fieldsHypothesis]
      | _ => rfl

/-- Secrets that are apart may be masked in either order. -/
theorem mask_comm {first second : List String} (apart : Key.Apart first second) (value : Value) :
    mask second (mask first value) = mask first (mask second value) := by
  induction first generalizing second value with
  | nil => exact absurd rfl apart.left_ne_nil
  | cons key rest inductionHypothesis =>
      cases second with
      | nil => exact absurd rfl apart.right_ne_nil
      | cons otherKey otherRest =>
          cases value with
          | mapping fields =>
              simp only [mask, Value.mapping.injEq]
              induction fields with
              | nil => rfl
              | cons entry others fieldsHypothesis =>
                  rcases entry with ⟨name, value⟩
                  by_cases here : name = key
                  · by_cases there : name = otherKey
                    · subst here there
                      simp [maskField, inductionHypothesis apart.tail]
                    · subst here
                      simp [maskField, there]
                  · by_cases there : name = otherKey
                    · subst there
                      simp [maskField, here]
                    · simp [maskField, here, there, fieldsHypothesis]
          | _ => rfl

/-! ### Several secrets -/

/-- The value with several secrets masked in turn. -/
def maskAll (secrets : List (List String)) (value : Value) : Value :=
  secrets.foldl (fun value secret => mask secret value) value

@[simp]
theorem maskAll_cons (secret : List String) (others : List (List String)) (value : Value) :
    maskAll (secret :: others) value = maskAll others (mask secret value) := rfl

theorem outline_follow?_maskAll {secrets : List (List String)} {path : List Step}
    (outside : ∀ secret ∈ secrets, ¬ secret.map Step.key <+: path) (value : Value) :
    ((maskAll secrets value).follow? path).map Value.outline =
      (value.follow? path).map Value.outline := by
  induction secrets generalizing value with
  | nil => rfl
  | cons secret others inductionHypothesis =>
      obtain ⟨notHere, notThere⟩ := List.forall_mem_cons.mp outside
      rw [maskAll_cons, inductionHypothesis notThere, outline_follow?_mask notHere]

theorem follow?_maskAll_of_apart {secrets : List (List String)} {path : List Step}
    (apart : ∀ secret ∈ secrets, Key.Apart (secret.map Step.key) path) (value : Value) :
    (maskAll secrets value).follow? path = value.follow? path := by
  induction secrets generalizing value with
  | nil => rfl
  | cons secret others inductionHypothesis =>
      obtain ⟨apartHere, apartThere⟩ := List.forall_mem_cons.mp apart
      rw [maskAll_cons, inductionHypothesis apartThere, follow?_mask_of_apart apartHere]

variable {secrets : List (List String)}

theorem maskAll_eq_of_perm {order : List (List String)} (apart : secrets.Pairwise Key.Apart)
    (permuted : secrets.Perm order) (value : Value) :
    maskAll secrets value = maskAll order value :=
  foldl_eq_of_perm (fun _ => True) Key.Apart (fun _ _ => Key.Apart.symm)
    (fun value _ _ _ apart => mask_comm apart value) permuted apart (fun _ _ _ _ => trivial) trivial

/-- A secret may be masked after all others. -/
theorem maskAll_eq_last (apart : secrets.Pairwise Key.Apart) {secret : List String}
    (listed : secret ∈ secrets) (value : Value) :
    maskAll secrets value = mask secret (maskAll (secrets.erase secret) value) := by
  have permuted : secrets.Perm (secrets.erase secret ++ [secret]) :=
    (List.perm_cons_erase listed).trans (List.perm_append_singleton secret _).symm
  rw [maskAll_eq_of_perm apart permuted, maskAll, List.foldl_append]
  rfl

theorem mask_maskAll (apart : secrets.Pairwise Key.Apart) {secret : List String}
    (listed : secret ∈ secrets) (value : Value) :
    mask secret (maskAll secrets value) = maskAll secrets value := by
  rw [maskAll_eq_last apart listed, mask_mask]

/-- Masking secrets once more changes nothing. -/
theorem maskAll_maskAll (apart : secrets.Pairwise Key.Apart) {again : List (List String)}
    (listed : again ⊆ secrets) (value : Value) :
    maskAll again (maskAll secrets value) = maskAll secrets value := by
  induction again with
  | nil => rfl
  | cons secret others inductionHypothesis =>
      obtain ⟨here, there⟩ := List.cons_subset.mp listed
      rw [maskAll_cons, mask_maskAll apart here, inductionHypothesis there]

/-- What stands at the path of a secret depends on what stood there alone. -/
theorem follow?_maskAll_self (apart : secrets.Pairwise Key.Apart) {secret : List String}
    (listed : secret ∈ secrets) (value : Value) :
    (maskAll secrets value).follow? (secret.map Step.key) =
      (value.follow? (secret.map Step.key)).map masked := by
  have others : ∀ other ∈ secrets.erase secret, Key.Apart secret other :=
    (List.pairwise_cons.mp (((List.perm_cons_erase listed).pairwise_iff Key.Apart.symm).mp apart)).1
  rw [maskAll_eq_last apart listed, follow?_mask_self, follow?_maskAll_of_apart]
  intro other membership
  exact (others other membership).symm.map fun _ _ => Step.key.inj

theorem pairwise_apart_secretPaths : secretPaths.Pairwise Key.Apart := by
  unfold Key.Apart
  decide

end Redaction

namespace Config

open Redaction

/-- Redacting masks the secrets and nothing else.  Outside of secrets a redacted configuration has
what the configuration has, and a secret is replaced where it is set.  Neither the order of
secrets matters nor that some have been masked before. -/
theorem redacted_masks_secrets (config : Config) :
    (∀ path : List Step, (∀ secret ∈ secretPaths, ¬ secret.map Step.key <+: path) →
      (config.redacted.follow? path).map Value.outline =
          (config.toValue.follow? path).map Value.outline ∧
        ((∀ secret ∈ secretPaths, ¬ path <+: secret.map Step.key) →
          config.redacted.follow? path = config.toValue.follow? path)) ∧
    (∀ secret ∈ secretPaths,
      (config.toValue.atPath? secret = none → config.redacted.atPath? secret = none) ∧
        ∀ value, config.toValue.atPath? secret = some value →
          (value.Unset → config.redacted.atPath? secret = some value) ∧
            (¬ value.Unset → config.redacted.atPath? secret = some (.text placeholder))) ∧
    (∀ order, order.Perm secretPaths → maskAll order config.toValue = config.redacted) ∧
    ∀ again, again ⊆ secretPaths → maskAll again config.redacted = config.redacted := by
  have apart := pairwise_apart_secretPaths
  refine ⟨fun path outside => ⟨outline_follow?_maskAll outside config.toValue, fun notAbove => ?_⟩,
    fun secret listed => ?_, fun order permuted => ?_, fun again listed => ?_⟩
  · apply follow?_maskAll_of_apart
    intro secret listed
    exact ⟨outside secret listed, notAbove secret listed⟩
  · have atSecret :
        config.redacted.atPath? secret = (config.toValue.atPath? secret).map masked := by
      rw [← Value.follow?_keys, ← Value.follow?_keys]
      exact follow?_maskAll_self apart listed config.toValue
    constructor
    · intro absent
      rw [atSecret, absent]
      rfl
    · intro value found
      rw [atSecret, found, Option.map_some]
      constructor
      · intro unset
        rw [masked_of_unset unset]
      · intro set
        rw [masked_of_not_unset set]
  · exact (maskAll_eq_of_perm apart permuted.symm config.toValue).symm
  · exact maskAll_maskAll apart listed config.toValue

/-- A configuration where a mapping stands at the path of one secret and a list above another. -/
def oddlyShaped : Config :=
  { (default : Config) with
    extra := [("discord", .list [.text "a"]),
      ("webhook", .mapping [("retries", .number (.integer 3)), ("url", .mapping [("b", .null)])])] }

/-- The mapping is replaced, and neither what stands beside it nor the list is. -/
theorem redacted_masks_secrets_oddlyShaped :
    oddlyShaped.redacted.atPath? ["extra", "webhook", "url"] = some (.text placeholder) ∧
    oddlyShaped.redacted.atPath? ["extra", "discord", "webhook_url"] = none ∧
    oddlyShaped.redacted.follow? [.key "extra", .key "webhook", .key "retries"] =
      oddlyShaped.toValue.follow? [.key "extra", .key "webhook", .key "retries"] ∧
    oddlyShaped.redacted.follow? [.key "extra", .key "discord", .index 0] =
      oddlyShaped.toValue.follow? [.key "extra", .key "discord", .index 0] ∧
    maskAll secretPaths.reverse oddlyShaped.toValue = oddlyShaped.redacted := by
  obtain ⟨outside, atSecrets, anyOrder, -⟩ := oddlyShaped.redacted_masks_secrets
  have found : oddlyShaped.toValue.atPath? ["extra", "webhook", "url"] =
      some (.mapping [("b", .null)]) := by
    decide +kernel
  refine ⟨?_, ?_, ?_, ?_, anyOrder _ secretPaths.reverse_perm⟩
  · obtain ⟨-, present⟩ := atSecrets ["extra", "webhook", "url"] (by decide)
    exact (present _ found).2 (by simp [Value.Unset])
  · exact (atSecrets ["extra", "discord", "webhook_url"] (by decide)).1 (by decide +kernel)
  · exact (outside _ (by decide)).2 (by decide)
  · exact (outside _ (by decide)).2 (by decide)

end Config

end BotConfig
