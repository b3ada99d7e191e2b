import BotConfig.Config
import BotConfig.Proofs.Places
import BotConfig.Proofs.Rereading

/-!
Where decoders fail.

The path of a failure leads to a value of the document that is decoded, and where a field is said
to be missing that value has nothing under the name of the field.  Each way to build a decoder
keeps this, so all decoders have it.
-/

namespace BotConfig

namespace Decode

variable {α β : Type} {decode : Decoder α}

/-- A failure lies within a value: its path leads to a part of the value, and a field that is said
to be missing there is not in that part. -/
structure Failure.Within (value : Value) (failure : Failure) : Prop where
  reached : ∃ found, value.follow? failure.path = some found
  absent : ∀ name, failure.fault = .missingField name →
    value.follow? (failure.path ++ [.key name]) = none

namespace Failure.Within

/-- A failure within a part of a value lies within the value. -/
theorem under {value part : Value} {step : Step} {failure : Failure}
    (within : failure.Within part) (found : value.part? step = some part) :
    (failure.under step).Within value where
  reached := by
    obtain ⟨found', reached⟩ := within.reached
    refine ⟨found', ?_⟩
    rw [Failure.under, Value.follow?_cons, found, Option.bind_some, reached]
  absent := by
    intro name missing
    rw [Failure.under, List.cons_append, Value.follow?_cons, found, Option.bind_some,
      within.absent name missing]

/-- A failure at a value that is not about a missing field. -/
theorem here (value : Value) {fault : Fault} (present : ∀ name, fault ≠ .missingField name) :
    Failure.Within value ⟨[], fault⟩ where
  reached := ⟨value, rfl⟩
  absent name missing := absurd missing (present name)

theorem missingField {fields : Fields} {name : String} (absent : Fields.get? name fields = none) :
    Failure.Within (.mapping fields) ⟨[], .missingField name⟩ where
  reached := ⟨_, rfl⟩
  absent := by
    rintro _ ⟨⟩
    rw [List.nil_append, Value.follow?_cons, Value.part?, Value.entries, absent, Option.bind_none]

end Failure.Within

/-- What goes wrong in reading a value lies within the value. -/
def Blames (value : Value) (outcome : Except Failure α) : Prop :=
  ∀ failure, outcome = .error failure → failure.Within value

namespace Blames

variable {value : Value} {outcome : Except Failure α}

theorem ok (data : α) : Blames value (.ok data) := nofun

theorem error {failure : Failure} (within : failure.Within value) :
    Blames value (.error failure : Except Failure α) := by
  rintro _ ⟨⟩
  exact within

theorem fail {fault : Fault} (present : ∀ name, fault ≠ .missingField name) :
    Blames value (Decode.fail fault : Except Failure α) :=
  .error (.here value present)

theorem wrongType (other : Value) (expected : String) :
    Blames value (Decode.wrongType other expected : Except Failure α) :=
  .fail (by simp)

theorem map (blames : Blames value outcome) (change : α → β) :
    Blames value (change <$> outcome) := by
  intro failure fails
  cases outcome with
  | ok data => cases fails
  | error inner =>
      cases fails
      exact blames failure rfl

theorem bind (blames : Blames value outcome) {next : α → Except Failure β}
    (continues : ∀ data, Blames value (next data)) : Blames value (outcome >>= next) := by
  intro failure fails
  cases outcome with
  | ok data => exact continues data failure fails
  | error inner =>
      cases fails
      exact blames failure rfl

end Blames

/-- What goes wrong in a decoder lies within the value that it decodes. -/
def Locates (decode : Decoder α) : Prop := ∀ value, Blames value (decode value)

/-! ### Decoders of single values -/

theorem locates_text : Locates text := by
  intro value
  unfold text
  split
  · exact .ok _
  · exact .wrongType _ _

theorem locates_boolean : Locates boolean := by
  intro value
  unfold boolean
  split
  · exact .ok _
  · exact .wrongType _ _

theorem locates_unsigned (bits : Nat) : Locates (unsigned bits) := by
  intro value
  unfold unsigned
  split
  · split
    · exact .ok _
    · exact .fail (by simp)
  · exact .wrongType _ _

theorem locates_real : Locates real := by
  intro value
  unfold real
  split
  · exact .ok _
  · exact .wrongType _ _

theorem locates_decimal : Locates decimal := by
  intro value
  unfold decimal
  dsimp only
  split
  · exact .ok _
  · split
    · exact .ok _
    · exact .fail (by simp)
  · split
    · exact .ok _
    · exact .fail (by simp)
  · exact .wrongType _ _

theorem locates_freeText : Locates freeText := by
  intro value
  cases value with
  | list items => exact .fail (by simp)
  | mapping fields => exact .fail (by simp)
  | _ => exact .ok _

theorem locates_optionalFreeText : Locates optionalFreeText := fun value =>
  (locates_freeText value).map _

theorem locates_texts : Locates texts := by
  intro value
  unfold texts
  split
  · exact .ok _
  · split
    · exact .ok _
    · exact .fail (by simp)
  · exact .fail (by simp)

theorem locates_fields : Locates fields := by
  intro value
  unfold fields
  split
  · exact .ok _
  · exact .wrongType _ _

theorem locates_pair : Locates pair := by
  intro value
  refine (locates_text value).bind fun content => ?_
  split
  · exact .ok _
  · exact .fail (by simp)

/-- The content of a mapping that names a choice is part of the mapping. -/
theorem locates_choice (choices : List (List String × α)) : Locates (choice choices) := by
  intro value
  unfold choice
  dsimp only
  split
  · split
    · exact .ok _
    · exact .fail (by simp)
  next name content =>
    refine Blames.bind ?_ fun chosen => ?_
    · split
      · exact .ok _
      · exact .fail (by simp)
    · split
      · exact .ok _
      · refine .error (.under (.here content (by simp)) ?_)
        simp [Value.part?, Value.entries]
  · exact .fail (by simp)
  · exact .wrongType _ _

/-! ### Decoders of parts -/

theorem Locates.optional (locates : Locates decode) : Locates (Decode.optional decode) := by
  intro value
  unfold Decode.optional
  split
  · exact .ok _
  · exact (locates value).map _

/-- The rest of the items of a list from a position on, with the first of them. -/
theorem part?_index_of_drop {items rest : List Value} {item : Value} {position : Nat}
    (isRest : items.drop position = item :: rest) :
    (Value.list items).part? (.index position) = some item ∧ items.drop (position + 1) = rest := by
  constructor
  · have first := congrArg (fun items => items[0]?) isRest
    simpa [List.getElem?_drop, Value.part?, Value.items] using first
  · rw [← List.drop_drop, isRest]
    rfl

theorem Locates.itemsFrom (locates : Locates decode) {items rest : List Value} {position : Nat}
    (isRest : items.drop position = rest) :
    Blames (.list items) (itemsFrom decode position rest) := by
  induction rest generalizing position with
  | nil => exact .ok []
  | cons item others inductionHypothesis =>
      obtain ⟨found, isOthers⟩ := part?_index_of_drop isRest
      rw [Decode.itemsFrom]
      split
      next failure fails => exact .error (.under (locates item failure fails) found)
      · exact (inductionHypothesis isOthers).map _

theorem Locates.listOf (locates : Locates decode) : Locates (Decode.listOf decode) := by
  intro value
  unfold Decode.listOf
  split
  · exact locates.itemsFrom rfl
  · exact .wrongType _ _

/-! ### Records -/

/-- The fault of a record lies within the mapping that it is read from, and a field that is missing
is not there. -/
def Reading.Blames (fields : Fields) : Reading α → Prop
  | .done _ => True
  | .faulty _ failure => failure.Within (.mapping fields)
  | .missing name => Fields.get? name fields = none

theorem Reading.Blames.both {fields : Fields} {functions : Reading (α → β)}
    {arguments : Reading α} (first : functions.Blames fields) (second : arguments.Blames fields) :
    (functions.both arguments).Blames fields := by
  cases functions with
  | done f => cases arguments <;> exact second
  | missing name =>
      cases arguments with
      | faulty key failure => exact second
      | _ => exact first
  | faulty key failure =>
      cases arguments with
      | faulty other otherFailure =>
          rw [Reading.both]
          split
          · exact second
          · exact first
      | _ => exact first

/-- A fault lies within the list that a record is read from, or what is left are the items from a
position on. -/
def Leaves (all : List Value) (position : Nat) : Except Failure (α × List Value) → Prop
  | .error failure => failure.Within (.list all)
  | .ok (_, left) => all.drop position = left

namespace Record

variable {record : Record α}

/-- What goes wrong in a record lies within the mapping or the list that it is read from. -/
structure Locates (record : Record α) : Prop where
  fields : ∀ fields, (record.fromFields fields).Blames fields
  items : ∀ {all rest : List Value} {position : Nat}, all.drop position = rest →
    ∀ expected, Leaves all (position + record.size) (record.fromItems expected position rest)

theorem Locates.pure (data : α) : Locates (Pure.pure data) where
  fields _ := trivial
  items isRest _ := isRest

theorem Locates.seq {function : Record (α → β)} {argument : Record α}
    (functions : function.Locates) (arguments : argument.Locates) :
    (function <*> argument).Locates where
  fields fields := (functions.fields fields).both (arguments.fields fields)
  items := by
    intro all rest position isRest expected
    have first := functions.items isRest expected
    change Leaves all _ ((Record.seq function argument).fromItems expected position rest)
    unfold Record.seq
    dsimp only
    split
    next failure fails =>
      rw [fails] at first
      exact first
    next f left yields =>
      rw [yields] at first
      have second := arguments.items first expected
      split
      next failure fails =>
        rw [fails] at second
        exact second
      next data left yields =>
        rw [yields, Nat.add_assoc] at second
        exact second

theorem Locates.map {function : α → β} {argument : Record α} (arguments : argument.Locates) :
    (function <$> argument).Locates :=
  .seq (.pure function) arguments

theorem blames_present (locates : Decode.Locates decode) {name : String} {fields : Fields}
    {value : Value} (found : Fields.get? name fields = some value) :
    (present decode name value).Blames fields := by
  unfold present
  split
  · trivial
  next failure fails => exact .under (locates value failure fails) found

theorem leaves_nextItem (locates : Decode.Locates decode) {all rest : List Value} {position : Nat}
    (isRest : all.drop position = rest) (fallback : Option α) (expected : String) :
    Leaves all (position + 1) (nextItem decode fallback expected position rest) := by
  cases rest with
  | nil =>
      cases fallback with
      | none => exact .here _ (by simp)
      | some data =>
          change all.drop (position + 1) = []
          rw [← List.drop_drop, isRest]
          rfl
  | cons item others =>
      obtain ⟨found, isOthers⟩ := part?_index_of_drop isRest
      rw [nextItem]
      split
      · exact isOthers
      next failure fails => exact .under (locates item failure fails) found

theorem Locates.field {name : String} (locates : Decode.Locates decode) {fallback : Option α} :
    (field name decode fallback).Locates where
  fields := by
    intro fields
    unfold Record.field
    dsimp only
    split
    next value found => exact blames_present locates found
    next missing =>
      cases fallback with
      | none => exact missing
      | some data => trivial
  items isRest expected := leaves_nextItem locates isRest fallback expected

theorem Locates.spelledTwoWays {name spelling : String} (locates : Decode.Locates decode)
    {fallback : α} : (spelledTwoWays name spelling decode fallback).Locates where
  fields := by
    intro fields
    unfold Record.spelledTwoWays
    dsimp only
    split
    · trivial
    next found _ => exact blames_present locates found
    next _ found => exact blames_present locates found
    next found _ =>
      have blames := blames_present locates found
      split
      · exact .here _ (by simp)
      · exact blames
  items isRest expected := leaves_nextItem locates isRest (some fallback) expected

theorem Locates.decoder (locates : record.Locates) (name : String) :
    Decode.Locates (record.decoder name) := by
  intro value
  cases value with
  | mapping fields =>
      have blames := locates.fields fields
      cases reading : record.fromFields fields with
      | done data =>
          rw [Gives.decoder_eq reading]
          exact .ok data
      | faulty key failure =>
          rw [Gives.decoder_eq reading]
          rw [reading] at blames
          exact .error blames
      | missing field =>
          rw [Gives.decoder_eq reading]
          rw [reading] at blames
          exact .error (.missingField blames)
  | list items =>
      have leaves := locates.items (show items.drop 0 = items from rfl)
        ("struct " ++ name ++ " with " ++ toString record.size ++ " elements")
      unfold Record.decoder
      dsimp only
      split
      next failure fails =>
        rw [fails] at leaves
        exact .error leaves
      · exact .ok _
      · exact .fail (by simp)
  | _ => exact .wrongType _ _

end Record

end Decode

/-! ### Sections -/

open Decode

theorem UnfilledTimeout.locates : Locates decode := by
  refine Record.Locates.decoder ?_ "UnfilledTimeout"
  refine .seq ?_ (.field (locates_choice _))
  refine .seq ?_ (.field (locates_unsigned 32))
  refine .seq ?_ (.field (locates_unsigned 32))
  exact .map (.field (locates_unsigned 32))

theorem OrderTypes.locates : Locates decode := by
  refine Record.Locates.decoder ?_ "OrderTypes"
  refine .seq ?_ (.field (locates_choice _).optional)
  refine .seq ?_ (.field locates_real)
  refine .seq ?_ (.field (locates_unsigned 32))
  refine .seq ?_ (.field locates_boolean)
  refine .seq ?_ (.field (locates_choice _))
  refine .seq ?_ (.field (locates_choice _).optional)
  refine .seq ?_ (.field (locates_choice _).optional)
  refine .seq ?_ (.field (locates_choice _))
  refine .seq ?_ (.field (locates_choice _))
  exact .map (.field (locates_choice _))

theorem OrderTimeInForce.locates : Locates decode := by
  refine Record.Locates.decoder ?_ "OrderTimeInForce"
  refine .seq ?_ (.field (locates_choice _))
  exact .map (.field (locates_choice _))

theorem MarketDepth.locates : Locates decode := by
  refine Record.Locates.decoder ?_ "DepthOfMarket"
  refine .seq ?_ (.field locates_real)
  exact .map (.field locates_boolean)

theorem Pricing.locates : Locates decode := by
  refine Record.Locates.decoder ?_ "PricingConfig"
  refine .seq ?_ (.field MarketDepth.locates)
  refine .seq ?_ (.field locates_real)
  refine .seq ?_ (.field (locates_unsigned 32))
  refine .seq ?_ (.field locates_boolean)
  exact .map (.field (locates_choice _))

theorem Internals.locates : Locates decode := by
  refine Record.Locates.decoder ?_ "InternalsConfig"
  refine .seq ?_ (.field locates_boolean)
  refine .seq ?_ (.field (locates_unsigned 32))
  exact .map (.field locates_real)

theorem Edge.locates : Locates decode := by
  refine Record.Locates.decoder ?_ "EdgeConfig"
  refine .seq ?_ (.field locates_boolean)
  refine .seq ?_ (.field (locates_unsigned 32))
  refine .seq ?_ (.field (locates_unsigned 32))
  refine .seq ?_ (.field locates_real)
  refine .seq ?_ (.field locates_real)
  refine .seq ?_ (.field locates_real)
  refine .seq ?_ (.field locates_real)
  refine .seq ?_ (.field locates_real)
  refine .seq ?_ (.field locates_real)
  refine .seq ?_ (.field (locates_unsigned 32))
  refine .seq ?_ (.field (locates_unsigned 64))
  exact .map (.field locates_boolean)

theorem Address.locates : Locates decode := by
  intro value
  unfold decode
  split
  · split
    · exact .ok _
    · exact .fail (by simp)
  · exact .wrongType _ _

theorem ApiServer.locates : Locates decode := by
  refine Record.Locates.decoder ?_ "ApiServerConfig"
  refine .seq ?_ (.field (locates_choice _))
  refine .seq ?_ (.spelledTwoWays locates_text.listOf)
  refine .seq ?_ (.field locates_texts)
  refine .seq ?_ (.field locates_optionalFreeText)
  refine .seq ?_ (.field locates_freeText)
  refine .seq ?_ (.field locates_freeText)
  refine .seq ?_ (.field (locates_unsigned 16).optional)
  refine .seq ?_ (.field Address.locates.optional)
  exact .map (.field locates_boolean)

theorem Telegram.locates : Locates decode := by
  refine Record.Locates.decoder ?_ "TelegramConfig"
  refine .seq ?_ (.field locates_fields)
  refine .seq ?_ (.field locates_real.optional)
  refine .seq ?_ (.field locates_boolean)
  refine .seq ?_ (.field locates_text.listOf)
  refine .seq ?_ (.field locates_optionalFreeText)
  refine .seq ?_ (.field locates_freeText)
  refine .seq ?_ (.field locates_freeText)
  exact .map (.field locates_boolean)

theorem Exchange.locates : Locates decode := by
  refine Record.Locates.decoder ?_ "ExchangeConfig"
  refine .seq ?_ (.field locates_real.optional)
  refine .seq ?_ (.field locates_boolean)
  refine .seq ?_ (.field (locates_unsigned 32))
  refine .seq ?_ (.field locates_boolean)
  refine .seq ?_ (.field locates_text.listOf)
  refine .seq ?_ (.field locates_pair.listOf)
  refine .seq ?_ (.field locates_fields)
  refine .seq ?_ (.field locates_fields)
  refine .seq ?_ (.field locates_optionalFreeText)
  refine .seq ?_ (.field locates_optionalFreeText)
  refine .seq ?_ (.field locates_freeText)
  refine .seq ?_ (.field locates_freeText)
  exact .map (.field locates_text)

theorem Stake.locates : Locates decode := by
  intro value
  unfold decode
  split
  · split
    · exact .ok _
    · exact .fail (by simp)
  · exact .ok _
  · split
    · exact .ok _
    · exact .fail (by simp)
  · exact .fail (by simp)

theorem PairlistStage.locates : Locates decode := by
  intro value
  unfold decode
  split
  · split
    next absent => exact .error (.missingField absent)
    next found =>
      split
      · exact .ok _
      next failure fails => exact .error (.under (locates_choice _ _ failure fails) found)
  · exact .wrongType _ _

theorem Config.locates : Locates decode := by
  refine Record.Locates.decoder ?_ "TradingConfig"
  refine .seq ?_ (.pure _)
  refine .seq ?_ (.pure _)
  refine .seq ?_ (.pure _)
  refine .seq ?_ (.field Internals.locates)
  refine .seq ?_ (.field locates_boolean)
  refine .seq ?_ (.field (locates_choice _))
  refine .seq ?_ (.field Telegram.locates.optional)
  refine .seq ?_ (.field ApiServer.locates.optional)
  refine .seq ?_ (.field Edge.locates.optional)
  refine .seq ?_ (.field PairlistStage.locates.listOf)
  refine .seq ?_ (.field Exchange.locates)
  refine .seq ?_ (.field Pricing.locates)
  refine .seq ?_ (.field Pricing.locates)
  refine .seq ?_ (.field OrderTimeInForce.locates)
  refine .seq ?_ (.field OrderTypes.locates)
  refine .seq ?_ (.field UnfilledTimeout.locates)
  refine .seq ?_ (.field locates_boolean)
  refine .seq ?_ (.field locates_boolean)
  refine .seq ?_ (.field locates_text.optional)
  refine .seq ?_ (.field (locates_choice _).optional)
  refine .seq ?_ (.field (locates_choice _))
  refine .seq ?_ (.field locates_decimal)
  refine .seq ?_ (.field locates_boolean)
  refine .seq ?_ (.field locates_decimal.optional)
  refine .seq ?_ (.field locates_real)
  refine .seq ?_ (.field Stake.locates)
  refine .seq ?_ (.field locates_text)
  refine .seq ?_ (.field (locates_unsigned 32))
  exact .map (.field locates_text)

end BotConfig
