import BotConfig.Decode
import BotConfig.Proofs.Amounts
import BotConfig.Proofs.Reading

/-!
Data that are read back as they are written.

What a decoder gives for a value that has been read keeps to limits of its own, and within these
limits it is read back from what it is written as.  Both hold of a record as soon as they hold of
its fields.
-/

namespace BotConfig

/-! ### Values that are in order already -/

theorem Fields.insert_of_forall_lt {key : String} {fields : Fields}
    (least : ∀ other ∈ keys fields, key < other) (value : Value) :
    insert key value fields = (key, value) :: fields := by
  cases fields with
  | nil => rfl
  | cons entry rest =>
      have below : key < entry.1 := least entry.1 List.mem_cons_self
      have different : entry.1 ≠ key := by
        intro same
        rw [same] at below
        exact String.lt_irrefl key below
      rw [insert, if_neg different, if_pos below]

namespace Value

theorem sortedItems_eq_map (items : List Value) : sortedItems items = items.map sorted := by
  induction items with
  | nil => rfl
  | cons item rest inductionHypothesis => rw [sortedItems, inductionHypothesis, List.map_cons]

theorem sortedFields_eq {fields : Fields} (ascending : fields.Ascending)
    (same : ∀ entry ∈ fields, entry.2.sorted = entry.2) : sortedFields fields = fields := by
  induction fields with
  | nil => rfl
  | cons entry rest inductionHypothesis =>
      obtain ⟨sameEntry, sameRest⟩ := List.forall_mem_cons.mp same
      obtain ⟨least, restAscending⟩ := List.pairwise_cons.mp ascending
      rw [sortedFields, sameEntry, inductionHypothesis restAscending sameRest,
        Fields.insert_of_forall_lt least]

theorem sorted_ne_null {value : Value} (notNull : value ≠ .null) : value.sorted ≠ .null := by
  cases value with
  | null => exact absurd rfl notNull
  | _ => simp [sorted]

theorem Ordered.sorted_eq {value : Value} (ordered : value.Ordered) : value.sorted = value := by
  induction ordered with
  | list _ inductionHypothesis =>
      rw [sorted, sortedItems_eq_map, List.map_congr_left inductionHypothesis, List.map_id']
  | mapping ascending _ inductionHypothesis =>
      rw [sorted, sortedFields_eq ascending inductionHypothesis]
  | _ => rfl

end Value

theorem Fields.Ordered.sortedFields_eq {fields : Fields} (ordered : fields.Ordered) :
    Value.sortedFields fields = fields :=
  Value.mapping.inj ((ordered_mapping_iff fields).mpr ordered).sorted_eq

/-- An entry that is put into a mapping without it can be dropped again. -/
theorem Fields.erase_insert {key : String} {fields : Fields} (ascending : fields.Ascending)
    (missing : get? key fields = none) (value : Value) :
    erase key (insert key value fields) = fields := by
  have inserted := ascending.insert key value
  refine eq_of_get?_eq (inserted.erase key) ascending fun other => ?_
  by_cases same : other = key
  · rw [same, inserted.get?_erase, if_pos rfl, missing]
  · rw [get?_erase_of_ne (Ne.symm same), get?_insert_of_ne (Ne.symm same)]

namespace Decode

variable {α β : Type}

/-! ### Decoders -/

/-- Data are read back from what they are written as, with all keys in order. -/
def Rereads (decode : Decoder α) (encode : α → Value) (data : α) : Prop :=
  decode (encode data).sorted = .ok data

/-- What is read has a property. -/
def Ensures (property : α → Prop) (decode : Decoder α) : Prop :=
  ∀ value : Value, value.Regular → Yields property (decode value)

/-- What is read is read back. -/
abbrev Faithful (decode : Decoder α) (encode : α → Value) : Prop :=
  Ensures (Rereads decode encode) decode

section

variable {property : α → Prop} {decode : Decoder α} {encode : α → Value}

theorem Ensures.any (decode : Decoder α) : Ensures (fun _ => True) decode :=
  fun value _ => .any (decode value)

theorem rereads_text (content : String) : Rereads text .text content := rfl

theorem rereads_boolean (flag : Bool) : Rereads boolean .boolean flag := rfl

theorem rereads_real (number : Binary64) : Rereads real Encode.real number := rfl

theorem rereads_freeText (content : String) : Rereads freeText .text content := rfl

theorem ensures_unsigned (bits : Nat) : Ensures (· < twoTo bits) (unsigned bits) := by
  intro value _
  unfold unsigned
  split
  · split
    · rename_i fits
      exact .ok (by omega)
    · exact .error _
  · exact .error _

theorem rereads_unsigned {bits n : Nat} (fits : n < twoTo bits) :
    Rereads (unsigned bits) Encode.natural n := by
  have inRange : 0 ≤ (n : Int) ∧ (n : Int) < twoTo bits := by omega
  exact if_pos inRange

theorem ensures_decimal : Ensures Decimal.Sound decimal := by
  rintro value ⟨-, bounded⟩
  unfold decimal
  dsimp only
  split
  · obtain ⟨⟩ := bounded
    rename_i whole fits
    obtain ⟨least, greatest⟩ := fits
    have least63 : twoTo 63 < Decimal.coefficientLimit := by decide
    have below64 : twoTo 64 < Decimal.coefficientLimit := by decide
    simp only [Number.leastInteger] at least
    simp only [Number.greatestInteger] at greatest
    exact .ok (Decimal.sound_ofInt (by omega))
  · split
    · rename_i reads
      exact .ok (Decimal.sound_of_ofBinary64? reads)
    · exact .error _
  · split
    · rename_i reads
      exact .ok (Decimal.sound_of_ofText? reads)
    · exact .error _
  · exact .error _

theorem rereads_decimal {amount : Decimal} (sound : amount.Sound) :
    Rereads decimal (fun amount => .text amount.text) amount := by
  unfold Rereads
  simp only [Value.sorted, decimal, Decimal.ofText?_text sound]

theorem Ensures.optional (ensures : Ensures property decode) :
    Ensures (fun data => ∀ given ∈ data, property given) (optional decode) := by
  intro value regular
  unfold Decode.optional
  split
  · exact .ok (by simp)
  · refine (ensures value regular).map fun given holds => ?_
    simpa using holds

theorem rereads_optional {data : Option α} (rereads : ∀ given ∈ data, Rereads decode encode given)
    (notNull : ∀ given, encode given ≠ .null) :
    Rereads (optional decode) (Encode.optional encode) data := by
  cases data with
  | none => rfl
  | some given =>
      have written := rereads given rfl
      unfold Rereads at written ⊢
      rw [Encode.optional, Decode.optional, written]
      · rfl
      · exact Value.sorted_ne_null (notNull given)

theorem rereads_optionalText {name : α → String}
    (rereads : ∀ given, Rereads decode (fun given => .text (name given)) given)
    (data : Option α) :
    Rereads (optional decode) (Encode.optional fun given => .text (name given)) data :=
  rereads_optional (fun given _ => rereads given) fun _ => nofun

theorem Ensures.itemsFrom (ensures : Ensures property decode) {items : List Value}
    (regular : ∀ item ∈ items, item.Regular) (position : Nat) :
    Yields (fun data => ∀ given ∈ data, property given) (itemsFrom decode position items) := by
  induction items generalizing position with
  | nil => exact .ok (by simp)
  | cons item rest inductionHypothesis =>
      obtain ⟨itemRegular, restRegular⟩ := List.forall_mem_cons.mp regular
      rw [Decode.itemsFrom]
      split
      · exact .error _
      · rename_i first decodes
        have firstHolds := ensures item itemRegular first decodes
        refine (inductionHypothesis restRegular (position + 1)).map fun others othersHold => ?_
        exact List.forall_mem_cons.mpr ⟨firstHolds, othersHold⟩

theorem Ensures.listOf (ensures : Ensures property decode) :
    Ensures (fun data => ∀ given ∈ data, property given) (listOf decode) := by
  intro value regular
  unfold Decode.listOf
  split
  · exact ensures.itemsFrom regular.items 0
  · exact .error _

theorem itemsFrom_map {items : List α} (rereads : ∀ given ∈ items, Rereads decode encode given)
    (position : Nat) :
    itemsFrom decode position (items.map fun given => (encode given).sorted) = .ok items := by
  induction items generalizing position with
  | nil => rfl
  | cons first rest inductionHypothesis =>
      obtain ⟨firstRereads, restRereads⟩ := List.forall_mem_cons.mp rereads
      unfold Rereads at firstRereads
      rw [List.map_cons, itemsFrom, firstRereads]
      dsimp only
      rw [inductionHypothesis restRereads]
      rfl

theorem rereads_listOf {items : List α} (rereads : ∀ given ∈ items, Rereads decode encode given) :
    Rereads (listOf decode) (Encode.listOf encode) items := by
  unfold Rereads
  rw [Encode.listOf, Value.sorted, Value.sortedItems_eq_map, List.map_map]
  exact itemsFrom_map rereads 0

theorem rereads_texts (contents : List String) :
    Rereads texts (Encode.listOf .text) contents := by
  have items : itemsFrom text 0 (contents.map (Value.sorted ∘ Value.text)) = .ok contents :=
    itemsFrom_map (fun content _ => rereads_text content) 0
  unfold Rereads
  rw [Encode.listOf, Value.sorted, Value.sortedItems_eq_map, List.map_map, texts, items]

theorem ensures_fields : Ensures Fields.Ordered fields := by
  intro value regular
  unfold Decode.fields
  split
  · exact .ok regular.fields
  · exact .error _

theorem rereads_fields {entries : Fields} (ordered : entries.Ordered) :
    Rereads fields .mapping entries := by
  unfold Rereads
  rw [Value.sorted, ordered.sortedFields_eq]
  rfl

theorem faithful_optionalFreeText : Faithful optionalFreeText (Encode.optional .text) := by
  intro value _
  unfold optionalFreeText
  refine (Yields.any _).map fun content _ => ?_
  split
  · rfl
  · rename_i given
    simp only [Rereads, Encode.optional, Value.sorted, freeText, Except.map, if_neg given]

end

/-! ### Records that are decoded -/

theorem Reading.both_eq_done {functions : Reading (α → β)} {arguments : Reading α} {result : β}
    (done : functions.both arguments = .done result) :
    ∃ f data, functions = .done f ∧ arguments = .done data ∧ f data = result := by
  cases functions with
  | done f =>
      cases arguments with
      | done data => exact ⟨f, data, rfl, rfl, Reading.done.inj done⟩
      | _ => cases done
  | faulty key failure =>
      cases arguments with
      | faulty =>
          rw [Reading.both] at done
          split at done <;> cases done
      | _ => cases done
  | missing name => cases arguments <;> cases done

namespace Record

/-- What a record comes to has a property, whether it is read from a mapping or from a list. -/
structure Ensures (property : α → Prop) (record : Record α) : Prop where
  ofFields : ∀ fields : Fields, (Value.mapping fields).Regular →
    ∀ data, record.fromFields fields = .done data → property data
  ofItems : ∀ expected position (items : List Value), (∀ item ∈ items, item.Regular) →
    Yields (fun read => property read.1 ∧ ∀ item ∈ read.2, item.Regular)
      (record.fromItems expected position items)

theorem Ensures.pure {property : α → Prop} {data : α} (holds : property data) :
    Ensures property (Pure.pure data : Record α) where
  ofFields := by
    rintro _ _ _ ⟨⟩
    exact holds
  ofItems _ _ _ regular := .ok ⟨holds, regular⟩

theorem Ensures.seq {inputs : α → Prop} {results : β → Prop} {function : Record (α → β)}
    {argument : Record α}
    (functions : Ensures (fun f => ∀ data, inputs data → results (f data)) function)
    (arguments : Ensures inputs argument) : Ensures results (function <*> argument) where
  ofFields := by
    intro fields regular result done
    obtain ⟨f, data, functionDone, argumentDone, rfl⟩ := Reading.both_eq_done done
    exact functions.ofFields fields regular f functionDone data
      (arguments.ofFields fields regular data argumentDone)
  ofItems := by
    intro expected position items regular
    change Yields _ ((Record.seq function argument).fromItems expected position items)
    simp only [Record.seq]
    split
    · exact .error _
    · rename_i f rest functionReads
      obtain ⟨holds, restRegular⟩ := functions.ofItems _ _ _ regular _ functionReads
      split
      · exact .error _
      · rename_i data others argumentReads
        obtain ⟨dataHolds, othersRegular⟩ := arguments.ofItems _ _ _ restRegular _ argumentReads
        exact .ok ⟨holds data dataHolds, othersRegular⟩

theorem Ensures.map {inputs : α → Prop} {results : β → Prop} {function : α → β}
    {argument : Record α} (holds : ∀ data, inputs data → results (function data))
    (arguments : Ensures inputs argument) : Ensures results (function <$> argument) :=
  .seq (.pure holds) arguments

variable {property : α → Prop} {decode : Decoder α}

theorem Ensures.mono {weaker : α → Prop} {record : Record α} (ensures : Ensures property record)
    (implies : ∀ data, property data → weaker data) : Ensures weaker record where
  ofFields fields regular data done := implies data (ensures.ofFields fields regular data done)
  ofItems expected position items regular read reads :=
    (ensures.ofItems expected position items regular read reads).imp_left (implies read.1)

theorem ensures_present (decodes : Decode.Ensures property decode) {key : String} {value : Value}
    (regular : value.Regular) {data : α} (done : present decode key value = .done data) :
    property data := by
  unfold present at done
  split at done
  · rename_i reads
    cases done
    exact decodes value regular _ reads
  · cases done

theorem ensures_nextItem (decodes : Decode.Ensures property decode) {fallback : Option α}
    (falls : ∀ data ∈ fallback, property data) (expected : String) (position : Nat)
    {items : List Value} (regular : ∀ item ∈ items, item.Regular) :
    Yields (fun read => property read.1 ∧ ∀ item ∈ read.2, item.Regular)
      (nextItem decode fallback expected position items) := by
  unfold nextItem
  split
  · split
    · exact .ok ⟨falls _ rfl, by simp⟩
    · exact .error _
  · rename_i item rest
    obtain ⟨itemRegular, restRegular⟩ := List.forall_mem_cons.mp regular
    split
    · rename_i data reads
      exact .ok ⟨decodes item itemRegular data reads, restRegular⟩
    · exact .error _

theorem Ensures.field {name : String} {fallback : Option α}
    (decodes : Decode.Ensures property decode) (falls : ∀ data ∈ fallback, property data) :
    Ensures property (field name decode fallback) where
  ofFields := by
    intro fields regular data done
    simp only [Record.field] at done
    split at done
    · rename_i found
      exact ensures_present decodes (Value.closed_regular.get? regular found) done
    · unfold absent at done
      split at done
      · cases done
        exact falls _ rfl
      · cases done
  ofItems _ _ _ regular := ensures_nextItem decodes falls _ _ regular

theorem Ensures.required {name : String} (decodes : Decode.Ensures property decode) :
    Ensures property (required name decode) :=
  .field decodes (by simp)

theorem Ensures.defaulted {name : String} {fallback : α}
    (decodes : Decode.Ensures property decode) (falls : property fallback) :
    Ensures property (defaulted name decode fallback) :=
  .field decodes (by simpa using falls)

/-- One more field that may hold anything. -/
theorem Ensures.seqAny {results : β → Prop} {function : Record (α → β)} {name : String}
    {fallback : Option α} (functions : Ensures (fun f => ∀ data, results (f data)) function) :
    Ensures results (function <*> .field name decode fallback) :=
  .seq (functions.mono fun _ holds data (_ : True) => holds data)
    (.field (.any decode) fun _ _ => trivial)

theorem Ensures.seqPure {results : β → Prop} {function : Record (α → β)} {data : α}
    (functions : Ensures (fun f => results (f data)) function) :
    Ensures results (function <*> Pure.pure data) := by
  refine .seq (functions.mono ?_) (.pure rfl)
  rintro f holds _ rfl
  exact holds

theorem Ensures.mapAny {results : β → Prop} {function : α → β} {name : String}
    {fallback : Option α} (holds : ∀ data, results (function data)) :
    Ensures results (function <$> .field name decode fallback) :=
  .seqAny (.pure holds)

theorem Ensures.spelledTwoWays {name spelling : String} {fallback : α}
    (decodes : Decode.Ensures property decode) (falls : property fallback) :
    Ensures property (spelledTwoWays name spelling decode fallback) where
  ofFields := by
    intro fields regular data done
    simp only [Record.spelledTwoWays] at done
    split at done
    · cases done
      exact falls
    · rename_i found _
      exact ensures_present decodes (Value.closed_regular.get? regular found) done
    · rename_i found
      exact ensures_present decodes (Value.closed_regular.get? regular found) done
    · rename_i found _
      split at done
      · cases done
      · exact ensures_present decodes (Value.closed_regular.get? regular found) done
  ofItems expected position _ regular := by
    have fallsBack : ∀ data ∈ some fallback, property data := by simpa using falls
    exact ensures_nextItem decodes fallsBack expected position regular

theorem Ensures.decoder {record : Record α} (ensures : Ensures property record) (name : String) :
    Decode.Ensures property (record.decoder name) := by
  intro value regular
  unfold Record.decoder
  split
  · split
    · rename_i done
      exact .ok (ensures.ofFields _ regular _ done)
    · exact .error _
    · exact .error _
  · dsimp only
    split
    · exact .error _
    · rename_i reads
      exact .ok (ensures.ofItems _ _ _ regular.items _ reads).1
    · exact .error _
  · exact .error _

end Record

/-! ### Records that are read back -/

/-- Change what has been read. -/
def Reading.map (change : α → β) : Reading α → Reading β
  | .done data => .done (change data)
  | .faulty key failure => .faulty key failure
  | .missing name => .missing name

/-- What the decoder of a record makes of a reading. -/
def Reading.outcome : Reading α → Except Failure α
  | .done data => .ok data
  | .faulty _ failure => .error failure
  | .missing name => fail (.missingField name)

theorem Reading.both_done (functions : Reading (α → β)) (data : α) :
    functions.both (.done data) = functions.map fun f => f data := by
  cases functions <;> rfl

theorem Reading.done_both (f : α → β) (arguments : Reading α) :
    both (.done f) arguments = arguments.map f := by
  cases arguments <;> rfl

namespace Record

/-- What a record comes to for a mapping. -/
def Gives (record : Record α) (fields : Fields) (reading : Reading α) : Prop :=
  record.fromFields fields = reading

variable {fields : Fields} {decode : Decoder α} {encode : α → Value}

theorem Gives.seq {function : Record (α → β)} {argument : Record α} {f : α → β} {data : α}
    (functions : Gives function fields (.done f)) (arguments : Gives argument fields (.done data)) :
    Gives (function <*> argument) fields (.done (f data)) := by
  change (function.fromFields fields).both (argument.fromFields fields) = _
  rw [functions, arguments, Reading.both]

/-- The first part that may not be read. -/
theorem Gives.seqOpen {function : Record (α → β)} {argument : Record α} {f : α → β}
    {reading : Reading α} (functions : Gives function fields (.done f))
    (arguments : Gives argument fields reading) :
    Gives (function <*> argument) fields (reading.map f) := by
  change (function.fromFields fields).both (argument.fromFields fields) = _
  rw [functions, arguments, Reading.done_both]

/-- Parts after the one that may not be read. -/
theorem Gives.openSeq {γ : Type} {function : Record (α → β)} {argument : Record α}
    {reading : Reading γ} {f : γ → α → β} {data : α}
    (functions : Gives function fields (reading.map f))
    (arguments : Gives argument fields (.done data)) :
    Gives (function <*> argument) fields (reading.map fun part => f part data) := by
  change (function.fromFields fields).both (argument.fromFields fields) = _
  rw [functions, arguments, Reading.both_done]
  cases reading <;> rfl

theorem Gives.map {function : α → β} {argument : Record α} {data : α}
    (arguments : Gives argument fields (.done data)) :
    Gives (function <$> argument) fields (.done (function data)) :=
  .seq rfl arguments

theorem Gives.field {entries : Fields} {name : String} {fallback : Option α} {data : α}
    (rereads : Rereads decode encode data)
    (written : Fields.get? name entries = some (encode data)) :
    Gives (field name decode fallback) (Value.sortedFields entries) (.done data) := by
  unfold Rereads at rereads
  simp only [Gives, Record.field, Fields.get?_sortedFields, written, Option.map_some, present,
    rereads]

theorem Gives.fieldOpen {entries : Fields} {name : String} {fallback : Option α} {value : Value}
    (written : Fields.get? name entries = some value) :
    Gives (.field name decode fallback) (Value.sortedFields entries)
      (present decode name value.sorted) := by
  simp only [Gives, Record.field, Fields.get?_sortedFields, written, Option.map_some]

theorem Gives.absent {entries : Fields} {name : String} {fallback : α}
    (missing : Fields.get? name entries = none) :
    Gives (.field name decode (some fallback)) (Value.sortedFields entries) (.done fallback) := by
  simp only [Gives, Record.field, Fields.get?_sortedFields, missing, Option.map_none, Record.absent]

theorem Gives.spelledTwoWays {entries : Fields} {name spelling : String} {fallback data : α}
    (rereads : Rereads decode encode data)
    (written : Fields.get? name entries = some (encode data))
    (missing : Fields.get? spelling entries = none) :
    Gives (spelledTwoWays name spelling decode fallback) (Value.sortedFields entries)
      (.done data) := by
  unfold Rereads at rereads
  simp only [Gives, Record.spelledTwoWays, Fields.get?_sortedFields, written, missing,
    Option.map_some, Option.map_none, present, rereads]

theorem Gives.decoder_eq {record : Record α} {reading : Reading α}
    (gives : Gives record fields reading) (name : String) :
    record.decoder name (.mapping fields) = reading.outcome := by
  rw [decoder, gives]
  rfl

/-- What a record is decoded to is what it comes to. -/
theorem gives_of_decoder {record : Record α} {name : String} {data : α}
    (decodes : record.decoder name (.mapping fields) = .ok data) :
    Gives record fields (.done data) := by
  cases reading : record.fromFields fields with
  | done found =>
      rw [Gives.decoder_eq reading, Reading.outcome] at decodes
      cases decodes
      exact reading
  | faulty key failure =>
      rw [Gives.decoder_eq reading, Reading.outcome] at decodes
      cases decodes
  | missing field =>
      rw [Gives.decoder_eq reading, Reading.outcome] at decodes
      cases decodes

theorem Gives.rereads {record : Record α} {name : String} {entries : Fields} {data : α}
    (gives : Gives record (Value.sortedFields entries) (.done data))
    (written : encode data = .mapping entries) : Rereads (record.decoder name) encode data := by
  rw [Rereads, written, Value.sorted, gives.decoder_eq, Reading.outcome]

end Record

end Decode

end BotConfig
